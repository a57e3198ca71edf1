import TableTalk.Calendar.Date
import TableTalk.Decimal.Numeral

namespace TableTalk

structure Moment where
  date : Date
  micros : Nat
deriving Repr, DecidableEq, Inhabited

namespace Moment

def microsPerSecond : Nat := 1000000

def midnight (d : Date) : Moment := ⟨d, 0⟩

def isMidnight (m : Moment) : Bool := m.micros = 0

def hour (m : Moment) : Nat := m.micros / (3600 * microsPerSecond)

def minute (m : Moment) : Nat := m.micros / (60 * microsPerSecond) % 60

def second (m : Moment) : Nat := m.micros / microsPerSecond % 60

def micro (m : Moment) : Nat := m.micros % microsPerSecond

def rank (m : Moment) : Nat :=
  m.date.number * (86400 * microsPerSecond) + m.micros

instance : Ord Moment where
  compare a b := compare a.rank b.rank

end Moment

open Decimal (padded)

def Date.iso (d : Date) : String :=
  padded 4 d.year ++ "-" ++ padded 2 d.month ++ "-" ++ padded 2 d.day

namespace Moment

def clock (m : Moment) : String :=
  padded 2 m.hour ++ ":" ++ padded 2 m.minute ++ ":" ++ padded 2 m.second

def fullClock (m : Moment) : String :=
  if m.micro = 0 then m.clock else m.clock ++ "." ++ padded 6 m.micro

def iso (m : Moment) : String :=
  m.date.iso ++ "T" ++ m.fullClock

def plain (m : Moment) : String :=
  m.date.iso ++ " " ++ m.fullClock

def isoMillis (m : Moment) : String :=
  m.date.iso ++ "T" ++ m.clock ++ "." ++ padded 3 (m.micro / 1000)

def readFixed? (count : Nat) (text : List Char) : Option (Nat × List Char) :=
  let digits := text.take count
  if digits.length = count ∧ digits.all Char.isDigit then
    some (Decimal.ofDigits (Decimal.digitValues digits), text.drop count)
  else none

def readFraction? (text : List Char) : Option Nat :=
  let digits := text.take 6
  if text ≠ [] ∧ text.all Char.isDigit then
    some (Decimal.ofDigits (Decimal.digitValues digits) * Nat.pow 10 (6 - digits.length))
  else none

def readClock? (text : List Char) : Option Nat := do
  let (hour, rest) ← readFixed? 2 text
  let (minute, rest) ← match rest with
    | ':' :: rest => readFixed? 2 rest
    | rest => some (0, rest)
  let (second, rest) ← match rest with
    | ':' :: rest => readFixed? 2 rest
    | rest => some (0, rest)
  let micro ← match rest with
    | '.' :: rest => readFraction? rest
    | [] => some 0
    | _ => none
  guard (hour < 24 ∧ minute < 60 ∧ second < 60)
  return ((hour * 60 + minute) * 60 + second) * microsPerSecond + micro

def readDate? (text : List Char) : Option (Date × List Char) := do
  let (year, rest) ← readFixed? 4 text
  let rest ← match rest with
    | '-' :: rest => some rest
    | _ => none
  let (month, rest) ← readFixed? 2 rest
  let rest ← match rest with
    | '-' :: rest => some rest
    | _ => none
  let (day, rest) ← readFixed? 2 rest
  let date : Date := ⟨year, month, day⟩
  guard date.Valid
  return (date, rest)

def read? (text : String) : Option Moment := do
  let (date, rest) ← readDate? text.toList
  match rest with
  | [] => some (midnight date)
  | mark :: clock =>
    guard (mark = 'T' ∨ mark = ' ')
    return ⟨date, ← readClock? clock⟩

end Moment

end TableTalk
