namespace TableTalk

structure Date where
  year : Nat
  month : Nat
  day : Nat
deriving Repr, DecidableEq, Inhabited

inductive CalendarError where
  | outOfRange
  | yearOutOfRange (year : Int)
  | unknownLabel (label : String)
deriving Repr, DecidableEq

def CalendarError.message : CalendarError → String
  | .outOfRange => "date value out of range"
  | .yearOutOfRange year => s!"year {year} is out of range"
  | .unknownLabel label => s!"Unknown temporal label: {label}"

namespace Date

def maxYear : Nat := 9999

def isLeap (year : Nat) : Bool :=
  year % 4 = 0 ∧ (year % 100 ≠ 0 ∨ year % 400 = 0)

def daysInMonth (year month : Nat) : Nat :=
  if month = 2 then (if isLeap year then 29 else 28)
  else if month = 4 ∨ month = 6 ∨ month = 9 ∨ month = 11 then 30
  else 31

def Valid (d : Date) : Prop :=
  1 ≤ d.year ∧ d.year ≤ maxYear ∧ 1 ≤ d.month ∧ d.month ≤ 12 ∧
    1 ≤ d.day ∧ d.day ≤ daysInMonth d.year d.month

instance (d : Date) : Decidable d.Valid := by
  unfold Valid
  infer_instance

def daysBeforeYear (year : Nat) : Nat :=
  let y := year - 1
  365 * y + y / 4 - y / 100 + y / 400

def daysBeforeMonth (year month : Nat) : Nat :=
  (List.range (month - 1)).foldl (fun days m => days + daysInMonth year (m + 1)) 0

/-- The number of a day, counted from one on the first day of the year 1. -/
def number (d : Date) : Nat :=
  daysBeforeYear d.year + daysBeforeMonth d.year d.month + d.day

def inYear (year : Nat) : (months : Nat) → (month : Nat) → (day : Nat) → Date
  | 0, month, day => ⟨year, month, day⟩
  | months + 1, month, day =>
    let length := daysInMonth year month
    if day ≤ length then ⟨year, month, day⟩ else inYear year months (month + 1) (day - length)

/-- The day with a given number. Four centuries, one century, four years and one year are split off in
turn; the last century of four and the last year of four may be a day longer. -/
def ofNumber (n : Nat) : Date :=
  let days := n - 1
  let inEra := days % 146097
  let century := min (inEra / 36524) 3
  let inCentury := inEra - 36524 * century
  let inCycle := inCentury % 1461
  let yearOfCycle := min (inCycle / 365) 3
  let year := 400 * (days / 146097) + 100 * century + 4 * (inCentury / 1461) + yearOfCycle + 1
  inYear year 11 1 (inCycle - 365 * yearOfCycle + 1)

def lastNumber : Nat := 3652059

def addDays (d : Date) (days : Int) : Except CalendarError Date :=
  let n := d.number + days
  if 1 ≤ n ∧ n ≤ lastNumber then .ok (ofNumber n.toNat) else .error .outOfRange

def weekday (d : Date) : Nat :=
  (d.number + 6) % 7

end Date

end TableTalk
