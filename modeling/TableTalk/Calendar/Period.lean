import TableTalk.Calendar.Moment

namespace TableTalk

/-- A stretch of time from `start` on, up to but without `stop` if there is one. -/
structure TimeRange where
  label : String
  start : Moment
  stop : Option Moment
deriving Repr, DecidableEq

inductive Period where
  | week
  | month
  | year
deriving Repr, DecidableEq

namespace Period

def ofName? : String → Option Period
  | "week" => some .week
  | "month" => some .month
  | "year" => some .year
  | _ => none

def startOf (period : Period) (d : Date) : Except CalendarError Date :=
  match period with
  | .week => d.addDays (-(d.weekday : Int))
  | .month => .ok { d with day := 1 }
  | .year => .ok { d with month := 1, day := 1 }

def firstOfMonth (year : Int) (month : Nat) : Except CalendarError Date :=
  if 1 ≤ year ∧ year ≤ Date.maxYear then .ok ⟨year.toNat, month, 1⟩
  else .error (.yearOutOfRange year)

def shift (period : Period) (start : Date) (n : Int) : Except CalendarError Date :=
  match period with
  | .week => start.addDays (7 * n)
  | .month =>
    let index : Int := start.year * 12 + (start.month - 1 : Nat) + n
    firstOfMonth (index.fdiv 12) ((index.fmod 12).toNat + 1)
  | .year => firstOfMonth (start.year + n) 1

end Period

inductive TimeLabel where
  | day (offset : Int)
  | this (period : Period)
  | next (period : Period)
  | last (period : Period)
deriving Repr, DecidableEq

namespace TimeLabel

def read? (label : String) : Option TimeLabel :=
  match label with
  | "today" => some (.day 0)
  | "yesterday" => some (.day (-1))
  | "tomorrow" => some (.day 1)
  | _ =>
    let modifier := String.ofList (label.toList.takeWhile (· ≠ '_'))
    let period := String.ofList ((label.toList.dropWhile (· ≠ '_')).drop 1)
    match modifier, Period.ofName? period with
    | "this", some p => some (.this p)
    | "next", some p => some (.next p)
    | "last", some p => some (.last p)
    | _, _ => none

/-- The first day that a label names, and the first day behind it unless the label is open-ended. -/
def days (label : TimeLabel) (today : Date) : Except CalendarError (Date × Option Date) := do
  match label with
  | .day offset =>
    let day ← today.addDays offset
    return (day, some (← day.addDays 1))
  | .this period =>
    let current ← period.startOf today
    return (current, some (← period.shift current 1))
  | .next period =>
    let following ← period.shift (← period.startOf today) 1
    return (following, some (← period.shift following 1))
  | .last period =>
    return (← period.shift (← period.startOf today) (-1), none)

end TimeLabel

namespace TimeRange

def resolve (label : String) (now : Moment) : Except CalendarError TimeRange := do
  match TimeLabel.read? label with
  | none => throw (.unknownLabel label)
  | some reading =>
    let (first, behind) ← reading.days now.date
    return ⟨label, .midnight first, behind.map .midnight⟩

def isOpenEnded (range : TimeRange) : Bool :=
  range.stop.isNone

def describe (label : String) : String :=
  String.ofList (label.toList.map fun c => if c = '_' then ' ' else c)

end TimeRange

end TableTalk
