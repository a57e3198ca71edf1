import TableTalk.Sql.Pattern
import TableTalk.Sql.Query
import TableTalk.Store.Frame

namespace TableTalk.Sql

inductive QueryFault where
  | unreadable
  | unknownTable (table : String)
  | unknownColumn (column : String)
  | incomparable
  | badValue
  | badPattern
  | limitTooLarge
deriving Repr, DecidableEq

namespace QueryFault

def message : QueryFault → String
  | .unreadable => "the statement cannot be read"
  | .unknownTable table => s!"there is no table {table}"
  | .unknownColumn column => s!"there is no column {column}"
  | .incomparable => "the types cannot be compared"
  | .badValue => "a value is out of range"
  | .badPattern => "the pattern cannot be read"
  | .limitTooLarge => "the limit is too large"

end QueryFault

def sameName (a b : String) : Bool :=
  a.toList.map Char.toLower == b.toList.map Char.toLower

abbrev Row := List (String × Value)

def cell? (row : Row) (column : String) : Option Value :=
  (row.find? fun entry => sameName entry.1 column).map Prod.snd

def trimmedFraction (micro : Nat) : String :=
  let digits := (Decimal.padded 6 micro).toList
  String.ofList (digits.reverse.dropWhile (· == '0')).reverse

def momentText (m : Moment) : String :=
  let whole := m.date.iso ++ " " ++ m.clock
  if m.micro = 0 then whole else whole ++ "." ++ trimmedFraction m.micro

def cellText : Value → Value
  | .null => .null
  | .bool b => .text (if b then "true" else "false")
  | .moment m => .text (momentText m)
  | value => .text value.shown

def lowerValue : Value → Except QueryFault Value
  | .null => .ok .null
  | .text s => .ok (.text (Text.lowerEach s))
  | _ => .error .incomparable

def Operand.eval (row : Row) : Operand → Except QueryFault Value
  | .column name => match cell? row name with
    | some v => .ok v
    | none => .error (.unknownColumn name)
  | .asText name => match cell? row name with
    | some v => .ok (cellText v)
    | none => .error (.unknownColumn name)
  | .lowered inner => do lowerValue (← inner.eval row)
  | .value v => .ok v

def floatOf? : Value → Option Float
  | .float x => some x
  | value => value.asInt?.map Decimal.ofInt

/-- The order of floating point numbers: those that are no numbers are equal and greater than all
others. -/
def orderFloats (x y : Float) : Ordering :=
  if Decimal.isNaN x then (if Decimal.isNaN y then .eq else .gt)
  else if Decimal.isNaN y || x < y then .lt
  else if x == y then .eq
  else .gt

def numberOf? (text : String) : Option Value :=
  match Decimal.readInteger text with
  | .ok n => some (.int n)
  | .error _ => (Decimal.readFloat? text).map .float

/-- The order of two values that are there; numbers are compared as numbers, texts by their characters,
moments by time. -/
def orderOf? : Value → Value → Option Ordering
  | .text s, .text t => some (compare s t)
  | .moment m, .moment n => some (compare m n)
  | a, b => match a.asInt?, b.asInt? with
    | some m, some n => some (compare m n)
    | _, _ => do return orderFloats (← floatOf? a) (← floatOf? b)

def Comparator.accepts : Comparator → Ordering → Bool
  | .equal, o => o == .eq
  | .above, o => o == .gt
  | .below, o => o == .lt
  | .atLeast, o => o != .lt
  | .atMost, o => o != .gt
  | .like _, _ => false

def Comparator.apply (c : Comparator) (a b : Value) : Except QueryFault (Option Bool) :=
  match c, a, b with
  | _, .null, _ | _, _, .null => .ok none
  | .like escape, .text s, .text pattern => match isLike? escape s pattern with
    | some outcome => .ok (some outcome)
    | none => .error .badPattern
  | .like _, _, _ => .error .incomparable
  | c, a, b => match orderOf? a b with
    | some o => .ok (some (c.accepts o))
    | none => .error .incomparable

def aligned (c : Comparator) (a b : Value) : Except QueryFault (Value × Value) :=
  match c, a, b with
  | .equal, .text s, .int _ | .equal, .text s, .float _ => match numberOf? s with
    | some n => .ok (n, b)
    | none => .error .badValue
  | _, _, _ => .ok (a, b)

def andThen : Option Bool → Option Bool → Option Bool
  | some false, _ | _, some false => some false
  | some true, some true => some true
  | _, _ => none

def orElse : Option Bool → Option Bool → Option Bool
  | some true, _ | _, some true => some true
  | some false, some false => some false
  | _, _ => none

def Expr.eval (row : Row) : Expr → Except QueryFault (Option Bool)
  | .compare left c right => do
    let (a, b) ← aligned c (← left.eval row) (← right.eval row)
    c.apply a b
  | .and left right => do return andThen (← left.eval row) (← right.eval row)
  | .or left right => do return orElse (← left.eval row) (← right.eval row)

def typeOf? (columns : List Column) (name : String) : Except QueryFault (Option ColumnType) :=
  match columns.find? fun column => sameName column.name name with
  | some column => .ok column.type
  | none => .error (.unknownColumn name)

def fitsParameter (n : Int) : Bool :=
  -(Int.pow 2 127) ≤ n && n < Int.pow 2 127

def Operand.type? (columns : List Column) : Operand → Except QueryFault (Option ColumnType)
  | .column name => typeOf? columns name
  | .asText name => do let _ ← typeOf? columns name; return some .text
  | .lowered inner => do let _ ← inner.type? columns; return some .text
  | .value (.int n) => if fitsParameter n then .ok (some .int) else .error .badValue
  | .value v => match ColumnType.ofValue? v with
    | some type => .ok (some type)
    | none => .error .badValue

def comparable (c : Comparator) (a b : ColumnType) : Bool :=
  a == b || (a != .text && b != .text && a != .moment && b != .moment)
    || (c == .equal && a == .text && b.isNumeric)

/-- Checks that a condition names columns that are there and compares what can be compared; this is
settled before any row is looked at. -/
def Expr.check (columns : List Column) : Expr → Except QueryFault Unit
  | .compare left c right => do
    match ← left.type? columns, ← right.type? columns with
    | some a, some b => if comparable c a b then pure () else throw .incomparable
    | _, _ => pure ()
  | .and left right | .or left right => do left.check columns; right.check columns

def Expr.holds (e : Expr) (row : Row) : Except QueryFault Bool := do
  return (← e.eval row) = some true

def matching (f : Frame) (condition : Option Expr) : Except QueryFault (List (List Value)) := do
  match condition with
  | none => return f.rows
  | some e => do
    e.check f.columns
    let outcomes ← f.rows.mapM fun row => do return (row, ← e.holds (f.cells row))
    return (outcomes.filter Prod.snd).map Prod.fst

def maxLimit : Nat := Nat.pow 2 62

inductive Answer where
  | rows (frame : Frame)
  | count (n : Nat)

def Query.answer (q : Query) (f : Frame) : Except QueryFault Answer := do
  let rows ← matching f q.condition
  match q.result with
  | .count => return .count rows.length
  | .rows none => return .rows { f with rows := rows }
  | .rows (some limit) =>
    if maxLimit < limit then throw .limitTooLarge
    else return .rows { f with rows := rows.take limit }

end TableTalk.Sql
