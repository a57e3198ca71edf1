import TableTalk.Filter.Operator
import TableTalk.Assoc
import TableTalk.Value.Shown

namespace TableTalk

/-- A condition on a column. `value2` is the upper end of a range. -/
structure Predicate where
  table : String
  column : String
  operator : Operator
  value : Value
  value2 : Value := .null
  group : Int := 0
  sourceText : String := ""
deriving Inhabited

namespace Predicate

def describeValue : Value → String
  | .moment m => if m.isMidnight then m.date.iso else m.iso
  | .text s => "'" ++ s ++ "'"
  | value => value.shown

def describe (p : Predicate) : String :=
  let place := p.table ++ "." ++ p.column
  match p.operator with
  | .range => s!"{place} in [{describeValue p.value}, {describeValue p.value2})"
  | operator => s!"{place} {operator.symbol} {describeValue p.value}"

def answerValue : Value → Value
  | .moment m => .text m.iso
  | .named _ fields => .record fields
  | value => value

def toRecord (p : Predicate) : Value :=
  .record [
    ("table", .text p.table), ("column", .text p.column), ("operator", .text p.operator.name),
    ("value", answerValue p.value), ("value2", answerValue p.value2), ("group", .int p.group),
    ("source_text", .text p.sourceText)]

def groups (predicates : List Predicate) : List (Int × List Predicate) :=
  Assoc.groupBy group predicates

def describeGroup (members : List Predicate) : String :=
  match members.map describe with
  | [line] => line
  | lines => "(" ++ " OR ".intercalate lines ++ ")"

end Predicate

end TableTalk
