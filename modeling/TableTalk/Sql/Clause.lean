import TableTalk.Sql.Rejection

namespace TableTalk.Sql

inductive OrderTest where
  | above
  | below
  | atLeast
  | atMost
deriving Repr, DecidableEq

namespace OrderTest

def sign : OrderTest → String
  | .above => ">"
  | .below => "<"
  | .atLeast => ">="
  | .atMost => "<="

end OrderTest

inductive Condition where
  | contains (column : String) (pattern : String)
  | sameText (column : String) (text : String)
  | same (column : String) (value : Value)
  | ordered (column : String) (test : OrderTest) (value : Value)
  | within (column : String) (low high : Value)

def withoutNul (text : String) : List Char :=
  text.toList.filter fun c => c.toNat != 0

def escapeChar : Char := Text.backslash

def isPatternMark (c : Char) : Bool :=
  c == escapeChar || c == '%' || c == '_'

def containsPattern (text : String) : String :=
  let escaped := (withoutNul text).flatMap fun c => if isPatternMark c then [escapeChar, c] else [c]
  String.ofList ('%' :: escaped ++ ['%'])

namespace Condition

def ofPredicate (p : Predicate) : Condition :=
  match p.operator with
  | .contains => .contains p.column (containsPattern p.value.shown)
  | .gt => .ordered p.column .above p.value
  | .lt => .ordered p.column .below p.value
  | .gte => .ordered p.column .atLeast p.value
  | .lte => .ordered p.column .atMost p.value
  | .range => .within p.column p.value p.value2
  | .equals | .unsupported _ => match p.value with
    | .text s => .sameText p.column (String.ofList (withoutNul s))
    | value => .same p.column value

def text : Condition → String
  | .contains column _ =>
    s!"CAST({quoteIdentifier column} AS VARCHAR) ILIKE ? ESCAPE '" ++ String.singleton escapeChar ++ "'"
  | .sameText column _ => s!"LOWER(CAST({quoteIdentifier column} AS VARCHAR)) = LOWER(?)"
  | .same column _ => s!"{quoteIdentifier column} = ?"
  | .ordered column test _ => s!"{quoteIdentifier column} {test.sign} ?"
  | .within column _ _ => s!"({quoteIdentifier column} >= ? AND {quoteIdentifier column} < ?)"

def params : Condition → List Value
  | .contains _ pattern => [.text pattern]
  | .sameText _ text => [.text text]
  | .same _ value => [value]
  | .ordered _ _ value => [value]
  | .within _ low high => [low, high]

end Condition

abbrev Clause := List (List Condition)

namespace Clause

def ofChecked (predicates : List Predicate) : Clause :=
  (Predicate.groups predicates).map fun group => group.2.map Condition.ofPredicate

def ofCandidates (candidates : List Candidate) : Except Rejection Clause := do
  return ofChecked (← candidates.mapM Candidate.checked)

def ofPredicates (predicates : List Predicate) : Except Rejection Clause :=
  ofCandidates (predicates.map .predicate)

def groupText (members : List Condition) : String :=
  match members.map Condition.text with
  | [text] => text
  | texts => "(" ++ " OR ".intercalate texts ++ ")"

def text (clause : Clause) : String :=
  match clause with
  | [] => ""
  | groups => "WHERE " ++ " AND ".intercalate (groups.map groupText)

def params (clause : Clause) : List Value :=
  clause.flatMap fun members => members.flatMap Condition.params

end Clause

end TableTalk.Sql
