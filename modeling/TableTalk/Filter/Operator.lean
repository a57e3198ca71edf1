namespace TableTalk

/-- How a filter compares a column with its value. A name that no operator has is kept, so that a
filter with it can be shown before it is refused. -/
inductive Operator where
  | equals
  | contains
  | gt
  | lt
  | gte
  | lte
  | range
  | unsupported (name : String)
deriving Repr, DecidableEq, Inhabited

namespace Operator

def supported : List Operator := [.equals, .contains, .gt, .lt, .gte, .lte, .range]

def name : Operator → String
  | .equals => "equals"
  | .contains => "contains"
  | .gt => "gt"
  | .lt => "lt"
  | .gte => "gte"
  | .lte => "lte"
  | .range => "range"
  | .unsupported name => name

def ofName (name : String) : Operator :=
  (supported.find? fun operator => operator.name = name).getD (.unsupported name)

def symbol : Operator → String
  | .equals => "="
  | .gt => ">"
  | .lt => "<"
  | .gte => ">="
  | .lte => "<="
  | operator => operator.name

def isOrdering : Operator → Bool
  | .gt | .lt | .gte | .lte => true
  | _ => false

end Operator

end TableTalk
