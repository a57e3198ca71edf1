import TableTalk.Filter.Predicate
import TableTalk.Sql.Identifier

namespace TableTalk.Sql

inductive Rejection where
  | notAPredicate (kind : String)
  | blankName (context : String)
  | badCharacters (context name : String)
  | operatorNotAllowed (operator : String)
  | valueRequired (context : String)
  | valueTooLong (context : String)
  | notOrderable (operator : String)
  | badLimit (limit : String)
deriving Repr, DecidableEq

def maxValueLength : Nat := 10000

def Rejection.message : Rejection → String
  | .notAPredicate kind => s!"Invalid predicate: expected FilterPredicate, got {kind}"
  | .blankName context => s!"Invalid {context}: must be a non-empty string"
  | .badCharacters context name => s!"Invalid {context}: '{name}' contains invalid characters"
  | .operatorNotAllowed operator => s!"Invalid predicate: operator '{operator}' not allowed"
  | .valueRequired context => s!"Invalid {context}: value is required"
  | .valueTooLong context =>
    s!"Invalid {context}: value too long (max {maxValueLength} characters)"
  | .notOrderable operator => s!"Invalid predicate: '{operator}' needs a numeric or date value"
  | .badLimit limit => s!"Invalid limit: {limit}"

def checkName (context name : String) : Except Rejection Unit :=
  if Text.isBlankText name then .error (.blankName context)
  else if name.toList.all isAllowedChar then .ok ()
  else .error (.badCharacters context name)

def checkValue (context : String) : Value → Except Rejection Unit
  | .null => .error (.valueRequired context)
  | .text s => if maxValueLength < s.length then .error (.valueTooLong context) else .ok ()
  | _ => .ok ()

def isText : Value → Bool
  | .text _ => true
  | _ => false

def checkPredicate (p : Predicate) : Except Rejection Unit := do
  checkName "column" p.column
  match p.operator with
  | .unsupported name => throw (.operatorNotAllowed name)
  | _ => pure ()
  checkValue s!"{p.column} value" p.value
  if p.operator = .range then checkValue s!"{p.column} upper bound" p.value2
  if p.operator.isOrdering && isText p.value then throw (.notOrderable p.operator.name)

inductive Candidate where
  | predicate (p : Predicate)
  | other (value : Value)

def Candidate.checked : Candidate → Except Rejection Predicate
  | .predicate p => do checkPredicate p; return p
  | .other value => .error (.notAPredicate value.kind)

end TableTalk.Sql
