import TableTalk.Assoc
import TableTalk.Text.Case

namespace TableTalk

inductive Role where
  | user
  | product
  | customer
  | status
  | priority
  | date
  | location
  | numeric
deriving Repr, DecidableEq

namespace Role

def all : List Role :=
  [.user, .product, .customer, .status, .priority, .date, .location, .numeric]

def name : Role → String
  | .user => "user"
  | .product => "product"
  | .customer => "customer"
  | .status => "status"
  | .priority => "priority"
  | .date => "date"
  | .location => "location"
  | .numeric => "numeric"

def ofName? (name : String) : Option Role :=
  all.find? fun role => role.name = name

end Role

structure Relationship where
  foreignKey : String
  targetKey : String
deriving Repr, DecidableEq

/-- One table: its key, the other words for it, its columns by role, and the tables it is related to.
A numeric hint names the column that a comparison is about when its word is in the question. -/
structure Taxonomy where
  table : String
  primaryKey : String := "id"
  aliases : List String := []
  userFields : List String := []
  productFields : List String := []
  customerFields : List String := []
  statusFields : List String := []
  priorityFields : List String := []
  dateFields : List String := []
  locationFields : List String := []
  numericFields : List String := []
  numericHints : List (String × String) := []
  relationships : List (String × Relationship) := []
deriving Repr, DecidableEq

namespace Taxonomy

def fieldsFor (t : Taxonomy) : Role → List String
  | .user => t.userFields
  | .product => t.productFields
  | .customer => t.customerFields
  | .status => t.statusFields
  | .priority => t.priorityFields
  | .date => t.dateFields
  | .location => t.locationFields
  | .numeric => t.numericFields

def ownerField? (t : Taxonomy) : Option String :=
  t.userFields.head?

def primaryDateField? (t : Taxonomy) : Option String :=
  t.dateFields.head?

/-- Whether a column holds keys of rows of `home`: the primary key does if `home` is this very table,
and so does the foreign key of a declared relationship. -/
def references (t : Taxonomy) (column home : String) : Bool :=
  if home = t.table then column = t.primaryKey
  else match Assoc.get? home t.relationships with
    | some relationship => relationship.foreignKey = column
    | none => false

/-- The column that a comparison is about: that of the first hint whose word is among the words of the
question, and the first numeric column without such a hint. -/
def numericColumnFor? (t : Taxonomy) (words : List String) : Option String :=
  let lowered := words.map Text.lower
  let hint := t.numericHints.find? fun hint =>
    lowered.contains hint.1 && t.numericFields.contains hint.2
  match t.numericFields with
  | [] => none
  | first :: _ => some (hint.elim first Prod.snd)

end Taxonomy

end TableTalk
