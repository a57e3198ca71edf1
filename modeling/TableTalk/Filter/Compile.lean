import TableTalk.Entity.Basic
import TableTalk.Filter.Predicate
import TableTalk.Lexicon.Taxonomy
import TableTalk.Text.Token

namespace TableTalk.Filter

structure Condition where
  column : String
  operator : Operator
  value : Value
  value2 : Value := .null

def roleOfCategory? : Option String → Option Role
  | some "user" => some .user
  | some "product" => some .product
  | some "customer" => some .customer
  | _ => none

/-- The condition that a domain value puts on one column. A column of keys of the category's home table
takes a record that the value stands for; any other column takes the text. -/
def domainCondition? (t : Taxonomy) (e : Entity) (home : Option String) (column : String) :
    Option Condition :=
  let isKey := home.any fun table => !table.isEmpty && t.references column table
  if isKey then
    match e.recordId with
    | .null => none
    | recordId => some ⟨column, .equals, recordId, .null⟩
  else if e.canonical.isEmpty then none
  else some ⟨column, .contains, e.canonical.toValue, .null⟩

def domainConditions (t : Taxonomy) (e : Entity) (home : Option String) : List Condition :=
  match roleOfCategory? e.category with
  | some role => (t.fieldsFor role).filterMap (domainCondition? t e home)
  | none => []

def conditions (t : Taxonomy) (words : List String) (home : Option String) (e : Entity) :
    List Condition :=
  match e.kind with
  | .table => []
  | .domainValue => domainConditions t e home
  | .pronoun => match t.ownerField?, e.canonical with
    | none, _ | _, .nothing => []
    | some owner, canonical => [⟨owner, .equals, canonical.toValue, .null⟩]
  | .temporal => match t.primaryDateField?, e.canonical with
    | some column, .range r => match r.stop with
      | none => [⟨column, .gte, .moment r.start, .null⟩]
      | some stop => [⟨column, .range, .moment r.start, .moment stop⟩]
    | _, _ => []
  | .numericFilter => match e.canonical, t.numericColumnFor? words with
    | .comparison c, some column => [⟨column, c.operator, c.value, .null⟩]
    | _, _ => []
  | .statusFilter =>
    let columns := if e.category = some "priority" then t.priorityFields else t.statusFields
    columns.map fun column => ⟨column, .equals, e.canonical.toValue, .null⟩
  | .locationFilter =>
    t.locationFields.map fun column => ⟨column, .contains, e.canonical.toValue, .null⟩

def groupOf (table : String) (t : Taxonomy) (words : List String)
    (homes : List (String × String)) (group : Int) (e : Entity) : List Predicate :=
  let home := e.category.bind fun category => Assoc.get? category homes
  (conditions t words home e).map fun c =>
    ⟨table, c.column, c.operator, c.value, c.value2, group, e.text⟩

/-- The predicates of entities, groups numbered from `group` on. An entity that does not filter, or for
which the table has no column, takes no number. -/
def compileFrom (table : String) (t : Taxonomy) (words : List String)
    (homes : List (String × String)) (group : Int) : List Entity → List Predicate
  | [] => []
  | e :: rest =>
    let members := if e.isFilter then groupOf table t words homes group e else []
    match members with
    | [] => compileFrom table t words homes group rest
    | members => members ++ compileFrom table t words homes (group + 1) rest

def questionWords (question : String) : List String :=
  (Token.scan question.toList).map Token.text

def compile (table : String) (t : Taxonomy) (entities : List Entity) (question : String)
    (homes : List (String × String)) : List Predicate :=
  compileFrom table t (questionWords question) homes 0 entities

end TableTalk.Filter
