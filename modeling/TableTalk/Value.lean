import TableTalk.Calendar.Moment

namespace TableTalk

/-- A value. A mapping keeps the order of its entries, and a named record is a value with a type of
its own that shows as its name and its fields. -/
inductive Value where
  | null
  | bool (b : Bool)
  | int (n : Int)
  | float (x : Float)
  | text (s : String)
  | date (d : Date)
  | moment (m : Moment)
  | list (items : List Value)
  | mapping (entries : List (Value × Value))
  | named (name : String) (fields : List (String × Value))
deriving Inhabited

namespace Value

def record (fields : List (String × Value)) : Value :=
  .mapping (fields.map fun field => (.text field.1, field.2))

def texts (items : List String) : Value :=
  .list (items.map .text)

def ofText? (text : Option String) : Value :=
  text.elim .null .text

def missing : Value := .float Decimal.notANumber

def asInt? : Value → Option Int
  | .bool b => some (if b then 1 else 0)
  | .int n => some n
  | _ => none

/-- Whether a value counts as empty: nothing, false, zero, or a text or collection without content. -/
def isEmpty : Value → Bool
  | .null => true
  | .bool b => !b
  | .int n => n = 0
  | .float x => x == 0
  | .text s => s.isEmpty
  | .list items => items.isEmpty
  | .mapping entries => entries.isEmpty
  | _ => false

/-- Whether two values are the same key. Numbers are the same if they are equal as numbers, whatever
their types; collections are never keys. A missing number has no identity of its own here: all of them
are one key, as they are where one missing number stands for all. Where each row brings its own, as a
column of numbers does, rows without a number could be keys apart, and they are one here too. -/
def sameKey : Value → Value → Bool
  | .null, .null => true
  | .text s, .text t => s = t
  | .date d, .date e => d = e
  | .moment m, .moment n => m = n
  | .float x, .float y => x == y || (Decimal.isNaN x && Decimal.isNaN y)
  | .float x, b => (b.asInt?.bind (Decimal.compareInt? x)) = some .eq
  | a, .float y => (a.asInt?.bind (Decimal.compareInt? y)) = some .eq
  | a, b => match a.asInt?, b.asInt? with
    | some m, some n => m = n
    | _, _ => false

def field? (name : String) : Value → Option Value
  | .mapping entries => (entries.find? fun entry => entry.1.sameKey (.text name)).map Prod.snd
  | _ => none

def putEntry (key value : Value) : List (Value × Value) → List (Value × Value)
  | [] => [(key, value)]
  | (k, v) :: rest => if k.sameKey key then (k, value) :: rest else (k, v) :: putEntry key value rest

def kind : Value → String
  | .null => "NoneType"
  | .bool _ => "bool"
  | .int _ => "int"
  | .float _ => "float"
  | .text _ => "str"
  | .date _ => "date"
  | .moment _ => "datetime"
  | .list _ => "list"
  | .mapping _ => "dict"
  | .named name _ => name

/-- The most levels of lists that count as one grid of cells. A list that lies deeper is a cell. -/
def gridDepth : Nat := 64

def commonStart : List Nat → List Nat → List Nat
  | m :: ms, n :: ns => if m = n then m :: commonStart ms ns else []
  | _, _ => []

/-- The size of a value as a grid of cells, level by level from the outside. Lists that differ in
length are cells of the level above them. -/
def gridSize : Nat → Value → List Nat
  | _ + 1, .list [] => [0]
  | depth + 1, .list (item :: rest) =>
    (rest.length + 1) ::
      rest.foldl (fun size other => commonStart size (gridSize depth other)) (gridSize depth item)
  | _, _ => []

def cellCount (v : Value) : Nat :=
  (gridSize gridDepth v).foldr (· * ·) 1

def isMissingWithin : Nat → Value → Bool
  | _, .null => true
  | _, .float x => Decimal.isNaN x
  | depth + 1, .list [item] => isMissingWithin depth item
  | _, _ => false

def isMissing (v : Value) : Bool :=
  isMissingWithin gridDepth v

end Value

end TableTalk
