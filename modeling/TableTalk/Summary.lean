import TableTalk.Entity.Basic
import TableTalk.Filter.Predicate
import TableTalk.Store.Frame
import TableTalk.Decimal.Fixed

namespace TableTalk

structure Summary where
  text : String
  counts : List (String × Nat)
  totalRows : Nat
  homogeneity : Float
  appliedFilters : List String

namespace Summary

def isLiteral : EntityKind → Bool
  | .domainValue | .pronoun | .statusFilter | .locationFilter => true
  | _ => false

/-- What an entity stands for as lowered texts: its value, and the record it was resolved to. -/
def literalsOf (e : Entity) : List String :=
  if isLiteral e.kind && e.isFilter then
    [e.canonical.toValue, e.recordId].filterMap fun value => match value with
      | .null => none
      | value => some (Text.lower value.shown)
  else []

def literals (entities : List Entity) : List String :=
  Assoc.distinct ((entities.flatMap literalsOf).filter fun text => !text.isEmpty)

/-- Whether all columns hold numbers and some of them floating point numbers, so that all cells of a row
are floating point numbers. -/
def isWidened (f : Frame) : Bool :=
  f.columns.all (fun column => column.type.any ColumnType.isNumeric)
    && f.columns.any fun column => column.type == some .float

def widened : Value → Value
  | .int n => .float (Decimal.ofInt n)
  | value => value

def cellText (cell : Value) : String :=
  if cell.isMissing then "" else cell.shown

def rowText (f : Frame) (row : List Value) : String :=
  let row := if isWidened f then row.map widened else row
  Text.lower (Text.unwords (row.map cellText))

def matchingRows (literals : List String) (f : Frame) : Nat :=
  if f.isEmpty then 0
  else f.rows.countP fun row =>
    let text := rowText f row
    literals.any fun literal => Text.contains text literal

/-- The share of rows that contain one of the literals, to four places: none without rows, and all of them
without literals. -/
def homogeneityOf (frames : List (String × Frame)) (entities : List Entity) : Float :=
  let total := frames.foldl (fun n entry => n + entry.2.size) 0
  if total = 0 then 0
  else match literals entities with
    | [] => 1
    | literals =>
      let found := frames.foldl (fun n entry => n + matchingRows literals entry.2) 0
      Decimal.roundTo 4 (Decimal.quotient found total)

def filterLines (predicates : List (String × List Predicate)) : List String :=
  Assoc.distinct <| predicates.flatMap fun entry =>
    (Predicate.groups entry.2).map fun group => Predicate.describeGroup group.2

def listed (items : List String) : String :=
  ", ".intercalate items

def foundText (counts : List (String × Nat)) (total : Nat) : String :=
  if counts.isEmpty then "No tables matched the question."
  else if total = 0 then s!"No matching records found in {listed (Assoc.keys counts)}."
  else
    let noun := if total = 1 then "record" else "records"
    let tables := if counts.length = 1 then "table" else "tables"
    let breakdown := listed (counts.map fun entry => s!"{entry.1} — {entry.2}")
    s!"Found {total} {noun} across {counts.length} {tables}: {breakdown}."

def textOf (counts : List (String × Nat)) (total : Nat) (filters failed : List String) : String :=
  foundText counts total
    ++ (if filters.isEmpty then "" else " Filters: " ++ "; ".intercalate filters ++ ".")
    ++ (if failed.isEmpty then "" else s!" Could not query: {listed failed}.")

def of (frames : List (String × Frame)) (errors : List (String × String)) (entities : List Entity)
    (predicates : List (String × List Predicate)) : Summary :=
  let counts := frames.map fun entry => (entry.1, entry.2.size)
  let total := counts.foldl (fun n entry => n + entry.2) 0
  let filters := filterLines predicates
  let failed := (Assoc.keys counts).filter fun table => Assoc.has table errors
  { text := textOf counts total filters failed
    counts := counts
    totalRows := total
    homogeneity := homogeneityOf frames entities
    appliedFilters := filters }

end Summary

end TableTalk
