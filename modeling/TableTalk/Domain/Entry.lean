import TableTalk.Domain.Variations
import TableTalk.Lexicon.Basic
import TableTalk.Store.Basic

namespace TableTalk

structure DomainEntry where
  key : String
  display : String
  category : String
  table : String
  recordId : Value
  forms : Variations

namespace DomainEntry

def sameRecord (a b : DomainEntry) : Bool :=
  a.category == b.category && a.recordId.sameKey b.recordId

def sameName (a b : DomainEntry) : Bool :=
  a.sameRecord b && a.key == b.key

def records (entries : List DomainEntry) : List DomainEntry :=
  Assoc.firsts sameRecord entries

def words (e : DomainEntry) : List String :=
  Text.wordsOf e.key

end DomainEntry

inductive LoadError where
  | store (error : StoreError)
  | missingColumns (columns : List String) (table : String)
  | unusableRecord (kind : String)
  | noCells
  | manyCells
deriving Repr, DecidableEq

namespace LoadError

def message : LoadError → String
  | .store error => error.message
  | .missingColumns columns table =>
    Text.quoted s!"columns {(Value.texts columns).shown} not found in {table}"
  | .unusableRecord kind => s!"unhashable type: '{kind}'"
  | .noCells =>
    "The truth value of an empty array is ambiguous. " ++
      "Use `array.size > 0` to check that an array is not empty."
  | .manyCells =>
    "The truth value of an array with more than one element is ambiguous. Use a.any() or a.all()"

end LoadError

namespace DomainSource

def columns (s : DomainSource) : List String :=
  s.idColumn :: s.valueColumns

/-- Why a cell is neither there nor missing: only a single cell is the one or the other. -/
def unsettled? (cell : Value) : Option LoadError :=
  match cell.cellCount with
  | 0 => some .noCells
  | 1 => none
  | _ => some .manyCells

def isUsableRecord : Value → Bool
  | .list _ | .mapping _ | .named _ _ => false
  | _ => true

/-- Adds the name that a cell holds to those found before; the same name of the same record counts
once. -/
def addCell (s : DomainSource) (lengths : PrefixLengths) (recordId : Value)
    (found : List DomainEntry) (cell : Value) : Except LoadError (List DomainEntry) :=
  match unsettled? cell with
  | some error => .error error
  | none =>
    if cell.isMissing then .ok found
    else
      let display := Text.collapse cell.shown
      let entry : DomainEntry :=
        { key := Text.lower display, display := display, category := s.category, table := s.table
          recordId := recordId, forms := .of lengths display }
      if entry.key.isEmpty then .ok found
      else if !isUsableRecord recordId then .error (.unusableRecord recordId.kind)
      else if found.any entry.sameName then .ok found
      else .ok (found ++ [entry])

def addRow (s : DomainSource) (lengths : PrefixLengths) (found : List DomainEntry)
    (row : List (String × Value)) : Except LoadError (List DomainEntry) :=
  let cell (column : String) : Value := (Assoc.get? column row).getD .null
  s.valueColumns.foldlM (fun found column => s.addCell lengths (cell s.idColumn) found (cell column))
    found

def entriesIn (s : DomainSource) (lengths : PrefixLengths) (f : Frame) :
    Except LoadError (List DomainEntry) :=
  match s.columns.filter fun column => !f.columnNames.contains column with
  | [] => f.records.foldlM (s.addRow lengths) []
  | missing => .error (.missingColumns missing s.table)

def load (s : DomainSource) (lengths : PrefixLengths) (rowLimit : Value) (store : Store) :
    Except LoadError (List DomainEntry) := do
  let frame ← (store.select s.table [] rowLimit).mapError .store
  s.entriesIn lengths frame

end DomainSource

end TableTalk
