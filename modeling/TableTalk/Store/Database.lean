import TableTalk.Sql.Statement
import TableTalk.Sql.Meaning

namespace TableTalk

inductive StoreError where
  | unknownTable (table : String)
  | unavailable (table : String)
  | badLimit (limit kind : String)
  | rejected (rejection : Sql.Rejection)
  | queryFailed (fault : Sql.QueryFault)
  | disconnected
  | closed
  | couldNotLoad (table : String)
deriving Repr, DecidableEq

namespace StoreError

def closedMessage : String := "Connection Error: Connection already closed!"

def message : StoreError → String
  | .unknownTable table => s!"Unknown table: {table}"
  | .unavailable table => s!"{table} is unavailable"
  | .badLimit limit kind =>
    s!"cannot do positional indexing on RangeIndex with these indexers [{limit}] of type {kind}"
  | .rejected rejection => rejection.message
  | .queryFailed fault => s!"DuckDB query failed: {fault.message}"
  | .disconnected => s!"DuckDB connection unavailable: {closedMessage}"
  | .closed => closedMessage
  | .couldNotLoad table => s!"Could not load table {table}: the data cannot be stored"

end StoreError

structure Database where
  tables : List (String × Frame) := []
  closed : Bool := false
  listing : Option (List String) := none

namespace ColumnType

/-- A value as a cell of a column; a floating point number that is no number is a missing cell. -/
def cellOf : ColumnType → Value → Value
  | .float, .int n => .float (Decimal.ofInt n)
  | .float, .float x => if Decimal.isNaN x then .null else .float x
  | .moment, .text s => (Moment.read? s).elim .null .moment
  | _, value => value

def fetched : ColumnType → Value → Value
  | .float, .null => .missing
  | _, value => value

end ColumnType

namespace Frame

def mapCells (change : ColumnType → Value → Value) (f : Frame) : Frame :=
  let mapCell (column : Column) (value : Value) : Value :=
    column.type.elim value fun type => change type value
  { f with rows := f.rows.map fun row => List.zipWith mapCell f.columns row }

def typed (columns : List (String × ColumnType)) (rows : List (List Value)) : Frame :=
  mapCells ColumnType.cellOf
    { columns := columns.map fun column => ⟨column.1, some column.2⟩, rows := rows }

end Frame

namespace Database

def names (d : Database) : List String :=
  Assoc.keys d.tables

def listTables (d : Database) : Except StoreError (List String) :=
  match d.listing with
  | some names => .ok names
  | none => if d.closed then .error .closed else .ok d.names

def listed (d : Database) : Database :=
  match d.listTables with
  | .ok names => { d with listing := some names }
  | .error _ => d

def checkTable (d : Database) (table : String) : Except StoreError Unit := do
  if (← d.listTables).contains table then pure () else throw (.unknownTable table)

def table? (d : Database) (table : String) : Option Frame :=
  (d.tables.find? fun entry => Sql.sameName entry.1 table).map Prod.snd

def query (d : Database) (text : String) (params : List Value) : Except StoreError Sql.Answer :=
  if d.closed then .error .disconnected
  else match Sql.Query.read text params with
    | none => .error (.queryFailed .unreadable)
    | some q => match d.table? q.table with
      | none => .error (.queryFailed (.unknownTable q.table))
      | some frame => (q.answer frame).mapError .queryFailed

def rows (d : Database) (text : String) (params : List Value) : Except StoreError Frame := do
  match ← d.query text params with
  | .rows frame => return frame.mapCells ColumnType.fetched
  | .count _ => throw (.queryFailed .unreadable)

def selectAll (d : Database) (table : String) : Except StoreError Frame := do
  d.checkTable table
  d.rows s!"SELECT * FROM {Sql.quoteIdentifier table}" []

def select (d : Database) (table : String) (candidates : List Sql.Candidate) (limit : Value) :
    Except StoreError Frame := do
  d.checkTable table
  let statement ← (Sql.Statement.select table candidates limit).mapError .rejected
  d.rows statement.text statement.params

def count (d : Database) (table : String) (candidates : List Sql.Candidate) :
    Except StoreError Nat := do
  d.checkTable table
  let statement ← (Sql.Statement.count table candidates).mapError .rejected
  match ← d.query statement.text statement.params with
  | .count n => return n
  | .rows _ => throw (.queryFailed .unreadable)

def canStore (table : String) (frame : Frame) : Bool :=
  !frame.columns.isEmpty && !table.isEmpty && !table.toList.contains Text.doubleQuote

def load (d : Database) (table : String) (frame : Frame) : Except StoreError Database :=
  if d.closed then .error .closed
  else if canStore table frame then
    let others := d.tables.filter fun entry => !Sql.sameName entry.1 table
    .ok { d with tables := others ++ [(table, frame)], listing := none }
  else .error (.couldNotLoad table)

def close (d : Database) : Database :=
  { d with closed := true }

end Database

end TableTalk
