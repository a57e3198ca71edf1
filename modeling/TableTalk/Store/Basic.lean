import TableTalk.Store.Database

namespace TableTalk

inductive Contents where
  | memory (tables : List (String × Frame))
  | database (d : Database)

/-- A store, with the tables whose lookups fail and those whose lookups never answer. -/
structure Store where
  contents : Contents
  failing : List String := []
  hanging : List String := []

namespace Store

def memoryTable (tables : List (String × Frame)) (table : String) : Except StoreError Frame :=
  match Assoc.get? table tables with
  | some frame => .ok frame
  | none => .error (.unknownTable table)

def listTables (s : Store) : Except StoreError (List String) :=
  match s.contents with
  | .memory tables => .ok (Assoc.keys tables)
  | .database d => d.listTables

def listed (s : Store) : Store :=
  match s.contents with
  | .memory _ => s
  | .database d => { s with contents := .database d.listed }

def selectAll (s : Store) (table : String) : Except StoreError Frame :=
  match s.contents with
  | .memory tables => memoryTable tables table
  | .database d => d.selectAll table

def count (s : Store) (table : String) (candidates : List Sql.Candidate) : Except StoreError Nat :=
  match s.contents with
  | .memory tables => (memoryTable tables table).map Frame.size
  | .database d => d.count table candidates

def isFailing (s : Store) (table : String) : Bool :=
  s.failing.contains table

def isHanging (s : Store) (table : String) : Bool :=
  s.hanging.contains table

/-- The limit of a lookup in memory: an integer or none at all, truth values being no integers here. -/
def memoryLimit : Value → Except StoreError (Option Int)
  | .null => .ok none
  | .int n => .ok (some n)
  | limit => .error (.badLimit limit.shown limit.kind)

def memoryRows (tables : List (String × Frame)) (table : String) (limit : Value) :
    Except StoreError Frame := do
  let frame ← memoryTable tables table
  return frame.head (← memoryLimit limit)

def select (s : Store) (table : String) (candidates : List Sql.Candidate) (limit : Value) :
    Except StoreError Frame :=
  if s.isFailing table then .error (.unavailable table)
  else match s.contents with
    | .memory tables => memoryRows tables table limit
    | .database d => d.select table candidates limit

/-- The store after lookups of tables; those that fail anyway do not reach the list of tables. -/
def afterSelect (s : Store) (tables : List String) : Store :=
  if tables.any fun table => !s.isFailing table && !s.isHanging table then s.listed else s

def load (s : Store) (table : String) (frame : Frame) : Except StoreError Store :=
  match s.contents with
  | .memory tables => .ok { s with contents := .memory (Assoc.put table frame tables) }
  | .database d => (d.load table frame).map fun d => { s with contents := .database d }

def close (s : Store) : Store :=
  match s.contents with
  | .memory _ => s
  | .database d => { s with contents := .database d.close }

def ofTables (tables : List (String × Frame)) : Except StoreError Store := do
  let d ← tables.foldlM (fun d entry => Database.load d entry.1 entry.2) ({} : Database)
  return { contents := .database d }

end Store

end TableTalk
