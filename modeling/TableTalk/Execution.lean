import TableTalk.Store.Basic

namespace TableTalk

structure ExecutionOptions where
  rowLimit : Value := .int 50
  maxWorkers : Int := 8

inductive Outcome where
  | answered (frame : Frame) (filters : List String)
  | failed (error : StoreError)
  | timedOut

namespace Outcome

def frame : Outcome → Frame
  | .answered frame _ => frame
  | _ => {}

def error? : Outcome → Option String
  | .answered .. => none
  | .failed error => some error.message
  | .timedOut => some "timeout"

def isTimedOut : Outcome → Bool
  | .timedOut => true
  | _ => false

end Outcome

structure Execution where
  outcomes : List (String × Outcome) := []

namespace Execution

def predicatesOf (table : String) (predicates : List (String × List Predicate)) : List Predicate :=
  (Assoc.get? table predicates).getD []

def lookup (store : Store) (rowLimit : Value) (predicates : List Predicate) (table : String) :
    Outcome :=
  match store.select table (predicates.map .predicate) rowLimit with
  | .ok frame => .answered frame (predicates.map Predicate.describe)
  | .error error => .failed error

def workers (options : ExecutionOptions) (tables : List String) : Int :=
  max 1 (min options.maxWorkers tables.length)

/-- Runs the lookups in order; `free` workers are not kept by lookups that never answer. -/
def runFrom (store : Store) (options : ExecutionOptions) (predicates : List (String × List Predicate)) :
    (free : Int) → List String → List (String × Outcome)
  | _, [] => []
  | free, table :: rest =>
    if free ≤ 0 then (table, .timedOut) :: runFrom store options predicates free rest
    else if store.isHanging table then
      (table, .timedOut) :: runFrom store options predicates (free - 1) rest
    else
      (table, lookup store options.rowLimit (predicatesOf table predicates) table)
        :: runFrom store options predicates free rest

def run (store : Store) (options : ExecutionOptions) (tables : List String)
    (predicates : List (String × List Predicate)) : Execution :=
  ⟨runFrom store options predicates (workers options tables) (Assoc.distinct tables)⟩

def frames (x : Execution) : List (String × Frame) :=
  x.outcomes.map fun entry => (entry.1, entry.2.frame)

def errors (x : Execution) : List (String × String) :=
  x.outcomes.filterMap fun entry => entry.2.error?.map fun error => (entry.1, error)

def timedOut (x : Execution) : List String :=
  (x.outcomes.filter fun entry => entry.2.isTimedOut).map Prod.fst

def counts (x : Execution) : List (String × Nat) :=
  x.frames.map fun entry => (entry.1, entry.2.size)

end Execution

end TableTalk
