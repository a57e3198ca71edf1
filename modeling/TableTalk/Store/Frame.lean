import TableTalk.Value.Shown
import TableTalk.Assoc
import TableTalk.Text.Substring

namespace TableTalk

inductive ColumnType where
  | text
  | int
  | float
  | bool
  | moment
deriving Repr, DecidableEq

namespace ColumnType

def isNumeric : ColumnType → Bool
  | .int | .float => true
  | _ => false

def ofValue? : Value → Option ColumnType
  | .text _ => some .text
  | .int _ => some .int
  | .float _ => some .float
  | .bool _ => some .bool
  | .moment _ => some .moment
  | _ => none

end ColumnType

/-- A column; a table that only lives in memory does not fix the types of its cells. -/
structure Column where
  name : String
  type : Option ColumnType := none
deriving Repr, DecidableEq

structure Frame where
  columns : List Column := []
  rows : List (List Value) := []
deriving Inhabited

namespace Frame

def size (f : Frame) : Nat :=
  f.rows.length

def columnNames (f : Frame) : List String :=
  f.columns.map Column.name

def isEmpty (f : Frame) : Bool :=
  f.rows.isEmpty || f.columns.isEmpty

def cells (f : Frame) (row : List Value) : List (String × Value) :=
  f.columnNames.zip row

def records (f : Frame) : List (List (String × Value)) :=
  f.rows.map f.cells

/-- A frame without fixed types: its columns are those that any of the rows has, in the order of their
first appearance, and a row lacks a cell where it has no such column. -/
def ofRecords (rows : List (List (String × Value))) : Frame :=
  let names := Assoc.distinct (rows.flatMap Assoc.keys)
  { columns := names.map fun name => { name := name }
    rows := rows.map fun row => names.map fun name => (Assoc.get? name row).getD .missing }

/-- The first rows, all of them without a limit; a negative limit drops rows from the end. -/
def head (f : Frame) (limit : Option Int) : Frame :=
  match limit with
  | none => f
  | some n => { f with rows := f.rows.take (Text.frontCount f.rows.length n) }

end Frame

end TableTalk
