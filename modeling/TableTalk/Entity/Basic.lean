import TableTalk.Entity.Span
import TableTalk.Filter.Operator
import TableTalk.Calendar.Period
import TableTalk.Value.Shown

namespace TableTalk

inductive EntityKind where
  | table
  | domainValue
  | pronoun
  | temporal
  | numericFilter
  | statusFilter
  | locationFilter
deriving Repr, DecidableEq, Inhabited

namespace EntityKind

def all : List EntityKind :=
  [.table, .domainValue, .pronoun, .temporal, .numericFilter, .statusFilter, .locationFilter]

def name : EntityKind → String
  | .table => "TableEntity"
  | .domainValue => "DomainValue"
  | .pronoun => "Pronoun"
  | .temporal => "Temporal"
  | .numericFilter => "NumericFilter"
  | .statusFilter => "StatusFilter"
  | .locationFilter => "LocationFilter"

def ofName? (name : String) : Option EntityKind :=
  all.find? fun kind => kind.name = name

end EntityKind

structure Comparison where
  operator : Operator
  value : Value

inductive Canonical where
  | nothing
  | text (s : String)
  | range (r : TimeRange)
  | comparison (c : Comparison)
deriving Inhabited

namespace Canonical

def ofText? (text : Option String) : Canonical :=
  text.elim .nothing .text

def toValue : Canonical → Value
  | .nothing => .null
  | .text s => .text s
  | .range r =>
    .named "TemporalRange"
      [("label", .text r.label), ("start", .moment r.start), ("end", r.stop.elim .null .moment)]
  | .comparison c =>
    .named "NumericComparison" [("operator", .text c.operator.name), ("value", c.value)]

def toRecord : Canonical → Value
  | .nothing => .null
  | .text s => .text s
  | .range r =>
    .record [("label", .text r.label), ("start", .text r.start.iso),
      ("end", r.stop.elim .null fun m => .text m.iso)]
  | .comparison c => .record [("operator", .text c.operator.name), ("value", c.value)]

def isEmpty : Canonical → Bool
  | .nothing => true
  | .text s => s.isEmpty
  | _ => false

end Canonical

structure Entity where
  text : String
  kind : EntityKind
  span : Span
  confidence : Float
  table : Option String := none
  canonical : Canonical := .nothing
  category : Option String := none
  recordId : Value := .null
  isFilter : Bool := true
  alternatives : List String := []
  hover : String := ""
deriving Inhabited

namespace Entity

def toRecord (e : Entity) : Value :=
  .record [
    ("text", .text e.text), ("kind", .text e.kind.name), ("start", .int e.span.start),
    ("end", .int e.span.stop), ("confidence", .float e.confidence), ("table", .ofText? e.table),
    ("canonical_value", e.canonical.toRecord), ("category", .ofText? e.category),
    ("record_id", e.recordId), ("is_filter_candidate", .bool e.isFilter),
    ("alternatives", .texts e.alternatives), ("hover_text", .text e.hover)]

def inOrder (entities : List Entity) : List Entity :=
  entities.mergeSort fun a b => a.span.le b.span

end Entity

end TableTalk
