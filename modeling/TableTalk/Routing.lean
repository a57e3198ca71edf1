import TableTalk.Entity.Basic
import TableTalk.Lexicon.Basic
import TableTalk.Decimal.Fixed

namespace TableTalk

inductive RoutingMethod where
  | entities
  | personalFallback
  | fallback
deriving Repr, DecidableEq

def RoutingMethod.name : RoutingMethod → String
  | .entities => "entities"
  | .personalFallback => "personal_fallback"
  | .fallback => "fallback"

structure Routing where
  reasons : List (String × String)
  method : RoutingMethod
deriving Repr, DecidableEq

namespace Routing

abbrev Reasons := List (String × String)

def addNamed (reasons : Reasons) (e : Entity) : Reasons :=
  match e.kind, e.table with
  | .table, some table =>
    if table.isEmpty then reasons
    else Assoc.putNew table s!"named explicitly ('{e.text}')" reasons
  | _, _ => reasons

def addForCategory (l : Lexicon) (hasNamed : Bool) (category text : String) (reasons : Reasons) :
    Reasons :=
  match l.categoryRouting? category with
  | none => reasons
  | some routing =>
    let home := routing.homeTable
    if Assoc.has home reasons then reasons
    else match (Assoc.keys reasons).find? (l.isRelated home) with
      | some anchor =>
        Assoc.putNew home s!"{category} value '{text}' relates to {anchor}" reasons
      | none =>
        if hasNamed then reasons
        else routing.defaultTables.foldl
          (fun reasons table =>
            Assoc.putNew table s!"default table for {category} value '{text}'" reasons)
          reasons

def addDomainValue (l : Lexicon) (hasNamed : Bool) (reasons : Reasons) (e : Entity) : Reasons :=
  match e.kind, e.category with
  | .domainValue, some category =>
    if category.isEmpty then reasons else addForCategory l hasNamed category e.text reasons
  | _, _ => reasons

def isPersonal (entities : List Entity) : Bool :=
  entities.any fun e => e.kind = .pronoun || e.kind = .temporal

def withReason (reason : String) (tables : List String) : Reasons :=
  (Assoc.distinct tables).map fun table => (table, reason)

def fallback (l : Lexicon) (entities : List Entity) : Routing :=
  if isPersonal entities && !l.personalTables.isEmpty then
    ⟨withReason "personal question without a named table" l.personalTables, .personalFallback⟩
  else ⟨withReason "no table recognised, using common tables" l.fallbackTables, .fallback⟩

def fromEntities (l : Lexicon) (entities : List Entity) : Reasons :=
  let named := entities.foldl addNamed []
  entities.foldl (addDomainValue l (!named.isEmpty)) named

def route (l : Lexicon) (entities : List Entity) : Routing :=
  match fromEntities l entities with
  | [] => fallback l entities
  | reasons => ⟨reasons, .entities⟩

def tables (r : Routing) : List String :=
  Assoc.keys r.reasons

def primary? (r : Routing) : Option String :=
  r.tables.head?

def isFallback (r : Routing) : Bool :=
  r.method ≠ .entities

def debugRecord (r : Routing) (entities : List Entity) : Value :=
  .record [
    ("method", .text r.method.name), ("tables", .texts r.tables),
    ("entities", .list (entities.map fun e => .texts [e.kind.name, e.text]))]

def entityLine (e : Entity) : String :=
  s!"  - {e.kind.name}: '{e.text}' ({Decimal.fixed 2 e.confidence})"

def tableLine (r : Routing) (entry : String × String) : String :=
  let marker := if some entry.1 = r.primary? then "→" else " "
  s!"  {marker} {entry.1}: {entry.2}"

def explain (r : Routing) (entities : List Entity) : String :=
  let entityLines := if entities.isEmpty then ["  (none)"] else entities.map entityLine
  "\n".intercalate <|
    ["Entities:"] ++ entityLines ++ ["", s!"Tables ({r.method.name}):"] ++ r.reasons.map r.tableLine

end Routing

end TableTalk
