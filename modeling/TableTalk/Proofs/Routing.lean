import TableTalk.Proofs.Assoc
import TableTalk.Routing

namespace TableTalk

structure Clue where
  kind : EntityKind
  table : Option String
  category : Option String

def Entity.clue (e : Entity) : Clue :=
  ⟨e.kind, e.table, e.category⟩

namespace Routing

def visit (tables : List String) (table : String) : List String :=
  if table ∈ tables then tables else tables ++ [table]

def visitNamed (tables : List String) (clue : Clue) : List String :=
  match clue.kind, clue.table with
  | .table, some table => if table.isEmpty then tables else visit tables table
  | _, _ => tables

def visitCategory (l : Lexicon) (hasNamed : Bool) (category : String) (tables : List String) : List String :=
  match l.categoryRouting? category with
  | none => tables
  | some routing =>
    if routing.homeTable ∈ tables then tables
    else match tables.find? (l.isRelated routing.homeTable) with
      | some _ => visit tables routing.homeTable
      | none => if hasNamed then tables else routing.defaultTables.foldl visit tables

def visitDomainValue (l : Lexicon) (hasNamed : Bool) (tables : List String) (clue : Clue) : List String :=
  match clue.kind, clue.category with
  | .domainValue, some category =>
    if category.isEmpty then tables else visitCategory l hasNamed category tables
  | _, _ => tables

def visited (l : Lexicon) (clues : List Clue) : List String :=
  let named := clues.foldl visitNamed []
  clues.foldl (visitDomainValue l (!named.isEmpty)) named

theorem keys_putNew (table reason : String) (reasons : Reasons) :
    Assoc.keys (Assoc.putNew table reason reasons) = visit (Assoc.keys reasons) table := by
  unfold Assoc.putNew visit
  simp only [Assoc.has_iff_mem_keys]
  split
  · rfl
  · simp [Assoc.keys]

theorem keys_foldl {α : Type} {grow : Reasons → α → Reasons} (walk : List String → α → List String)
    (step : ∀ reasons a, Assoc.keys (grow reasons a) = walk (Assoc.keys reasons) a) (items : List α)
    (reasons : Reasons) : Assoc.keys (items.foldl grow reasons) = items.foldl walk (Assoc.keys reasons) :=
  (List.foldl_hom Assoc.keys fun reasons a => (step reasons a).symm).symm

theorem keys_addNamed (reasons : Reasons) (e : Entity) :
    Assoc.keys (addNamed reasons e) = visitNamed (Assoc.keys reasons) e.clue := by
  unfold addNamed visitNamed Entity.clue
  dsimp only
  cases e.table with
  | none => cases e.kind <;> rfl
  | some table =>
    cases e.kind with
    | table =>
      dsimp only
      split
      · rfl
      · exact keys_putNew _ _ _
    | _ => rfl

theorem keys_addForCategory (l : Lexicon) (hasNamed : Bool) (category text : String) (reasons : Reasons) :
    Assoc.keys (addForCategory l hasNamed category text reasons) =
      visitCategory l hasNamed category (Assoc.keys reasons) := by
  unfold addForCategory visitCategory
  cases l.categoryRouting? category with
  | none => rfl
  | some routing =>
    dsimp only
    simp only [Assoc.has_iff_mem_keys]
    split
    · rfl
    · cases (Assoc.keys reasons).find? (l.isRelated routing.homeTable) with
      | some anchor => exact keys_putNew _ _ _
      | none =>
        dsimp only
        split
        · rfl
        · exact keys_foldl visit (fun reasons table => keys_putNew table _ reasons) _ _

theorem keys_addDomainValue (l : Lexicon) (hasNamed : Bool) (reasons : Reasons) (e : Entity) :
    Assoc.keys (addDomainValue l hasNamed reasons e) =
      visitDomainValue l hasNamed (Assoc.keys reasons) e.clue := by
  unfold addDomainValue visitDomainValue Entity.clue
  dsimp only
  cases e.category with
  | none => cases e.kind <;> rfl
  | some category =>
    cases e.kind with
    | domainValue =>
      dsimp only
      split
      · rfl
      · exact keys_addForCategory _ _ _ _ _
    | _ => rfl

theorem keys_fromEntities (l : Lexicon) (entities : List Entity) :
    Assoc.keys (fromEntities l entities) = visited l (entities.map Entity.clue) := by
  have named : Assoc.keys (entities.foldl addNamed []) = (entities.map Entity.clue).foldl visitNamed [] := by
    rw [List.foldl_map]
    exact keys_foldl (fun tables e => visitNamed tables (Entity.clue e)) keys_addNamed _ _
  have none : (entities.foldl addNamed []).isEmpty = ((entities.map Entity.clue).foldl visitNamed []).isEmpty := by
    rw [← named, Assoc.keys, List.isEmpty_map]
  unfold fromEntities visited
  dsimp only
  rw [none, ← named, List.foldl_map]
  exact keys_foldl (fun tables e => visitDomainValue l _ tables (Entity.clue e)) (keys_addDomainValue l _) _ _

theorem isPersonal_eq (entities : List Entity) :
    isPersonal entities =
      (entities.map Entity.clue).any fun clue => clue.kind = .pronoun || clue.kind = .temporal := by
  rw [List.any_map]
  rfl

theorem fallback_congr (l : Lexicon) {first second : List Entity}
    (same : first.map Entity.clue = second.map Entity.clue) : fallback l first = fallback l second := by
  unfold fallback
  rw [isPersonal_eq, isPersonal_eq, same]

theorem route_congr (l : Lexicon) {first second : List Entity}
    (same : first.map Entity.clue = second.map Entity.clue) :
    (route l first).tables = (route l second).tables ∧ (route l first).method = (route l second).method := by
  have keys : Assoc.keys (fromEntities l first) = Assoc.keys (fromEntities l second) := by
    rw [keys_fromEntities, keys_fromEntities, same]
  unfold route
  cases found : fromEntities l first with
  | nil =>
    cases found' : fromEntities l second with
    | nil => exact ⟨by rw [fallback_congr l same], by rw [fallback_congr l same]⟩
    | cons reason reasons =>
      rw [found, found'] at keys
      cases keys
  | cons reason reasons =>
    cases found' : fromEntities l second with
    | nil =>
      rw [found, found'] at keys
      cases keys
    | cons reason' reasons' =>
      rw [found, found'] at keys
      exact ⟨keys, rfl⟩

end Routing

end TableTalk
