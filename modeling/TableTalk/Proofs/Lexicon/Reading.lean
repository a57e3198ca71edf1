import TableTalk.Lexicon.Reading
import TableTalk.Proofs.Outcome

namespace TableTalk.Lexicon

open Outcome

def IsRead {α : Type} (reading : Reading α) : Prop :=
  ∃ a, reading = .ok a

def BreaksOff {α : Type} (reading : Reading α) : Prop :=
  ∃ fault, reading = .error (.fault fault)

section Steps

variable {α β γ : Type}

theorem not_breaksOff_pure (a : α) : ¬ BreaksOff (pure a : Reading α) := by
  rintro ⟨fault, broken⟩
  cases broken

theorem not_breaksOff_reject (error : LexiconError) : ¬ BreaksOff (reject error : Reading α) := by
  rintro ⟨fault, broken⟩
  cases broken

theorem breaksOff_bind {first : Reading α} {next : α → Reading β} :
    BreaksOff (first >>= next) ↔ BreaksOff first ∨ ∃ a, first = .ok a ∧ BreaksOff (next a) := by
  cases first with
  | error failure =>
    constructor
    · rintro ⟨fault, broken⟩
      exact Or.inl ⟨fault, by cases broken; rfl⟩
    · rintro (⟨fault, broken⟩ | ⟨_, read, _⟩)
      · cases broken
        exact ⟨fault, rfl⟩
      · cases read
  | ok a =>
    constructor
    · exact fun broken => Or.inr ⟨a, rfl, broken⟩
    · rintro (broken | ⟨_, read, broken⟩)
      · exact absurd broken (not_breaksOff_pure a)
      · cases read
        exact broken

theorem not_breaksOff_bind {first : Reading α} {next : α → Reading β} (here : ¬ BreaksOff first)
    (there : ∀ a, ¬ BreaksOff (next a)) : ¬ BreaksOff (first >>= next) := by
  rw [breaksOff_bind]
  rintro (broken | ⟨a, _, broken⟩)
  · exact here broken
  · exact there a broken

theorem breaksOff_before {first : Reading α} {next : α → Reading β} {P : Prop}
    (same : ∀ a, BreaksOff (next a) ↔ P) : BreaksOff (first >>= next) ↔ BreaksOff first ∨ IsRead first ∧ P := by
  rw [breaksOff_bind]
  refine or_congr Iff.rfl ⟨?_, ?_⟩
  · rintro ⟨a, read, broken⟩
    exact ⟨⟨a, read⟩, (same a).mp broken⟩
  · rintro ⟨⟨a, read⟩, broken⟩
    exact ⟨a, read, (same a).mpr broken⟩

theorem isRead_mapM {read : α → Reading β} {items : List α} :
    IsRead (items.mapM read) ↔ ∀ item ∈ items, IsRead (read item) := by
  induction items with
  | nil => exact ⟨fun _ => nofun, fun _ => ⟨[], rfl⟩⟩
  | cons item rest ih =>
    rw [List.forall_mem_cons, ← ih, List.mapM_cons]
    constructor
    · rintro ⟨_, done⟩
      obtain ⟨first, here, done⟩ := bind_ok.mp done
      obtain ⟨later, there, _⟩ := bind_ok.mp done
      exact ⟨⟨first, here⟩, ⟨later, there⟩⟩
    · rintro ⟨⟨first, here⟩, ⟨later, there⟩⟩
      exact ⟨first :: later, bind_ok.mpr ⟨first, here, bind_ok.mpr ⟨later, there, rfl⟩⟩⟩

theorem breaksOff_mapM {read : α → Reading β} {items : List α} :
    BreaksOff (items.mapM read) ↔
      ∃ front item back, items = front ++ item :: back ∧ (∀ other ∈ front, IsRead (read other)) ∧
        BreaksOff (read item) := by
  induction items with
  | nil =>
    constructor
    · exact fun broken => absurd broken (not_breaksOff_pure [])
    · rintro ⟨front, item, back, split, _⟩
      cases front <;> cases split
  | cons first rest ih =>
    have later : ∀ a, BreaksOff (do let others ← rest.mapM read; pure (a :: others)) ↔ BreaksOff (rest.mapM read) := by
      intro a
      rw [breaksOff_before fun others => iff_false_intro (not_breaksOff_pure (a :: others)), and_false, or_false]
    rw [List.mapM_cons, breaksOff_before later, ih]
    constructor
    · rintro (here | ⟨read, front, item, back, rfl, before, there⟩)
      · exact ⟨[], first, rest, rfl, nofun, here⟩
      · exact ⟨first :: front, item, back, rfl, List.forall_mem_cons.mpr ⟨read, before⟩, there⟩
    · rintro ⟨front, item, back, split, before, there⟩
      cases front with
      | nil =>
        cases split
        exact Or.inl there
      | cons _ front =>
        cases split
        obtain ⟨here, before⟩ := List.forall_mem_cons.mp before
        exact Or.inr ⟨here, front, item, back, rfl, before, there⟩

theorem not_breaksOff_mapM {read : α → Reading β} {items : List α} (each : ∀ item ∈ items, ¬ BreaksOff (read item)) :
    ¬ BreaksOff (items.mapM read) := by
  rw [breaksOff_mapM]
  rintro ⟨front, item, back, rfl, _, broken⟩
  exact each item (by simp) broken

theorem breaksOff_section {parts : Reading α} {read : α → Reading β} {next : β → Reading γ} {P : Prop}
    (reasons : ∀ a, ¬ BreaksOff (read a)) (same : ∀ b, BreaksOff (next b) ↔ P) :
    BreaksOff (do let a ← parts; let b ← read a; next b) ↔
      BreaksOff parts ∨ (∃ a, parts = .ok a ∧ IsRead (read a)) ∧ P := by
  rw [breaksOff_bind]
  refine or_congr Iff.rfl ?_
  have each : ∀ a, BreaksOff (read a >>= next) ↔ IsRead (read a) ∧ P := fun a => by
    rw [breaksOff_before same]
    exact ⟨fun broken => broken.resolve_left (reasons a), Or.inr⟩
  constructor
  · rintro ⟨a, found, broken⟩
    obtain ⟨read, later⟩ := (each a).mp broken
    exact ⟨⟨a, found, read⟩, later⟩
  · rintro ⟨⟨a, found, read⟩, later⟩
    exact ⟨a, found, (each a).mpr ⟨read, later⟩⟩

end Steps

theorem not_breaksOff_readTexts (place : String) (value : Option Value) : ¬ BreaksOff (readTexts place value) := by
  unfold readTexts
  split
  · exact not_breaksOff_pure _
  · exact not_breaksOff_pure _
  · exact not_breaksOff_pure _
  · exact not_breaksOff_reject _

theorem not_breaksOff_readHint (table : String) (hint : Value) : ¬ BreaksOff (readHint table hint) := by
  unfold readHint
  split
  · exact not_breaksOff_pure _
  · exact not_breaksOff_reject _

theorem not_breaksOff_readRelationship (table : String) (entry : Value × Value) :
    ¬ BreaksOff (readRelationship table entry) := by
  unfold readRelationship
  dsimp only
  split
  · exact not_breaksOff_pure _
  · exact not_breaksOff_reject _

theorem not_breaksOff_readSynonymGroup (synonyms : Value) (group : SynonymGroup) :
    ¬ BreaksOff (readSynonymGroup synonyms group) := by
  unfold readSynonymGroup
  split
  · exact not_breaksOff_pure _
  · refine not_breaksOff_bind (not_breaksOff_mapM fun entry _ => ?_) fun pairs => not_breaksOff_pure _
    exact not_breaksOff_bind (not_breaksOff_readTexts _ _) fun texts => not_breaksOff_pure _
  · exact not_breaksOff_reject _

theorem not_breaksOff_readSynonyms (document : Value) : ¬ BreaksOff (readSynonyms document) := by
  have groups : ∀ synonyms : Value, ¬ BreaksOff (do
      return ({ status := ← readSynonymGroup synonyms .status
                priority := ← readSynonymGroup synonyms .priority
                location := ← readSynonymGroup synonyms .location
                temporal := ← readSynonymGroup synonyms .temporal } : Synonyms)) := fun synonyms =>
    not_breaksOff_bind (not_breaksOff_readSynonymGroup _ _) fun _ =>
      not_breaksOff_bind (not_breaksOff_readSynonymGroup _ _) fun _ =>
        not_breaksOff_bind (not_breaksOff_readSynonymGroup _ _) fun _ =>
          not_breaksOff_bind (not_breaksOff_readSynonymGroup _ _) fun _ => not_breaksOff_pure _
  unfold readSynonyms
  dsimp only
  split
  · exact groups _
  · exact not_breaksOff_bind (not_breaksOff_reject _) fun _ => groups _

theorem not_breaksOff_readComparison (entry : Value × Value) : ¬ BreaksOff (readComparison entry) := by
  unfold readComparison
  dsimp only
  split
  · exact not_breaksOff_bind (not_breaksOff_readTexts _ _) fun texts => not_breaksOff_pure _
  · exact not_breaksOff_reject _

theorem not_breaksOff_sourcePart (index : Nat) (source : Value) (name : String) :
    ¬ BreaksOff (sourcePart index source name) := by
  unfold sourcePart
  split
  · split
    · exact not_breaksOff_pure _
    · exact not_breaksOff_reject _
  · exact not_breaksOff_reject _
  · exact not_breaksOff_reject _
  · exact not_breaksOff_reject _

theorem not_breaksOff_readSource (source : Value) (index : Nat) : ¬ BreaksOff (readSource source index) :=
  not_breaksOff_bind (not_breaksOff_sourcePart _ _ _) fun _ =>
    not_breaksOff_bind (not_breaksOff_sourcePart _ _ _) fun _ =>
      not_breaksOff_bind (not_breaksOff_sourcePart _ _ _) fun _ =>
        not_breaksOff_bind (not_breaksOff_readTexts _ _) fun _ => not_breaksOff_pure _

theorem not_breaksOff_readCategory (entry : Value × Value) : ¬ BreaksOff (readCategory entry) := by
  unfold readCategory
  dsimp only
  split
  · exact not_breaksOff_bind (not_breaksOff_readTexts _ _) fun texts => not_breaksOff_pure _
  · exact not_breaksOff_reject _

theorem not_breaksOff_checkMentions (l : Lexicon) : ¬ BreaksOff l.checkMentions := by
  unfold checkMentions
  split
  · exact not_breaksOff_reject _
  · exact not_breaksOff_pure _

/-- A section that is neither left out nor empty and has none of the shapes that it is gone through under. -/
def Misshapen (fits : Value → Bool) (name : String) (document : Value) : Prop :=
  ∃ value, section? name document = some value ∧ fits value = false

def isMapping : Value → Bool
  | .mapping _ => true
  | _ => false

def hasItems : Value → Bool
  | .list _ | .mapping _ | .text _ => true
  | _ => false

theorem breaksOff_entriesOf {name : String} {document : Value} :
    BreaksOff (entriesOf (section? name document)) ↔ Misshapen isMapping name document := by
  unfold entriesOf Misshapen
  cases section? name document with
  | none => exact ⟨fun broken => absurd broken (not_breaksOff_pure _), nofun⟩
  | some value =>
    cases value with
    | mapping entries =>
      refine ⟨fun broken => absurd broken (not_breaksOff_pure _), ?_⟩
      rintro ⟨_, same, other⟩
      cases same
      cases other
    | _ => exact ⟨fun _ => ⟨_, rfl, rfl⟩, fun _ => ⟨_, rfl⟩⟩

theorem breaksOff_itemsOf {name : String} {document : Value} :
    BreaksOff (itemsOf (section? name document)) ↔ Misshapen hasItems name document := by
  unfold itemsOf Misshapen
  cases section? name document with
  | none => exact ⟨fun broken => absurd broken (not_breaksOff_pure _), nofun⟩
  | some value =>
    cases value with
    | list _ | mapping _ | text _ =>
      refine ⟨fun broken => absurd broken (not_breaksOff_pure _), ?_⟩
      rintro ⟨_, same, other⟩
      cases same
      cases other
    | _ => exact ⟨fun _ => ⟨_, rfl, rfl⟩, fun _ => ⟨_, rfl⟩⟩

theorem section?_mapping {name : String} {document value : Value} (found : section? name document = some value) :
    ∃ entries, document = .mapping entries ∧ document.isEmpty = false := by
  cases document with
  | mapping entries =>
    cases entries with
    | nil => cases found
    | cons entry rest => exact ⟨_, rfl, rfl⟩
  | _ => cases found

theorem section?_emptied (name : String) (body : Value) :
    (section? name (if body.isEmpty then .mapping [] else body)) = section? name body := by
  split
  · rename_i empty
    cases found : section? name body with
    | none => rfl
    | some value =>
      obtain ⟨_, _, full⟩ := section?_mapping found
      rw [empty] at full
      cases full
  · rfl

theorem isRead_readHint {table : String} {hint : Value} :
    IsRead (readHint table hint) ↔ ∃ word column, hint = .list [word, column] := by
  unfold readHint
  split
  · exact ⟨fun _ => ⟨_, _, rfl⟩, fun _ => ⟨_, rfl⟩⟩
  · rename_i other
    constructor
    · rintro ⟨_, read⟩
      cases read
    · rintro ⟨word, column, same⟩
      exact absurd same (other word column)

/-- Reading stops at a table: at its hints, or at its relationships behind hints that are read. -/
inductive StopsTable (body : Value) : Prop
  | hints (here : Misshapen hasItems "numeric_hints" body)
  | relationships
    (hints : ∃ items, itemsOf (section? "numeric_hints" body) = .ok items ∧
      ∀ hint ∈ items, ∃ word column, hint = .list [word, column])
    (here : Misshapen isMapping "relationships" body)

theorem breaksOff_readTable {name : String} {body : Value} : BreaksOff (readTable name body) ↔ StopsTable body := by
  unfold readTable
  dsimp only
  split
  · rw [section?_emptied, section?_emptied]
    refine (breaksOff_section (P := Misshapen isMapping "relationships" body) ?_ fun hints => ?_).trans ?_
    · exact fun hints => not_breaksOff_mapM fun hint _ => not_breaksOff_readHint name hint
    · rw [breaksOff_section (P := False) ?_ fun relationships => iff_false_intro ?_, and_false, or_false,
        breaksOff_entriesOf]
      · exact fun entries => not_breaksOff_mapM fun entry _ => not_breaksOff_readRelationship name entry
      · iterate 9 refine not_breaksOff_bind (not_breaksOff_readTexts _ _) fun _ => ?_
        exact not_breaksOff_pure _
    · simp only [breaksOff_itemsOf, isRead_mapM, isRead_readHint]
      constructor
      · rintro (here | ⟨hints, here⟩)
        · exact .hints here
        · exact .relationships hints here
      · rintro (here | ⟨hints, here⟩)
        · exact Or.inl here
        · exact Or.inr ⟨hints, here⟩
  · rename_i other
    have none {name : String} {fits : Value → Bool} : ¬ Misshapen fits name body := by
      rintro ⟨value, found, _⟩
      obtain ⟨entries, rfl, full⟩ := section?_mapping found
      exact other entries (by rw [full]; rfl)
    rw [breaksOff_bind]
    refine ⟨?_, ?_⟩
    · rintro (broken | ⟨_, read, _⟩)
      · exact absurd broken (not_breaksOff_reject _)
      · cases read
    · rintro (here | ⟨_, here⟩)
      · exact absurd here none
      · exact absurd here none

/-- Reading stops at a section of a document that it goes through unchecked, with all sections before it read. -/
inductive StopsReading (document : Value) : Prop
  | tables {front back : List (Value × Value)} {entry : Value × Value}
    (declared : document.field? "tables" = some (.mapping (front ++ entry :: back)))
    (before : ∀ other ∈ front, IsRead (readTable other.1.shown other.2)) (here : StopsTable entry.2)
  | comparisons (tables : IsRead (readTables document)) (synonyms : IsRead (readSynonyms document))
    (here : Misshapen isMapping "comparisons" document)
  | domainSources (tables : IsRead (readTables document)) (synonyms : IsRead (readSynonyms document))
    (comparisons : ∃ entries, entriesOf (section? "comparisons" document) = .ok entries ∧
      ∀ entry ∈ entries, IsRead (readComparison entry))
    (here : Misshapen hasItems "domain_sources" document)
  | categories (tables : IsRead (readTables document)) (synonyms : IsRead (readSynonyms document))
    (comparisons : ∃ entries, entriesOf (section? "comparisons" document) = .ok entries ∧
      ∀ entry ∈ entries, IsRead (readComparison entry))
    (sources : ∃ items, itemsOf (section? "domain_sources" document) = .ok items ∧
      ∀ item ∈ items.zipIdx, IsRead (readSource item.1 item.2))
    (here : Misshapen isMapping "categories" document)

theorem breaksOff_readTables {document : Value} :
    BreaksOff (readTables document) ↔ ∃ front entry back,
      document.field? "tables" = some (.mapping (front ++ entry :: back)) ∧
        (∀ other ∈ front, IsRead (readTable other.1.shown other.2)) ∧ StopsTable entry.2 := by
  unfold readTables
  split
  · rename_i first rest found
    rw [breaksOff_before (P := False) fun tables => iff_false_intro (not_breaksOff_pure _), and_false, or_false,
      breaksOff_mapM]
    constructor
    · rintro ⟨front, entry, back, split, before, here⟩
      exact ⟨front, entry, back, by rw [found, split], before, breaksOff_readTable.mp here⟩
    · rintro ⟨front, entry, back, declared, before, here⟩
      have split := Value.mapping.inj (Option.some.inj (found.symm.trans declared))
      exact ⟨front, entry, back, split, before, breaksOff_readTable.mpr here⟩
  · rename_i other
    refine ⟨fun broken => absurd broken (not_breaksOff_reject _), ?_⟩
    rintro ⟨front, entry, back, declared, _⟩
    cases front with
    | nil => exact absurd declared (other _ _)
    | cons first front => exact absurd declared (other _ _)

theorem field?_mapping {name : String} {document value : Value} (found : document.field? name = some value) :
    ∃ entries, document = .mapping entries := by
  cases document with
  | mapping entries => exact ⟨entries, rfl⟩
  | _ => cases found

theorem not_isRead_readTables {document : Value} (other : ∀ entries, document ≠ .mapping entries) :
    ¬ IsRead (readTables document) := by
  rintro ⟨tables, read⟩
  unfold readTables at read
  split at read
  · rename_i found
    obtain ⟨entries, same⟩ := field?_mapping found
    exact other entries same
  · cases read

theorem breaksOff_ofDocument {document : Value} : BreaksOff (ofDocument document) ↔ StopsReading document := by
  unfold ofDocument
  dsimp only
  split
  · refine (breaksOff_before fun tables => (breaksOff_before fun synonyms =>
      (breaksOff_section ?_ fun comparisons => breaksOff_section ?_ fun sources =>
        breaksOff_section (P := False) ?_ fun categories => iff_false_intro ?_))).trans ?_
    · exact fun entries => not_breaksOff_mapM fun entry _ => not_breaksOff_readComparison entry
    · exact fun items => not_breaksOff_mapM fun item _ => not_breaksOff_readSource item.1 item.2
    · exact fun entries => not_breaksOff_mapM fun entry _ => not_breaksOff_readCategory entry
    · iterate 4 refine not_breaksOff_bind (not_breaksOff_readTexts _ _) fun _ => ?_
      exact not_breaksOff_checkMentions _
    · simp only [breaksOff_readTables, not_breaksOff_readSynonyms, breaksOff_entriesOf, breaksOff_itemsOf, isRead_mapM,
        false_or, and_false, or_false]
      constructor
      · rintro (⟨front, entry, back, declared, before, here⟩ |
          ⟨tables, synonyms, here | ⟨comparisons, here | ⟨sources, here⟩⟩⟩)
        · exact .tables declared before here
        · exact .comparisons tables synonyms here
        · exact .domainSources tables synonyms comparisons here
        · exact .categories tables synonyms comparisons sources here
      · rintro (⟨declared, before, here⟩ | ⟨tables, synonyms, here⟩ | ⟨tables, synonyms, comparisons, here⟩ |
          ⟨tables, synonyms, comparisons, sources, here⟩)
        · exact Or.inl ⟨_, _, _, declared, before, here⟩
        · exact Or.inr ⟨tables, synonyms, Or.inl here⟩
        · exact Or.inr ⟨tables, synonyms, Or.inr ⟨comparisons, Or.inl here⟩⟩
        · exact Or.inr ⟨tables, synonyms, Or.inr ⟨comparisons, Or.inr ⟨sources, here⟩⟩⟩
  · rename_i other
    have none := not_isRead_readTables other
    rw [breaksOff_bind]
    refine ⟨?_, ?_⟩
    · rintro (broken | ⟨_, read, _⟩)
      · exact absurd broken (not_breaksOff_reject _)
      · cases read
    · rintro (⟨declared, _, _⟩ | ⟨tables, _, _⟩ | ⟨tables, _, _, _⟩ | ⟨tables, _, _, _, _⟩)
      · obtain ⟨entries, same⟩ := field?_mapping declared
        exact absurd same (other entries)
      · exact absurd tables none
      · exact absurd tables none
      · exact absurd tables none

structure MentionsDeclared (l : Lexicon) : Prop where
  sources : ∀ source ∈ l.domainSources, l.hasTable source.table = true
  homes : ∀ routing ∈ l.categories, l.hasTable routing.homeTable = true
  defaults : ∀ routing ∈ l.categories, ∀ table ∈ routing.defaultTables, l.hasTable table = true
  fallback : ∀ table ∈ l.fallbackTables, l.hasTable table = true
  personal : ∀ table ∈ l.personalTables, l.hasTable table = true

theorem checkMentions_ok {l checked : Lexicon} (passed : l.checkMentions = .ok checked) :
    checked = l ∧ l.MentionsDeclared := by
  unfold checkMentions at passed
  split at passed
  · cases passed
  · rename_i none
    cases passed
    have declared : ∀ mention ∈ l.mentions, l.hasTable mention.2 = true := by
      intro mention member
      have known := List.find?_eq_none.mp none mention member
      simpa using known
    have mentioned {mention : String × String} (among : mention ∈ l.mentions) := declared mention among
    unfold mentions at mentioned
    simp only [List.mem_append] at mentioned
    refine ⟨rfl, ?_, ?_, ?_, ?_, ?_⟩
    · exact fun source member => mentioned (Or.inl (Or.inl (Or.inl (List.mem_map_of_mem member))))
    · exact fun routing member => mentioned (Or.inl (Or.inl (Or.inr (List.mem_flatMap.mpr
        ⟨routing, member, List.mem_cons_self⟩))))
    · exact fun routing member table among => mentioned (Or.inl (Or.inl (Or.inr (List.mem_flatMap.mpr
        ⟨routing, member, List.mem_cons_of_mem _ (List.mem_map_of_mem among)⟩))))
    · exact fun table member => mentioned (Or.inl (Or.inr (List.mem_map_of_mem member)))
    · exact fun table member => mentioned (Or.inr (List.mem_map_of_mem member))

theorem bind_gives {α β : Type} {first : Reading α} {next : α → Reading β} {P : β → Prop}
    (gives : ∀ a b, next a = .ok b → P b) (b : β) (done : first >>= next = .ok b) : P b := by
  obtain ⟨a, _, later⟩ := bind_ok.mp done
  exact gives a b later

theorem ofDocument_mentionsDeclared {document : Value} {l : Lexicon} (read : ofDocument document = .ok l) :
    l.MentionsDeclared := by
  unfold ofDocument at read
  dsimp only at read
  split at read
  · revert read
    refine bind_gives (P := MentionsDeclared) (fun _ => ?_) l
    iterate 11 refine bind_gives fun _ => ?_
    intro l passed
    obtain ⟨rfl, declared⟩ := checkMentions_ok passed
    exact declared
  · cases read

/-- Every document gives a lexicon or a stated reason, but for those at a section of which reading stops; and what a
lexicon mentions it declares. -/
theorem ofDocument_settles (document : Value) :
    (((∃ l, ofDocument document = .ok l) ∨ ∃ error, ofDocument document = .error (.rejected error)) ↔
      ¬ StopsReading document) ∧
      ∀ l, ofDocument document = .ok l → l.MentionsDeclared := by
  refine ⟨?_, fun l read => ofDocument_mentionsDeclared read⟩
  rw [← breaksOff_ofDocument]
  constructor
  · rintro settled ⟨fault, broken⟩
    rw [broken] at settled
    rcases settled with ⟨_, read⟩ | ⟨_, rejected⟩
    · cases read
    · cases rejected
  · intro settled
    cases outcome : ofDocument document with
    | ok l => exact Or.inl ⟨l, rfl⟩
    | error failure =>
      cases failure with
      | rejected error => exact Or.inr ⟨error, rfl⟩
      | fault fault => exact absurd ⟨fault, outcome⟩ settled

/-- Comparisons in a list, in place of a mapping, end reading without a reason. -/
theorem listed_comparisons_stop :
    let document := Value.record [("tables", .record [("tasks", .record [])]), ("comparisons", .texts ["above"])]
    ¬ ((∃ l, ofDocument document = .ok l) ∨ ∃ error, ofDocument document = .error (.rejected error)) := by
  intro document
  have broken : ofDocument document = .error (.fault .notAMapping) := by rfl
  rw [broken]
  rintro (⟨_, read⟩ | ⟨_, rejected⟩)
  · cases read
  · cases rejected

end TableTalk.Lexicon
