import TableTalk.Proofs.Domain.Loading
import TableTalk.Proofs.Outcome
import TableTalk.Proofs.Text.Words

namespace TableTalk

open Outcome

def DomainEntry.IsKeyed (e : DomainEntry) : Prop :=
  e.key = Text.lower e.display

theorem DomainEntry.IsKeyed.words_eq {e : DomainEntry} (keyed : e.IsKeyed) : e.words = Text.wordsOf e.display := by
  rw [DomainEntry.words, keyed, Text.wordsOf_lower]

namespace DomainSource

def nameIn (s : DomainSource) (lengths : PrefixLengths) (recordId cell : Value) : DomainEntry :=
  let display := Text.collapse cell.shown
  { key := Text.lower display, display := display, category := s.category, table := s.table
    recordId := recordId, forms := .of lengths display }

/-- A name that a source reads from a row: one of its cells holds it, it is not empty, and the row has a record. -/
structure Reads (s : DomainSource) (lengths : PrefixLengths) (row : List (String × Value)) (e : DomainEntry) :
    Prop where
  cell : ∃ column ∈ s.valueColumns, ∃ cell, (Assoc.get? column row).getD .null = cell ∧ cell.isMissing = false ∧
    e = s.nameIn lengths ((Assoc.get? s.idColumn row).getD .null) cell
  nonempty : e.key ≠ ""
  usable : isUsableRecord e.recordId = true

variable {s : DomainSource} {lengths : PrefixLengths} {found more : List DomainEntry}

theorem addCell_cases {recordId cell : Value} (added : s.addCell lengths recordId found cell = .ok more) :
    more = found ∨ cell.isMissing = false ∧ (s.nameIn lengths recordId cell).key ≠ "" ∧
      isUsableRecord recordId = true ∧ more = found ++ [s.nameIn lengths recordId cell] := by
  unfold addCell at added
  dsimp only at added
  split at added
  · cases added
  · split at added
    · exact Or.inl (Except.ok.inj added).symm
    · rename_i present
      split at added
      · exact Or.inl (Except.ok.inj added).symm
      · rename_i nonempty
        split at added
        · cases added
        · rename_i usable
          split at added
          · exact Or.inl (Except.ok.inj added).symm
          · refine Or.inr ⟨Bool.eq_false_iff.mpr present, ?_, by simpa using usable, (Except.ok.inj added).symm⟩
            intro empty
            exact nonempty (String.isEmpty_iff.mpr empty)

theorem load_reads {limit : Value} {store : Store} (loaded : s.load lengths limit store = .ok found) :
    ∃ frame, store.select s.table [] limit = .ok frame ∧
      ∀ e ∈ found, ∃ row ∈ frame.records, s.Reads lengths row e := by
  obtain ⟨frame, selected, entries⟩ := bind_ok.mp loaded
  refine ⟨frame, mapError_ok.mp selected, ?_⟩
  unfold entriesIn at entries
  split at entries
  · let Read (found : List DomainEntry) : Prop := ∀ e ∈ found, ∃ row ∈ frame.records, s.Reads lengths row e
    refine foldlM_keeps (P := Read) ?_ entries nofun
    intro row member before after added
    refine foldlM_keeps (P := Read) ?_ added
    intro column among before after added read
    rcases addCell_cases added with rfl | ⟨present, nonempty, usable, rfl⟩
    · exact read
    · refine List.forall_mem_append.mpr ⟨read, fun e single => ?_⟩
      rw [List.mem_singleton.mp single]
      exact ⟨row, member, ⟨column, among, _, rfl, present, rfl⟩, nonempty, usable⟩
  · cases entries

theorem Reads.keyed {row : List (String × Value)} {e : DomainEntry} (read : s.Reads lengths row e) : e.IsKeyed := by
  obtain ⟨⟨_, _, _, _, _, rfl⟩, _⟩ := read
  rfl

theorem load_keyed {limit : Value} {store : Store} (loaded : s.load lengths limit store = .ok found) :
    ∀ e ∈ found, e.IsKeyed := by
  obtain ⟨_, _, read⟩ := load_reads loaded
  intro e member
  obtain ⟨_, _, here⟩ := read e member
  exact here.keyed

end DomainSource

namespace DomainCache

def All (P : DomainEntry → Prop) (byCategory : List (String × List DomainEntry)) : Prop :=
  ∀ group ∈ byCategory, ∀ e ∈ group.2, P e

variable {P : DomainEntry → Prop}

theorem All.get? {byCategory : List (String × List DomainEntry)} (all : All P byCategory) (category : String) :
    ∀ e ∈ (Assoc.get? category byCategory).getD [], P e := by
  cases found : Assoc.get? category byCategory with
  | none => nofun
  | some entries => exact all _ (Assoc.mem_of_get? found)

theorem All.put {byCategory : List (String × List DomainEntry)} (all : All P byCategory) {category : String}
    {entries : List DomainEntry} (each : ∀ e ∈ entries, P e) : All P (Assoc.put category entries byCategory) := by
  intro group member
  rcases Assoc.mem_put member with rfl | old
  · exact each
  · exact all group old

theorem all_loadSource {c : DomainCache} {store : Store} {state : Loading} {s : DomainSource}
    (yields : ∀ found, s.load c.options.lengths c.options.rowLimit store = .ok found → ∀ e ∈ found, P e)
    (before : All P c.byCategory) (all : All P state.byCategory) :
    All P (c.loadSource store state s).byCategory := by
  unfold loadSource
  split
  · rename_i found loaded
    exact all.put (List.forall_mem_append.mpr ⟨all.get? s.category, yields found loaded⟩)
  · exact all.put (before.get? s.category)

theorem all_refresh {c : DomainCache} {store : Store} {sources : List DomainSource}
    (yields : ∀ s ∈ sources, ∀ found, s.load c.options.lengths c.options.rowLimit store = .ok found →
      ∀ e ∈ found, P e) (before : All P c.byCategory) : All P (c.refresh sources store).byCategory := by
  suffices run : ∀ state : Loading, All P state.byCategory →
      All P (sources.foldl (c.loadSource store) state).byCategory by
    exact run {} nofun
  induction sources with
  | nil => exact fun _ all => all
  | cons s rest ih =>
    obtain ⟨here, there⟩ := List.forall_mem_cons.mp yields
    intro state all
    exact ih there _ (all_loadSource here before all)

/-- What holds of all names that sources yield holds of all names after any calls. -/
theorem calls_all {sources : List DomainSource} {o : CacheOptions}
    {steps : List (LoadCall × Store)}
    (yields : ∀ s ∈ sources, ∀ step ∈ steps, ∀ found, s.load o.lengths o.rowLimit step.2 = .ok found →
      ∀ e ∈ found, P e) : ∀ e ∈ (calls sources { options := o } steps).entries none, P e := by
  suffices run : ∀ c : DomainCache, c.options = o → All P c.byCategory → All P (calls sources c steps).byCategory by
    intro e member
    obtain ⟨group, among, inside⟩ := List.mem_flatMap.mp member
    exact run { options := o } rfl nofun group among e inside
  induction steps with
  | nil => exact fun _ _ all => all
  | cons step rest ih =>
    intro c options all
    refine ih (fun s member later among => yields s member later (List.mem_cons_of_mem _ among))
      (call sources c step) ((call_options sources c step).trans options) ?_
    rw [call_eq]
    split
    · refine all_refresh ?_ all
      rw [options]
      exact fun s member => yields s member step List.mem_cons_self
    · exact all

theorem calls_keyed (sources : List DomainSource) (o : CacheOptions) (steps : List (LoadCall × Store)) :
    ∀ e ∈ (calls sources { options := o } steps).entries none, e.IsKeyed :=
  calls_all fun _ _ _ _ _ loaded => DomainSource.load_keyed loaded

end DomainCache

end TableTalk
