import TableTalk.Proofs.Domain.Entries
import TableTalk.Proofs.Domain.Index
import TableTalk.Proofs.Store.Lookups
import TableTalk.Proofs.Text.Simple

namespace TableTalk

open Sql Outcome

def Value.IsSimple (cell : Value) : Prop :=
  cell = .null ∨ ∃ s, cell = .text s ∧ Text.Simple s.toList

theorem Value.simple_text {s : String} : (Value.text s).IsSimple ↔ Text.Simple s.toList := by
  refine ⟨?_, fun simple => Or.inr ⟨s, rfl, simple⟩⟩
  rintro (none | ⟨_, ⟨⟩, simple⟩)
  · cases none
  · exact simple

instance : DecidablePred Value.IsSimple
  | .null => .isTrue (Or.inl rfl)
  | .text _ => decidable_of_iff _ Value.simple_text.symm
  | .bool _ | .int _ | .float _ | .date _ | .moment _ | .list _ | .mapping _ | .named _ _ =>
    .isFalse (by simp [Value.IsSimple])

structure Frame.IsSimple (f : Frame) : Prop where
  texts : ∀ column ∈ f.columns, column.type = some .text
  cells : ∀ row ∈ f.rows, ∀ cell ∈ row, cell.IsSimple

instance (f : Frame) : Decidable f.IsSimple :=
  decidable_of_iff ((∀ column ∈ f.columns, column.type = some .text) ∧ ∀ row ∈ f.rows, ∀ cell ∈ row, cell.IsSimple)
    ⟨fun ⟨texts, cells⟩ => ⟨texts, cells⟩, fun ⟨texts, cells⟩ => ⟨texts, cells⟩⟩

theorem Frame.IsSimple.cell {f : Frame} (simple : f.IsSimple) {row : List Value} (member : row ∈ f.rows)
    {entry : String × Value} (inside : entry ∈ f.cells row) : entry.2.IsSimple :=
  simple.cells row member entry.2 (List.of_mem_zip inside).2

namespace Database

theorem fetchedRow_of_texts {f : Frame} (texts : ∀ column ∈ f.columns, column.type = some .text) (row : List Value) :
    fetchedRow f row = (f.cells row).map Prod.snd := by
  obtain ⟨columns, rows⟩ := f
  change List.zipWith _ columns row = ((columns.map Column.name).zip row).map Prod.snd
  induction columns generalizing row with
  | nil => rfl
  | cons column rest ih =>
    obtain ⟨here, there⟩ := List.forall_mem_cons.mp texts
    cases row with
    | nil => rfl
    | cons cell row =>
      have kept : column.type.elim cell (fun type => type.fetched cell) = cell := by
        rw [here]
        cases cell <;> rfl
      rw [List.zipWith_cons_cons, List.map_cons, List.zip_cons_cons, List.map_cons, ih row there, kept]

theorem cells_cut {f frame : Frame} (same : frame.columns = f.columns) (row : List Value) :
    frame.cells ((f.cells row).map Prod.snd) = f.cells row := by
  unfold Frame.cells Frame.columnNames
  rw [same]
  generalize f.columns.map Column.name = names
  induction names generalizing row with
  | nil => rfl
  | cons name rest ih =>
    cases row with
    | nil => rfl
    | cons cell row => rw [List.zip_cons_cons, List.map_cons, List.zip_cons_cons, ih]

theorem select_texts {d : Database} (simple : ∀ entry ∈ d.tables, entry.2.IsSimple) {table : String}
    (predicates : List Predicate) {limit : Value} {frame : Frame}
    (selected : d.select table (predicates.map .predicate) limit = .ok frame) :
    ∃ f, d.table? (tidiedName table) = some f ∧ f.IsSimple ∧ frame.columns = f.columns ∧
      ∀ row ∈ frame.rows, ∃ found ∈ f.satisfying (predicates.map Predicate.tidied),
        row = (f.cells found).map Prod.snd := by
  obtain ⟨f, n, answers, _, _, _, rfl⟩ := select_ok.mp selected
  have known : f.IsSimple := by
    obtain ⟨entry, first, rfl⟩ := Option.map_eq_some_iff.mp answers.found
    exact simple entry (List.mem_of_find?_eq_some first)
  refine ⟨f, answers.found, known, rfl, fun row member => ?_⟩
  obtain ⟨found, among, rfl⟩ := List.mem_map.mp member
  exact ⟨found, List.mem_of_mem_take among, fetchedRow_of_texts known.texts found⟩

end Database

theorem Store.select_database {store : Store} {d : Database} (contents : store.contents = .database d) {table : String}
    {candidates : List Candidate} {limit : Value} {frame : Frame}
    (selected : store.select table candidates limit = .ok frame) : d.select table candidates limit = .ok frame := by
  unfold Store.select at selected
  rw [contents] at selected
  split at selected
  · cases selected
  · exact selected

namespace Variations

theorem simple_form {lengths : PrefixLengths} {name form : String} (simple : Text.Simple (normalized name).toList)
    (member : form ∈ (of lengths name).all) : Text.Simple form.toList := by
  rcases List.mem_append.mp member with whole | beginning
  · rcases (mem_whole.mp whole).1 with rfl | rfl | ⟨word, _⟩
    · exact simple
    · rw [joined, String.toList_ofList]
      exact simple.of_subset fun c inside => (List.mem_filter.mp inside).1
    · exact Text.simple_word word
  · obtain ⟨word, inside, front⟩ := (mem_beginnings.mp beginning).1
    obtain ⟨n, _, rfl⟩ := List.mem_map.mp front
    rw [Text.front, String.toList_ofList]
    exact (Text.simple_word inside).of_subset fun c here => List.mem_of_mem_take here

end Variations

/-- A name that is a simple text with all its forms, and whose record, if it has one, has a simple text for it. -/
structure DomainEntry.IsSimple (e : DomainEntry) : Prop where
  display : Text.Simple e.display.toList
  forms : ∀ form ∈ e.forms.all, Text.Simple form.toList
  record : e.recordId = .null ∨ ∃ s, e.recordId = .text s ∧ s ≠ "" ∧ Text.Simple s.toList

namespace DomainSource

theorem simple_nameIn (s : DomainSource) (lengths : PrefixLengths) {recordId : Value} {text : String}
    (simple : Text.Simple text.toList) (record : recordId.IsSimple) (nonempty : recordId ≠ .text "") :
    (s.nameIn lengths recordId (.text text)).IsSimple where
  display := Text.simple_collapse simple
  forms := fun form member => by
    have lowered := (Text.simple_collapse simple).lower
    rw [String.ofList_toList] at lowered
    exact Variations.simple_form (Text.simple_collapse lowered) member
  record := by
    rcases record with none | ⟨number, same, simple⟩
    · exact Or.inl none
    · refine Or.inr ⟨number, same, ?_, simple⟩
      rintro rfl
      exact nonempty same

def RecordsNamed (s : DomainSource) (d : Database) : Prop :=
  ∀ f, d.table? (tidiedName s.table) = some f → ∀ row ∈ f.rows, Assoc.get? s.idColumn (f.cells row) ≠ some (.text "")

theorem load_simple {s : DomainSource} {d : Database} {store : Store} (contents : store.contents = .database d)
    (simple : ∀ entry ∈ d.tables, entry.2.IsSimple) (named : s.RecordsNamed d) {lengths : PrefixLengths}
    {limit : Value} {found : List DomainEntry} (loaded : s.load lengths limit store = .ok found) :
    ∀ e ∈ found, e.IsSimple := by
  obtain ⟨frame, selected, reads⟩ := load_reads loaded
  obtain ⟨f, table, texts, columns, rows⟩ :=
    Database.select_texts simple [] (Store.select_database contents selected)
  have records : ∀ row ∈ frame.records, ∃ found ∈ f.rows, row = f.cells found := by
    intro row member
    obtain ⟨shown, among, rfl⟩ := List.mem_map.mp member
    obtain ⟨found, inside, rfl⟩ := rows shown among
    exact ⟨found, (List.mem_filter.mp inside).1, Database.cells_cut columns found⟩
  intro e member
  obtain ⟨row, among, read⟩ := reads e member
  obtain ⟨found, inside, rfl⟩ := records row among
  have cell (column : String) : ((Assoc.get? column (f.cells found)).getD .null).IsSimple := by
    cases here : Assoc.get? column (f.cells found) with
    | none => exact Or.inl rfl
    | some cell => exact texts.cell inside (Assoc.mem_of_get? here)
  obtain ⟨⟨column, _, shown, same, present, rfl⟩, _⟩ := read
  rcases same ▸ cell column with rfl | ⟨text, rfl, plain⟩
  · cases present
  · refine s.simple_nameIn lengths plain (cell s.idColumn) ?_
    have number := named f table found inside
    cases here : Assoc.get? s.idColumn (f.cells found) with
    | none => nofun
    | some record =>
      rw [here] at number
      exact fun same => number (congrArg some same)

end DomainSource

end TableTalk
