import TableTalk.Proofs.Routing.Reaching
import TableTalk.Proofs.Execution
import TableTalk.Proofs.Summary

namespace TableTalk

open Outcome

namespace Store

def frames (store : Store) : List (String × Frame) :=
  match store.contents with
  | .memory tables => tables
  | .database d => d.tables

def HasColumns (store : Store) : Prop :=
  ∀ entry ∈ store.frames, entry.2.columns ≠ []

theorem frames_afterSelect (store : Store) (selected : List String) :
    (store.afterSelect selected).frames = store.frames := by
  unfold afterSelect listed
  split
  · unfold frames
    cases contents : store.contents with
    | memory tables => rw [contents]
    | database d =>
      dsimp only
      unfold Database.listed
      split <;> rfl
  · rfl

theorem select_bounded {store : Store} (columns : store.HasColumns) {table : String} {predicates : List Predicate}
    {limit : Int} (positive : 0 < limit) {frame : Frame}
    (selected : store.select table (predicates.map .predicate) (.int limit) = .ok frame) :
    frame.columns ≠ [] ∧ (frame.size : Int) ≤ limit := by
  unfold HasColumns frames at columns
  unfold select at selected
  split at selected
  · cases selected
  · split at selected
    · rename_i tables contents
      rw [contents] at columns
      obtain ⟨f, found, selected⟩ := bind_ok.mp selected
      obtain ⟨_, number, selected⟩ := bind_ok.mp selected
      cases number
      cases selected
      have known : Assoc.get? table tables = some f := by
        unfold memoryTable at found
        split at found
        · cases found
          assumption
        · cases found
      refine ⟨columns _ (Assoc.mem_of_get? known), ?_⟩
      have taken := List.length_take_le (Text.frontCount f.rows.length limit) f.rows
      change ((f.rows.take (Text.frontCount f.rows.length limit)).length : Int) ≤ limit
      cases limit with
      | ofNat n => exact Int.ofNat_le.mpr taken
      | negSucc n => omega
    · rename_i d contents
      rw [contents] at columns
      obtain ⟨f, n, answers, number, _, _, rfl⟩ := Database.select_ok.mp selected
      cases number
      obtain ⟨entry, listed, rfl⟩ := Option.map_eq_some_iff.mp answers.found
      refine ⟨columns entry (List.mem_of_find?_eq_some listed), ?_⟩
      rw [Frame.size, Frame.mapCells, List.length_map]
      have taken := List.length_take_le limit.toNat (entry.2.satisfying (predicates.map Predicate.tidied))
      dsimp only
      omega

end Store

theorem Frame.length_toRecords {f : Frame} (columns : f.rows ≠ [] → f.columns ≠ []) :
    f.toRecords.length = f.size := by
  unfold toRecords isEmpty records size
  cases rows : f.rows with
  | nil => rfl
  | cons row rest =>
    have some : f.columns ≠ [] := columns (rows ▸ List.cons_ne_nil row rest)
    rw [List.isEmpty_cons, Bool.false_or, if_neg (by rwa [List.isEmpty_iff]), List.length_map, List.length_map]

namespace Execution

theorem frame_of_error {o : TableTalk.Outcome} {error : String} (failed : o.error? = some error) : o.frame = {} := by
  cases o with
  | answered frame filters => cases failed
  | failed error => rfl
  | timedOut => rfl

theorem keys_frames (x : Execution) : Assoc.keys x.frames = Assoc.keys x.outcomes := by
  rw [frames, Assoc.keys, Assoc.keys, List.map_map]
  rfl

theorem keys_errors {x : Execution} (distinct : (Assoc.keys x.outcomes).Nodup) :
    (Assoc.keys x.outcomes).filter (fun table => Assoc.has table x.errors) = Assoc.keys x.errors := by
  have failed : ∀ entry ∈ x.outcomes, Assoc.has entry.1 x.errors = entry.2.error?.isSome := by
    intro entry member
    rw [Assoc.has, errors, Assoc.get?_filterMap TableTalk.Outcome.error? distinct, Assoc.get?_of_mem distinct member]
    rfl
  have kept : x.outcomes.filter ((fun table => Assoc.has table x.errors) ∘ Prod.fst) =
      x.outcomes.filter fun entry => entry.2.error?.isSome :=
    List.filter_congr failed
  rw [Assoc.keys, List.filter_map, kept]
  unfold errors Assoc.keys
  rw [List.map_filterMap]
  induction x.outcomes with
  | nil => rfl
  | cons entry rest ih =>
    rw [List.filter_cons, List.filterMap_cons]
    cases entry.2.error? with
    | none => exact ih
    | some error => exact congrArg (entry.1 :: ·) ih

theorem run_bounded {store : Store} (columns : store.HasColumns) {options : ExecutionOptions} {limit : Int}
    (rowLimit : options.rowLimit = .int limit) (positive : 0 < limit) (tables : List String)
    (predicates : List (String × List Predicate)) :
    ∀ entry ∈ (run store options tables predicates).frames,
      entry.2.toRecords.length = entry.2.size ∧ (entry.2.size : Int) ≤ limit := by
  intro entry member
  by_cases none : entry.2.rows = []
  · rw [Frame.length_toRecords fun rows => absurd none rows, Frame.size, none]
    exact ⟨rfl, Int.le_of_lt positive⟩
  · have selected := frames_selected store options tables predicates entry member none
    rw [rowLimit] at selected
    obtain ⟨cells, bound⟩ := Store.select_bounded columns positive selected
    exact ⟨Frame.length_toRecords fun _ => cells, bound⟩

end Execution

namespace Engine

theorem keys_compileAll {g : Engine} {tables : List String} {entities : List Entity} {question : Value}
    {predicates : List (String × List Predicate)}
    (compiled : g.compileAll tables entities question = .ok predicates) : Assoc.keys predicates = tables := by
  unfold compileAll at compiled
  induction tables generalizing predicates with
  | nil =>
    cases compiled
    rfl
  | cons table rest ih =>
    rw [List.mapM_cons] at compiled
    obtain ⟨entry, here, compiled⟩ := bind_ok.mp compiled
    obtain ⟨later, there, compiled⟩ := bind_ok.mp compiled
    cases compiled
    have same : entry.1 = table := by
      split at here
      · cases here
        rfl
      · split at here
        · cases here
          rfl
        · cases here
    rw [← ih there, ← same]
    rfl

structure Makes (g : Engine) (question : Value) (r : Run) : Prop where
  routing : r.routing = Routing.route g.lexicon r.entities
  predicates : g.compileAll r.routing.tables r.entities question = .ok r.predicates
  execution : r.execution = Execution.run g.store g.execution r.routing.tables r.predicates

theorem run_ok {g : Engine} {userId : Option String} {question : Value} {r : Run}
    (done : (g.run userId question).1 = .ok r) : (g.extract userId question).2.Makes question r := by
  unfold run at done
  split at done
  · cases done
  · rename_i entities g' extracted
    rw [extracted]
    dsimp only at done
    split at done
    · cases done
    · rename_i predicates compiled
      cases done
      exact ⟨rfl, compiled, rfl⟩

theorem process_ok {g : Engine} {userId : Option String} {question : Value}
    (answered : (g.process userId question).1.field? "error" = some .null) :
    ∃ r, (g.run userId question).1 = .ok r ∧
      (g.process userId question).1 = (g.run userId question).2.answer userId question r := by
  unfold process at answered ⊢
  generalize g.run userId question = done at answered ⊢
  obtain ⟨outcome, g'⟩ := done
  cases outcome with
  | ok r => exact ⟨r, rfl, rfl⟩
  | error fault =>
    have failed : (g'.failure userId question fault).field? "error" = some (.text fault.message) := rfl
    rw [failed] at answered
    cases answered

theorem process_text (g : Engine) (userId : Option String) (question : String) :
    (g.process userId (.text question)).1.field? "error" = some .null := by
  obtain ⟨r, answered, _⟩ := g.run_text userId question
  unfold process
  split
  · rfl
  · rename_i fault g' same
    rw [same] at answered
    cases answered

theorem keeps_store (frames : List (String × Frame)) (execution : ExecutionOptions) :
    Keeps fun g => g.store.frames = frames ∧ g.execution = execution where
  refresh g kept := ⟨(g.store.frames_afterSelect _).trans kept.1, kept.2⟩
  tagged _ _ _ kept := kept
  selected g tables kept := ⟨(g.store.frames_afterSelect tables).trans kept.1, kept.2⟩

/-- What an answer shows of tables, field by field. -/
structure Overview where
  tables : List String
  reasons : List (String × String)
  predicates : List (String × List Value)
  rows : List (String × List (List (String × Value)))
  merged : List (List (String × Value))
  counts : List (String × Nat)
  total : Nat
  filters : List String
  summary : String
  errors : List (String × String)

namespace Overview

structure ShownIn (o : Overview) (answer : Value) : Prop where
  tables : answer.field? "target_tables" = some (.texts o.tables)
  reasons : answer.field? "routing" = some (.record (o.reasons.map fun entry => (entry.1, .text entry.2)))
  predicates : answer.field? "predicates" = some (.record (o.predicates.map fun entry => (entry.1, .list entry.2)))
  rows : answer.field? "rows_by_table" =
    some (.record (o.rows.map fun entry => (entry.1, .list (entry.2.map .record))))
  merged : answer.field? "merged_rows" = some (.list (o.merged.map .record))
  counts : answer.field? "counts" = some (.record (o.counts.map fun entry => (entry.1, .int entry.2)))
  total : answer.field? "total_rows" = some (.int o.total)
  filters : answer.field? "applied_filters" = some (.texts o.filters)
  summary : answer.field? "summary_text" = some (.text o.summary)
  errors : answer.field? "errors_by_table" = some (.record (o.errors.map fun entry => (entry.1, .text entry.2)))

/-- The fields are about the same tables, each once, and agree with each other. -/
structure Consistent (o : Overview) (limit : Int) : Prop where
  distinct : o.tables.Nodup
  reasons : Assoc.keys o.reasons = o.tables
  predicates : Assoc.keys o.predicates = o.tables
  rows : Assoc.keys o.rows = o.tables
  counts : Assoc.keys o.counts = o.tables
  counted : ∀ table ∈ o.tables, ∃ records, Assoc.get? table o.rows = some records ∧
    Assoc.get? table o.counts = some records.length ∧ (records.length : Int) ≤ limit
  total : o.total = o.counts.foldl (fun n entry => n + entry.2) 0
  mergedLength : o.merged.length = o.total
  merged : o.merged = o.rows.flatMap fun entry => entry.2.map fun record =>
    Assoc.ofList (("_table", .text entry.1) :: record)
  failed : ∀ table ∈ Assoc.keys o.errors, table ∈ o.tables ∧ Assoc.get? table o.rows = some []
  named : o.summary = Summary.textOf o.counts o.total o.filters [] ++
    if o.errors = [] then "" else " Could not query: " ++ ", ".intercalate (Assoc.keys o.errors) ++ "."

end Overview

namespace Run

def overview (r : Run) : Overview :=
  { tables := r.routing.tables
    reasons := r.routing.reasons
    predicates := r.predicates.map fun entry => (entry.1, entry.2.map Predicate.toRecord)
    rows := r.rows
    merged := r.mergedRows
    counts := r.summary.counts
    total := r.summary.totalRows
    filters := r.summary.appliedFilters
    summary := r.summary.text
    errors := r.execution.errors }

theorem overview_shown (g : Engine) (userId : Option String) (question : Value) (r : Run) :
    r.overview.ShownIn (g.answer userId question r) where
  tables := rfl
  reasons := rfl
  predicates := by
    unfold overview
    rw [List.map_map]
    rfl
  rows := rfl
  merged := rfl
  counts := rfl
  total := rfl
  filters := rfl
  summary := rfl
  errors := rfl

end Run

theorem foldl_size {α : Type} {frames : List (String × Frame)}
    (whole : ∀ entry ∈ frames, entry.2.toRecords.length = entry.2.size) (f : String → List (String × Value) → α)
    (n : Nat) :
    frames.foldl (fun n entry => n + entry.2.size) n =
      n + (frames.flatMap fun entry => entry.2.toRecords.map (f entry.1)).length := by
  induction frames generalizing n with
  | nil => rfl
  | cons entry rest ih =>
    obtain ⟨here, there⟩ := List.forall_mem_cons.mp whole
    rw [List.foldl_cons, ih there, List.flatMap_cons, List.length_append, List.length_map, here, Nat.add_assoc]

theorem textOf_failed (counts : List (String × Nat)) (total : Nat) (filters failed : List String) :
    Summary.textOf counts total filters failed = Summary.textOf counts total filters [] ++
      if failed = [] then "" else " Could not query: " ++ ", ".intercalate failed ++ "." := by
  unfold Summary.textOf
  cases failed with
  | nil => simp
  | cons table rest =>
    rw [List.isEmpty_cons, List.isEmpty_nil, if_neg Bool.false_ne_true, if_pos rfl,
      if_neg (List.cons_ne_nil table rest), String.append_empty]
    rfl

namespace Run

variable {r : Run} {limit : Int}

theorem keys_rows (r : Run) : Assoc.keys r.rows = Assoc.keys r.execution.outcomes := by
  rw [← Execution.keys_frames, rows, Assoc.keys, Assoc.keys, List.map_map]
  rfl

theorem keys_counts (r : Run) : Assoc.keys r.summary.counts = Assoc.keys r.execution.outcomes := by
  rw [← Execution.keys_frames]
  unfold summary Summary.of Assoc.keys
  rw [List.map_map]
  rfl

theorem summary_text (r : Run) (distinct : (Assoc.keys r.execution.outcomes).Nodup) :
    r.summary.text = Summary.textOf r.summary.counts r.summary.totalRows r.summary.appliedFilters
      (Assoc.keys r.execution.errors) := by
  rw [← Execution.keys_errors distinct, ← r.keys_counts]
  rfl

variable (bounded : ∀ entry ∈ r.execution.frames,
  entry.2.toRecords.length = entry.2.size ∧ (entry.2.size : Int) ≤ limit)

include bounded

theorem counted {table : String} (member : table ∈ Assoc.keys r.execution.outcomes) :
    ∃ records, Assoc.get? table r.rows = some records ∧ Assoc.get? table r.summary.counts = some records.length ∧
      (records.length : Int) ≤ limit := by
  rw [← Execution.keys_frames, ← Assoc.has_iff_mem_keys] at member
  obtain ⟨frame, found⟩ := Option.isSome_iff_exists.mp member
  obtain ⟨length, bound⟩ := bounded _ (Assoc.mem_of_get? found)
  dsimp only at length bound
  refine ⟨frame.toRecords, ?_, ?_, by rwa [length]⟩
  · rw [rows, Assoc.get?_map, found]
    rfl
  · rw [length]
    change Assoc.get? table (r.execution.frames.map fun entry => (entry.1, entry.2.size)) = _
    rw [Assoc.get?_map, found]
    rfl

theorem length_mergedRows : r.mergedRows.length = r.summary.totalRows := by
  have sizes := foldl_size (fun entry member => (bounded entry member).1)
    (fun table record => record.foldl (fun merged field => Assoc.put field.1 field.2 merged) [("_table", .text table)]) 0
  rw [Nat.zero_add] at sizes
  change _ = (r.execution.frames.map fun entry => (entry.1, entry.2.size)).foldl (fun n entry => n + entry.2) 0
  rw [mergedRows, rows, List.flatMap_map, List.foldl_map]
  exact sizes.symm

theorem overview_consistent (distinct : r.routing.tables.Nodup)
    (predicates : Assoc.keys r.predicates = r.routing.tables)
    (outcomes : Assoc.keys r.execution.outcomes = r.routing.tables) : r.overview.Consistent limit := by
  have each : (Assoc.keys r.execution.outcomes).Nodup := outcomes ▸ distinct
  refine ⟨distinct, rfl, ?_, r.keys_rows.trans outcomes, r.keys_counts.trans outcomes, ?_, rfl,
    length_mergedRows bounded, rfl, ?_, ?_⟩
  · refine Eq.trans ?_ predicates
    unfold overview Assoc.keys
    rw [List.map_map]
    rfl
  · intro table member
    exact counted bounded (outcomes ▸ member)
  · intro table failed
    obtain ⟨shown, inside, rfl⟩ := List.mem_map.mp failed
    obtain ⟨⟨table, outcome⟩, member, error⟩ := List.mem_filterMap.mp inside
    obtain ⟨message, broke, rfl⟩ := Option.map_eq_some_iff.mp error
    refine ⟨?_, ?_⟩
    · change table ∈ r.routing.tables
      rw [← outcomes]
      exact List.mem_map.mpr ⟨_, member, rfl⟩
    · have found := (Execution.shows_of_mem each member).rows
      rw [Execution.frame_of_error broke] at found
      change Assoc.get? table r.rows = some []
      rw [rows, Assoc.get?_map, found]
      rfl
  · have text := r.summary_text each
    rw [textOf_failed] at text
    simp only [Assoc.keys, List.map_eq_nil_iff] at text
    exact text

end Run

/-- Whichever tables of a store fail or hang, an answer without an error is consistent: all its fields are about the
same tables, and no table shows more rows than were asked for. -/
theorem process_consistent (g : Engine) (columns : g.store.HasColumns) {limit : Int} (positive : 0 < limit)
    (rowLimit : g.execution.rowLimit = .int limit) (userId : Option String) (question : Value)
    (answered : (g.process userId question).1.field? "error" = some .null) :
    ∃ o : Overview, o.ShownIn (g.process userId question).1 ∧ o.Consistent limit := by
  obtain ⟨r, done, answer⟩ := process_ok answered
  refine ⟨r.overview, by rw [answer]; exact Run.overview_shown _ _ _ _, ?_⟩
  obtain ⟨routing, compiled, executed⟩ := run_ok done
  obtain ⟨frames, execution⟩ := (keeps_store g.store.frames g.execution).extract ⟨rfl, rfl⟩ userId question
  have distinct : r.routing.tables.Nodup := by
    rw [routing]
    exact Routing.route_distinct _ _
  refine Run.overview_consistent ?_ distinct (keys_compileAll compiled) ?_
  · rw [executed]
    refine Execution.run_bounded ?_ (by rw [execution, rowLimit]) positive _ _
    rw [Store.HasColumns, frames]
    exact columns
  · rw [executed, Execution.keys_run, Assoc.distinct_of_nodup distinct]

def officeLexicon : Lexicon :=
  { tables := [{ table := "tasks" }, { table := "staff" }, { table := "sales" }]
    fallbackTables := ["sales", "tasks", "staff"] }

def officeStore : Store :=
  { contents := .memory [("tasks", DomainCache.recordFrame 1 "Call Ann"), ("staff", DomainCache.recordFrame 2 "Ann"),
      ("sales", DomainCache.recordFrame 3 "Desk")]
    failing := ["staff"], hanging := ["sales"] }

theorem office_consistent :
    let g := create officeStore officeLexicon {} { rowLimit := .int 5 } (.midnight ⟨2024, 6, 12⟩)
    let question := "what is new"
    g.store.HasColumns ∧ (0 : Int) < 5 ∧ g.execution.rowLimit = .int 5 ∧
      (g.process none (.text question)).1.field? "error" = some .null ∧
        ((g.run none (.text question)).1.toOption.map fun r =>
          (r.rows.map (fun entry => (entry.1, entry.2.length)), r.execution.errors)) =
            some ([("sales", 0), ("tasks", 1), ("staff", 0)],
              [("sales", "timeout"), ("staff", "staff is unavailable")]) ∧
          ∃ o : Overview, o.ShownIn (g.process none (.text question)).1 ∧ o.Consistent 5 := by
  intro g question
  have columns : g.store.HasColumns := by
    unfold Store.HasColumns
    decide
  have answered := g.process_text none question
  refine ⟨columns, by decide, rfl, answered, by decide +kernel, ?_⟩
  exact process_consistent g columns (by decide) rfl none (.text question) answered

end Engine

end TableTalk
