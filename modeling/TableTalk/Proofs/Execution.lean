import TableTalk.Execution
import TableTalk.Proofs.Assoc

namespace TableTalk

namespace Execution

def hangingBefore (store : Store) (tables : List String) (table : String) : Nat :=
  (tables.takeWhile fun other => decide (other ≠ table)).countP store.isHanging

def isLate (store : Store) (workers : Int) (tables : List String) (table : String) : Bool :=
  store.isHanging table || decide (workers ≤ hangingBefore store tables table)

variable (store : Store) (options : ExecutionOptions) (predicates : List (String × List Predicate))

/-- What becomes of a table, from the tables before it alone. -/
def outcomeOf (workers : Int) (tables : List String) (table : String) : Outcome :=
  if isLate store workers tables table then .timedOut
  else lookup store options.rowLimit (predicatesOf table predicates) table

theorem hangingBefore_head (table : String) (rest : List String) : hangingBefore store (table :: rest) table = 0 := by
  rw [hangingBefore, List.takeWhile_cons_of_neg (by simp)]
  rfl

theorem hangingBefore_cons {table other : String} (apart : table ≠ other) (rest : List String) :
    hangingBefore store (table :: rest) other =
      hangingBefore store rest other + if store.isHanging table then 1 else 0 := by
  rw [hangingBefore, List.takeWhile_cons_of_pos (by simp [apart]), List.countP_cons]
  rfl

theorem hangingBefore_split {before after : List String} {table : String}
    (distinct : (before ++ table :: after).Nodup) :
    hangingBefore store (before ++ table :: after) table = before.countP store.isHanging := by
  have apart : ∀ other ∈ before, decide (other ≠ table) = true := fun other member =>
    decide_eq_true ((List.nodup_append.mp distinct).2.2 other member table List.mem_cons_self)
  rw [hangingBefore, List.takeWhile_append_of_pos apart, List.takeWhile_cons_of_neg (by simp), List.append_nil]

theorem outcomeOf_cons {table other : String} (apart : table ≠ other) (workers : Int) (rest : List String) :
    outcomeOf store options predicates workers (table :: rest) other =
      outcomeOf store options predicates (workers - if store.isHanging table then 1 else 0) rest other := by
  unfold outcomeOf isLate
  rw [hangingBefore_cons store apart]
  congr 3
  rw [decide_eq_decide]
  split <;> omega

/-- Once no worker is left, how many are missing does not matter. -/
theorem outcomeOf_exhausted {workers : Int} (none : workers ≤ 0) (tables : List String) (table : String) :
    outcomeOf store options predicates workers tables table = .timedOut := by
  have exhausted : workers ≤ hangingBefore store tables table := by omega
  rw [outcomeOf, isLate, decide_eq_true exhausted, Bool.or_true, if_pos rfl]

theorem isTimedOut_outcomeOf (workers : Int) (tables : List String) (table : String) :
    (outcomeOf store options predicates workers tables table).isTimedOut = isLate store workers tables table := by
  unfold outcomeOf
  split
  · rename_i late
    exact late.symm
  · rename_i early
    rw [Bool.eq_false_iff.mpr early, lookup]
    split <;> rfl

theorem runFrom_eq {tables : List String} (distinct : tables.Nodup) (workers : Int) :
    runFrom store options predicates workers tables =
      tables.map fun table => (table, outcomeOf store options predicates workers tables table) := by
  induction tables generalizing workers with
  | nil => rfl
  | cons table rest ih =>
    obtain ⟨new, distinct⟩ := List.nodup_cons.mp distinct
    have later (left : Int)
        (same : ∀ other ∈ rest, outcomeOf store options predicates workers (table :: rest) other =
          outcomeOf store options predicates left rest other) :
        runFrom store options predicates left rest =
          rest.map fun other => (other, outcomeOf store options predicates workers (table :: rest) other) := by
      rw [ih distinct]
      exact List.map_congr_left fun other member => by rw [same other member]
    have apart : ∀ other ∈ rest, table ≠ other := fun other member same => new (same ▸ member)
    rw [runFrom, List.map_cons]
    split
    · rename_i none
      rw [outcomeOf_exhausted store options predicates none, later workers]
      intro other member
      rw [outcomeOf_exhausted store options predicates none, outcomeOf_exhausted store options predicates none]
    · rename_i some
      have here : isLate store workers (table :: rest) table = store.isHanging table := by
        rw [isLate, hangingBefore_head, decide_eq_false (by omega), Bool.or_false]
      split
      · rename_i hangs
        rw [later (workers - 1), outcomeOf, here, if_pos hangs]
        intro other member
        rw [outcomeOf_cons store options predicates (apart other member), if_pos hangs]
      · rename_i answers
        rw [later workers, outcomeOf, here, if_neg answers]
        intro other member
        rw [outcomeOf_cons store options predicates (apart other member), if_neg answers, Int.sub_zero]

/-- What an execution shows of a table: its rows, its error, and whether it was too late. -/
structure Shows (x : Execution) (table : String) (frame : Frame) (error : Option String) (late : Bool) : Prop where
  rows : Assoc.get? table x.frames = some frame
  error : Assoc.get? table x.errors = error
  timedOut : table ∈ x.timedOut ↔ late = true

theorem shows_of_mem {x : Execution} (distinct : (Assoc.keys x.outcomes).Nodup) {table : String} {outcome : Outcome}
    (member : (table, outcome) ∈ x.outcomes) :
    x.Shows table outcome.frame outcome.error? outcome.isTimedOut := by
  have found := Assoc.get?_of_mem distinct member
  refine ⟨?_, ?_, ?_⟩
  · rw [frames, Assoc.get?_map, found]
    rfl
  · rw [errors, Assoc.get?_filterMap Outcome.error? distinct, found]
    rfl
  · rw [timedOut, List.mem_map]
    constructor
    · rintro ⟨entry, inside, rfl⟩
      obtain ⟨inside, late⟩ := List.mem_filter.mp inside
      have same : entry.2 = outcome := Option.some.inj ((Assoc.get?_of_mem distinct inside).symm.trans found)
      rwa [← same]
    · exact fun late => ⟨_, List.mem_filter.mpr ⟨member, late⟩, rfl⟩

theorem keys_run (tables : List String) :
    Assoc.keys (run store options tables predicates).outcomes = Assoc.distinct tables := by
  rw [run, runFrom_eq store options predicates (Assoc.distinct_nodup tables), Assoc.keys, List.map_map]
  exact List.map_id _

theorem run_shows {tables : List String} {table : String} (member : table ∈ tables) :
    let outcome := outcomeOf store options predicates (workers options tables) (Assoc.distinct tables) table
    (run store options tables predicates).Shows table outcome.frame outcome.error? outcome.isTimedOut := by
  refine shows_of_mem (by rw [keys_run]; exact Assoc.distinct_nodup tables) ?_
  rw [run, runFrom_eq store options predicates (Assoc.distinct_nodup tables)]
  exact List.mem_map.mpr ⟨table, Assoc.mem_distinct.mpr member, rfl⟩

theorem run_listed {tables : List String} {table : String}
    (listed : table ∈ (run store options tables predicates).timedOut ∨
      table ∈ Assoc.keys (run store options tables predicates).errors) : table ∈ tables := by
  have known {entry : String × Outcome} (member : entry ∈ (run store options tables predicates).outcomes) :
      entry.1 ∈ tables := by
    rw [← Assoc.mem_distinct, ← keys_run store options predicates]
    exact List.mem_map_of_mem member
  rcases listed with late | failed
  · obtain ⟨entry, inside, rfl⟩ := List.mem_map.mp late
    exact known (List.mem_filter.mp inside).1
  · obtain ⟨shown, inside, rfl⟩ := List.mem_map.mp failed
    obtain ⟨entry, member, error⟩ := List.mem_filterMap.mp inside
    obtain ⟨_, _, rfl⟩ := Option.map_eq_some_iff.mp error
    exact known member

theorem isLate_alone (table : String) :
    isLate store (workers options [table]) (Assoc.distinct [table]) table = store.isHanging table := by
  have some : ¬ workers options [table] ≤ (0 : Nat) := by
    unfold workers
    omega
  rw [Assoc.distinct, isLate, hangingBefore_head, decide_eq_false some, Bool.or_false]

/-- A pool of workers: the tables that wait for a worker, in their order, those that are being looked up, and those that
were answered. -/
structure Pool where
  waiting : List String
  running : List String := []
  answered : List String := []

namespace Pool

/-- What can happen next: a free worker takes the table that waits longest, or any lookup is answered that ever is. -/
inductive Step (store : Store) (workers : Int) : Pool → Pool → Prop
  | start {table : String} {waiting running answered : List String} (free : running.length < workers) :
    Step store workers ⟨table :: waiting, running, answered⟩ ⟨waiting, table :: running, answered⟩
  | answer {table : String} {waiting before after answered : List String} (answers : store.isHanging table = false) :
    Step store workers ⟨waiting, before ++ table :: after, answered⟩ ⟨waiting, before ++ after, table :: answered⟩

inductive Reaches (store : Store) (workers : Int) (first : Pool) : Pool → Prop
  | refl : Reaches store workers first first
  | step {p next : Pool} (reached : Reaches store workers first p) (step : Step store workers p next) :
    Reaches store workers first next

def IsSettled (store : Store) (workers : Int) (p : Pool) : Prop :=
  ∀ next, ¬ Step store workers p next

/-- Tables are taken in their order, each while a worker is free, and only lookups that answer are answered. -/
structure Fair (store : Store) (workers : Int) (tables : List String) (p : Pool) : Prop where
  taken : ∃ taken, tables = taken ++ p.waiting ∧ (p.running ++ p.answered).Perm taken ∧
    ∀ before table after, taken = before ++ table :: after → before.countP store.isHanging < workers
  answers : ∀ table ∈ p.answered, store.isHanging table = false

variable {store : Store} {workers : Int} {tables : List String} {p next : Pool}

theorem countP_running {running answered taken : List String} (perm : (running ++ answered).Perm taken)
    (answers : ∀ table ∈ answered, store.isHanging table = false) :
    taken.countP store.isHanging = running.countP store.isHanging := by
  have none : answered.countP store.isHanging = 0 := by
    rw [List.countP_eq_zero]
    intro table member
    rw [answers table member]
    exact Bool.false_ne_true
  rw [← perm.countP_eq, List.countP_append, none, Nat.add_zero]

theorem fair_first (tables : List String) : Fair store workers tables ⟨tables, [], []⟩ := by
  refine ⟨⟨[], rfl, List.Perm.refl _, ?_⟩, nofun⟩
  intro before table after none
  cases before <;> cases none

theorem Fair.step (fair : Fair store workers tables p) (step : Step store workers p next) :
    Fair store workers tables next := by
  obtain ⟨⟨taken, split, perm, free⟩, answers⟩ := fair
  cases step with
  | @start table waiting running answered space =>
    dsimp only at split perm answers
    have count := countP_running perm answers
    have bound := List.countP_le_length (p := store.isHanging) (l := running)
    refine ⟨⟨taken ++ [table], ?_, ?_, ?_⟩, answers⟩
    · rw [split, List.append_assoc, List.singleton_append]
    · exact (perm.cons table).trans (List.perm_append_singleton table taken).symm
    · exact Assoc.forall_split_append.mpr ⟨free, by omega⟩
  | @answer table waiting before after answered answering =>
    dsimp only at split perm answers
    refine ⟨⟨taken, split, List.Perm.trans ?_ perm, free⟩, List.forall_mem_cons.mpr ⟨answering, answers⟩⟩
    dsimp only
    rw [List.append_assoc, List.append_assoc, List.cons_append]
    exact List.perm_middle.append_left before

theorem Reaches.fair (reached : Reaches store workers ⟨tables, [], []⟩ p) : Fair store workers tables p := by
  induction reached with
  | refl => exact fair_first tables
  | step _ step ih => exact ih.step step

/-- In a pool at rest, the tables that were answered are those that are not too late. -/
theorem Fair.answered_iff (fair : Fair store workers tables p) (settled : p.IsSettled store workers)
    (distinct : tables.Nodup) {table : String} (member : table ∈ tables) :
    table ∈ p.answered ↔ isLate store workers tables table = false := by
  obtain ⟨⟨taken, rfl, perm, free⟩, answers⟩ := fair
  obtain ⟨waiting, running, answered⟩ := p
  dsimp only at perm answers distinct member ⊢
  have hang : ∀ other ∈ running, store.isHanging other = true := by
    intro other among
    obtain ⟨before, after, rfl⟩ := List.append_of_mem among
    rw [← Bool.not_eq_false]
    exact fun answers => settled _ (.answer answers)
  unfold isLate
  rw [Bool.or_eq_false_iff, decide_eq_false_iff_not, Int.not_le]
  constructor
  · intro answered
    obtain ⟨before, after, rfl⟩ := List.append_of_mem (perm.mem_iff.mp (List.mem_append_right running answered))
    rw [List.append_assoc, List.cons_append] at distinct ⊢
    rw [hangingBefore_split store distinct]
    exact ⟨answers table answered, free before table after rfl⟩
  · rintro ⟨answering, early⟩
    rcases List.mem_append.mp member with started | waits
    · rcases List.mem_append.mp (perm.mem_iff.mpr started) with runs | answered
      · rw [hang table runs] at answering
        cases answering
      · exact answered
    · -- the table waits although fewer workers are kept than there are
      obtain ⟨first, rest, rfl⟩ := List.exists_cons_of_ne_nil (List.ne_nil_of_mem waits)
      have full : workers ≤ running.length := Int.not_lt.mp fun free => settled _ (.start free)
      have kept : taken.countP store.isHanging = running.length := by
        rw [countP_running perm answers, List.countP_eq_length.mpr hang]
      obtain ⟨before, after, split⟩ := List.append_of_mem waits
      rw [split, ← List.append_assoc] at distinct early
      rw [hangingBefore_split store distinct, List.countP_append] at early
      omega

theorem Step.smaller (step : Step store workers p next) :
    2 * next.waiting.length + next.running.length < 2 * p.waiting.length + p.running.length := by
  cases step with
  | start free =>
    simp only [List.length_cons]
    omega
  | answer answers =>
    simp only [List.length_append, List.length_cons]
    omega

theorem Reaches.behind {q : Pool} (step : Step store workers p next) (reached : Reaches store workers next q) :
    Reaches store workers p q := by
  induction reached with
  | refl => exact .step .refl step
  | step _ last ih => exact .step ih last

/-- Workers always come to rest. -/
theorem settles (store : Store) (workers : Int) (p : Pool) :
    ∃ q, Reaches store workers p q ∧ q.IsSettled store workers := by
  by_cases settled : p.IsSettled store workers
  · exact ⟨p, .refl, settled⟩
  · obtain ⟨next, step⟩ := Classical.not_forall_not.mp settled
    have smaller := step.smaller
    obtain ⟨q, reached, rest⟩ := settles store workers next
    exact ⟨q, reached.behind step, rest⟩
termination_by 2 * p.waiting.length + p.running.length

end Pool

/-- Lookups that fail or never answer cost other tables nothing as long as a worker is left: every table has an entry,
those that are too late have timed out, every other one shows its own error or the rows that it shows alone, and whatever
the order in which lookups are answered, those of the tables in time are. -/
theorem run_isolates (tables : List String) :
    let x := run store options tables predicates
    let order := Assoc.distinct tables
    let all := workers options tables
    Assoc.keys x.frames = order ∧
      (∀ table ∈ tables,
        if isLate store all order table then x.Shows table {} (some "timeout") true
        else match store.select table ((predicatesOf table predicates).map .predicate) options.rowLimit with
          | .error error => x.Shows table {} (some error.message) false
          | .ok frame => x.Shows table frame none false ∧
            (run store options [table] predicates).Shows table frame none false) ∧
      (∀ table, table ∈ x.timedOut ∨ table ∈ Assoc.keys x.errors → table ∈ tables) ∧
      (∃ p, Pool.Reaches store all ⟨order, [], []⟩ p ∧ p.IsSettled store all) ∧
      ∀ p, Pool.Reaches store all ⟨order, [], []⟩ p → p.IsSettled store all →
        ∀ table ∈ tables, table ∈ p.answered ↔ table ∉ x.timedOut := by
  intro x order all
  have shows : ∀ table ∈ tables,
      x.Shows table (outcomeOf store options predicates all order table).frame
        (outcomeOf store options predicates all order table).error?
        (outcomeOf store options predicates all order table).isTimedOut :=
    fun table member => run_shows store options predicates member
  refine ⟨?_, ?_, fun table => run_listed store options predicates, Pool.settles store all _, ?_⟩
  · rw [frames, Assoc.keys, List.map_map]
    exact keys_run store options predicates tables
  · intro table member
    have here := shows table member
    have alone := run_shows store options predicates (List.mem_singleton_self table)
    dsimp only at alone
    rw [outcomeOf] at here alone
    rw [isLate_alone] at alone
    cases late : isLate store all order table with
    | true =>
      rw [late, if_pos rfl] at here
      rw [if_pos rfl]
      exact here
    | false =>
      have answers := ((Bool.or_eq_false_iff).mp late).1
      rw [answers, if_neg Bool.false_ne_true, lookup] at alone
      rw [late, if_neg Bool.false_ne_true, lookup] at here
      rw [if_neg Bool.false_ne_true]
      cases selected : store.select table ((predicatesOf table predicates).map .predicate) options.rowLimit with
      | error error =>
        rw [selected] at here
        exact here
      | ok frame =>
        rw [selected] at here alone
        exact ⟨here, alone⟩
  · intro p reached settled table member
    rw [reached.fair.answered_iff settled (Assoc.distinct_nodup tables) (Assoc.mem_distinct.mpr member),
      (shows table member).timedOut, isTimedOut_outcomeOf, Bool.not_eq_true]

end Execution

end TableTalk
