import TableTalk.Proofs.Sql.Statements
import TableTalk.Store.Database

namespace TableTalk

open Sql Outcome

def Frame.satisfying (f : Frame) (predicates : List Predicate) : List (List Value) :=
  f.rows.filter fun row => Predicate.Satisfied predicates (f.cells row)

namespace Sql

theorem holds_ofChecked {predicates : List Predicate} (wellFormed : ∀ p ∈ predicates, WellFormed p) {e : Expr}
    (allOf : e.IsAllOf (Clause.ofChecked predicates)) {row : Row} {b : Bool} :
    e.holds row = .ok b ↔ (∀ p ∈ predicates, p.AsksOf row) ∧ decide (Predicate.Satisfied predicates row) = b := by
  have defined : (∃ b, e.holds row = .ok b) ↔ ∀ p ∈ predicates, p.AsksOf row := by
    rw [e.holds_defined, allOf.defined, defined_ofChecked wellFormed]
  have isTrue : e.holds row = .ok true ↔ (∀ p ∈ predicates, p.AsksOf row) ∧ Predicate.Satisfied predicates row := by
    rw [e.holds_iff_isTrue, allOf.isTrue, defined_ofChecked wellFormed, isTrue_ofChecked wellFormed]
    rfl
  rw [← defined] at isTrue ⊢
  constructor
  · intro held
    refine ⟨⟨b, held⟩, ?_⟩
    cases b with
    | true => exact decide_eq_true (isTrue.mp held).2
    | false =>
      refine decide_eq_false fun satisfied => ?_
      rw [isTrue.mpr ⟨⟨false, held⟩, satisfied⟩] at held
      cases held
  · rintro ⟨⟨outcome, held⟩, rfl⟩
    by_cases satisfied : Predicate.Satisfied predicates row
    · rw [decide_eq_true satisfied]
      exact isTrue.mpr ⟨⟨outcome, held⟩, satisfied⟩
    · rw [decide_eq_false satisfied]
      cases outcome with
      | true => exact absurd (isTrue.mp held).2 satisfied
      | false => exact held

theorem rows_ofChecked {predicates : List Predicate} (wellFormed : ∀ p ∈ predicates, WellFormed p) {e : Expr}
    (allOf : e.IsAllOf (Clause.ofChecked predicates)) (cells : List Value → Row) {rows kept : List (List Value)} :
    (∃ outcomes, (rows.mapM fun row => do return (row, ← e.holds (cells row))) = .ok outcomes ∧
        (outcomes.filter Prod.snd).map Prod.fst = kept) ↔
      (∀ row ∈ rows, ∀ p ∈ predicates, p.AsksOf (cells row)) ∧
        rows.filter (fun row => Predicate.Satisfied predicates (cells row)) = kept := by
  induction rows generalizing kept with
  | nil => simp [pure_ok]
  | cons row rest ih =>
    simp only [List.mapM_cons, bind_ok, pure_ok, holds_ofChecked wellFormed allOf, List.forall_mem_cons]
    constructor
    · rintro ⟨_, ⟨_, ⟨_, ⟨asks, rfl⟩, rfl⟩, outcomes, later, rfl⟩, rfl⟩
      obtain ⟨others, same⟩ := ih.mp ⟨outcomes, later, rfl⟩
      refine ⟨⟨asks, others⟩, ?_⟩
      by_cases satisfied : Predicate.Satisfied predicates (cells row) <;> simp [satisfied, same]
    · rintro ⟨⟨asks, others⟩, rfl⟩
      obtain ⟨outcomes, later, same⟩ := ih.mpr ⟨others, rfl⟩
      refine ⟨_, ⟨_, ⟨_, ⟨asks, rfl⟩, rfl⟩, outcomes, later, rfl⟩, ?_⟩
      by_cases satisfied : Predicate.Satisfied predicates (cells row) <;> simp [satisfied, same]

/-- Whether predicates can be asked of a frame: its columns compare with their values, and so does every cell. -/
structure Asks (predicates : List Predicate) (f : Frame) : Prop where
  checks : ∀ p ∈ predicates, (Condition.ofPredicate p).expr.check f.columns = .ok ()
  rows : ∀ row ∈ f.rows, ∀ p ∈ predicates, p.AsksOf (f.cells row)

theorem matching_ok {predicates : List Predicate} (wellFormed : ∀ p ∈ predicates, WellFormed p)
    {condition : Option Expr} (stated : (Clause.ofChecked predicates).IsStatedBy condition) {f : Frame}
    {rows : List (List Value)} :
    Sql.matching f condition = .ok rows ↔ Asks predicates f ∧ f.satisfying predicates = rows := by
  cases condition with
  | none =>
    have none : predicates = [] := Decidable.byContradiction fun more => ofChecked_ne_nil more stated
    subst none
    have all : f.satisfying [] = f.rows := List.filter_eq_self.mpr fun row _ => decide_eq_true nofun
    rw [matching, pure_ok, all]
    exact ⟨fun same => ⟨⟨nofun, fun _ _ => nofun⟩, same⟩, And.right⟩
  | some e =>
    have allOf : e.IsAllOf (Clause.ofChecked predicates) := stated
    have checks : e.check f.columns = .ok () ↔
        ∀ p ∈ predicates, (Condition.ofPredicate p).expr.check f.columns = .ok () := by
      rw [allOf.checks, forall_ofChecked]
    rw [matching, bind_ok]
    simp only [bind_ok, pure_ok, rows_ofChecked wellFormed allOf, checks]
    constructor
    · rintro ⟨_, checked, asks, same⟩
      exact ⟨⟨checked, asks⟩, same⟩
    · rintro ⟨⟨checked, asks⟩, same⟩
      exact ⟨(), checked, asks, same⟩

end Sql

namespace Database

variable {d : Database} {table : String} {predicates : List Predicate}

theorem query_ok {text : String} {params : List Value} {answer : Answer} :
    d.query text params = .ok answer ↔ d.closed = false ∧ ∃ q, Query.read text params = some q ∧
      ∃ f, d.table? q.table = some f ∧ q.answer f = .ok answer := by
  unfold query
  cases d.closed with
  | true => simp
  | false =>
    cases Query.read text params with
    | none => simp
    | some q => cases found : d.table? q.table <;> simp [found, mapError_ok]

/-- When a database answers lookups of a table with predicates: the table is listed and there, the predicates are
accepted, no name is a word of the language, and the predicates can be asked of the rows. All names are those that
tidying leaves. -/
structure Answers (d : Database) (table : String) (predicates : List Predicate) (f : Frame) : Prop where
  listed : d.checkTable table = .ok ()
  named : checkName "table" table = .ok ()
  accepted : ∀ p ∈ predicates, checkPredicate p = .ok ()
  opened : d.closed = false
  free : NamesAreFree table predicates
  found : d.table? (tidiedName table) = some f
  asks : Asks (predicates.map Predicate.tidied) f

theorem tidied_wellFormed (accepted : ∀ p ∈ predicates, checkPredicate p = .ok ()) :
    ∀ p ∈ predicates.map Predicate.tidied, WellFormed p :=
  List.forall_mem_map.mpr fun p member => wellFormed_tidied (checkPredicate_ok (accepted p member))

theorem checkLimit_ok {limit : Value} : Statement.checkLimit limit = .ok () ↔ ∃ n, limit.asInt? = some n ∧ 0 < n := by
  unfold Statement.checkLimit
  cases limit.asInt? with
  | none => simp
  | some n => by_cases positive : 0 < n <;> simp [positive]

def answerOf (result : Sql.Result) (f : Frame) (rows : List (List Value)) : Except QueryFault Answer :=
  match result with
  | .count => .ok (.count rows.length)
  | .rows none => .ok (.rows { f with rows := rows })
  | .rows (some limit) =>
    if maxLimit < limit then .error .limitTooLarge else .ok (.rows { f with rows := rows.take limit })

theorem answerOf_limit {limit : Nat} {f : Frame} {rows : List (List Value)} {answer : Answer} :
    answerOf (.rows (some limit)) f rows = .ok answer ↔
      limit ≤ maxLimit ∧ .rows { f with rows := rows.take limit } = answer := by
  simp only [answerOf]
  split
  · rename_i large
    exact ⟨nofun, fun given => absurd given.1 (Nat.not_le.mpr large)⟩
  · rename_i small
    exact ⟨fun same => ⟨Nat.not_lt.mp small, Except.ok.inj same⟩, fun given => congrArg Except.ok given.2⟩

theorem answer_ok {q : Query} {f : Frame} {answer : Answer} :
    q.answer f = .ok answer ↔ ∃ rows, matching f q.condition = .ok rows ∧ answerOf q.result f rows = .ok answer := by
  rw [Query.answer, bind_ok]
  refine exists_congr fun rows => and_congr_right fun _ => ?_
  obtain ⟨_, _, result⟩ := q
  match result with
  | .count | .rows none => exact Iff.rfl
  | .rows (some limit) =>
    by_cases large : maxLimit < limit <;> simp [answerOf, large, pure_ok, throw, throwThe, MonadExceptOf.throw]

theorem query_statement (accepted : ∀ p ∈ predicates, checkPredicate p = .ok ()) {text : String} {params : List Value}
    {result : Sql.Result}
    (read : (NamesAreFree table predicates → ∃ condition,
        Query.read text params = some ⟨tidiedName table, condition, result⟩ ∧
          (Clause.ofChecked (predicates.map Predicate.tidied)).IsStatedBy condition) ∧
      (¬ NamesAreFree table predicates → Query.read text params = none)) {answer : Answer} :
    d.query text params = .ok answer ↔ d.closed = false ∧ NamesAreFree table predicates ∧
      ∃ f, d.table? (tidiedName table) = some f ∧ Asks (predicates.map Predicate.tidied) f ∧
        answerOf result f (f.satisfying (predicates.map Predicate.tidied)) = .ok answer := by
  rw [query_ok]
  refine and_congr_right fun _ => ?_
  by_cases free : NamesAreFree table predicates
  · obtain ⟨condition, parsed, stated⟩ := read.1 free
    simp only [parsed, Option.some.injEq, exists_eq_left', answer_ok, free, true_and,
      matching_ok (tidied_wellFormed accepted) stated, and_assoc, exists_and_left]
  · simp [read.2 free, free]

theorem statement_select {limit : Value} {s : Statement} :
    Statement.select table (predicates.map .predicate) limit = .ok s ↔
      checkName "table" table = .ok () ∧ (∃ n, limit.asInt? = some n ∧ 0 < n) ∧
        (∀ p ∈ predicates, checkPredicate p = .ok ()) ∧
          let clause := Clause.ofChecked predicates
          ⟨Text.collapse s!"SELECT * FROM {quoteIdentifier table} {clause.text} LIMIT {limit.shown}", clause.params⟩ =
            s := by
  rw [Statement.select, check_ok, check_ok, bind_ok, checkLimit_ok]
  simp only [ofCandidates_iff, pure_ok]
  refine and_congr_right fun _ => and_congr_right fun _ => ?_
  constructor
  · rintro ⟨_, ⟨rfl, accepted⟩, same⟩
    exact ⟨accepted, same⟩
  · rintro ⟨accepted, same⟩
    exact ⟨_, ⟨rfl, accepted⟩, same⟩

theorem rows_ok {text : String} {params : List Value} {result : Frame} :
    d.rows text params = .ok result ↔
      ∃ f, d.query text params = .ok (.rows f) ∧ f.mapCells ColumnType.fetched = result := by
  rw [Database.rows, bind_ok]
  constructor
  · rintro ⟨answer, answered, done⟩
    cases answer with
    | rows f => exact ⟨f, answered, pure_ok.mp done⟩
    | count n => cases done
  · rintro ⟨f, answered, same⟩
    exact ⟨.rows f, answered, pure_ok.mpr same⟩

theorem select_ok {limit : Value} {result : Frame} :
    d.select table (predicates.map .predicate) limit = .ok result ↔
      ∃ f n, d.Answers table predicates f ∧ limit.asInt? = some n ∧ 0 < n ∧ n.toNat ≤ maxLimit ∧
        ({ f with rows := (f.satisfying (predicates.map Predicate.tidied)).take n.toNat } : Frame).mapCells
          ColumnType.fetched = result := by
  rw [select, check_ok, bind_ok]
  simp only [mapError_ok, statement_select, rows_ok]
  constructor
  · rintro ⟨listed, _, ⟨named, ⟨n, number, positive⟩, accepted, rfl⟩, rows, answered, same⟩
    dsimp only at answered
    obtain ⟨opened, free, f, found, asks, returned⟩ :=
      (query_statement accepted (Query.read_select named accepted number positive)).mp answered
    obtain ⟨small, taken⟩ := answerOf_limit.mp returned
    cases taken
    exact ⟨f, n, ⟨listed, named, accepted, opened, free, found, asks⟩, number, positive, small, same⟩
  · rintro ⟨f, n, ⟨listed, named, accepted, opened, free, found, asks⟩, number, positive, small, same⟩
    have answered := (query_statement accepted (Query.read_select named accepted number positive)).mpr
      ⟨opened, free, f, found, asks, answerOf_limit.mpr ⟨small, rfl⟩⟩
    refine ⟨listed, _, ⟨named, ⟨n, number, positive⟩, accepted, rfl⟩, _, ?_, same⟩
    dsimp only
    exact answered

end Database

namespace Predicate

variable {predicates others : List Predicate} {row : Row}

end Predicate

namespace Frame

variable {f : Frame} {predicates others : List Predicate}

end Frame

namespace Database

variable {d : Database} {table : String} {predicates others : List Predicate} {f : Frame}

def fetchedRow (f : Frame) (row : List Value) : List Value :=
  List.zipWith (fun column value => column.type.elim value fun type => type.fetched value) f.columns row

theorem Answers.unique {g : Frame} (here : d.Answers table predicates f) (there : d.Answers table others g) : f = g :=
  Option.some.inj (here.found.symm.trans there.found)

end Database

end TableTalk
