import TableTalk.Proofs.Outcome
import TableTalk.Proofs.Sql.Reading
import TableTalk.Sql.Meaning

namespace TableTalk.Sql

open Outcome

/-- Whether a condition has an outcome for a row: its columns are there and compare with its values. -/
def Expr.Defined (e : Expr) (row : Row) : Prop :=
  ∃ outcome, e.eval row = .ok outcome

def Expr.IsTrue (e : Expr) (row : Row) : Prop :=
  e.eval row = .ok (some true)

namespace Expr

theorem IsTrue.defined {e : Expr} {row : Row} (isTrue : e.IsTrue row) : e.Defined row :=
  ⟨some true, isTrue⟩

theorem holds_ok {e : Expr} {row : Row} {b : Bool} :
    e.holds row = .ok b ↔ ∃ outcome, e.eval row = .ok outcome ∧ (outcome = some true : Bool) = b := by
  unfold holds
  rw [bind_ok]
  simp only [pure_ok]

theorem holds_iff_isTrue (e : Expr) (row : Row) : e.holds row = .ok true ↔ e.IsTrue row := by
  simp [holds_ok, IsTrue]

theorem holds_defined (e : Expr) (row : Row) : (∃ b, e.holds row = .ok b) ↔ e.Defined row := by
  constructor
  · intro given
    rcases given with ⟨b, held⟩
    obtain ⟨outcome, evaluated, _⟩ := holds_ok.mp held
    exact ⟨outcome, evaluated⟩
  · intro given
    rcases given with ⟨outcome, evaluated⟩
    exact ⟨_, holds_ok.mpr ⟨outcome, evaluated, rfl⟩⟩

theorem andThen_true {a b : Option Bool} :
    andThen a b = some true ↔ a = some true ∧ b = some true := by
  rcases a with _ | _ | _ <;> rcases b with _ | _ | _ <;> decide

theorem orElse_true {a b : Option Bool} :
    orElse a b = some true ↔ a = some true ∨ b = some true := by
  rcases a with _ | _ | _ <;> rcases b with _ | _ | _ <;> decide

theorem eval_and {e f : Expr} {row : Row} {outcome : Option Bool} :
    (Expr.and e f).eval row = .ok outcome ↔
      ∃ a, e.eval row = .ok a ∧ ∃ b, f.eval row = .ok b ∧ andThen a b = outcome := by
  simp only [eval, bind_ok, pure_ok]

theorem eval_or {e f : Expr} {row : Row} {outcome : Option Bool} :
    (Expr.or e f).eval row = .ok outcome ↔
      ∃ a, e.eval row = .ok a ∧ ∃ b, f.eval row = .ok b ∧ orElse a b = outcome := by
  simp only [eval, bind_ok, pure_ok]

theorem defined_combined (combine : Option Bool → Option Bool → Option Bool) {e f : Expr} {row : Row} :
    (∃ outcome, ∃ a, e.eval row = .ok a ∧ ∃ b, f.eval row = .ok b ∧ combine a b = outcome) ↔
      e.Defined row ∧ f.Defined row := by
  constructor
  · intro given
    rcases given with ⟨_, a, first, b, second, _⟩
    exact ⟨⟨a, first⟩, ⟨b, second⟩⟩
  · intro given
    rcases given with ⟨⟨a, first⟩, ⟨b, second⟩⟩
    exact ⟨_, a, first, b, second, rfl⟩

theorem defined_and {e f : Expr} {row : Row} :
    (Expr.and e f).Defined row ↔ e.Defined row ∧ f.Defined row :=
  (exists_congr fun _ => eval_and).trans (defined_combined andThen)

theorem defined_or {e f : Expr} {row : Row} :
    (Expr.or e f).Defined row ↔ e.Defined row ∧ f.Defined row :=
  (exists_congr fun _ => eval_or).trans (defined_combined orElse)

theorem isTrue_and {e f : Expr} {row : Row} :
    (Expr.and e f).IsTrue row ↔ e.IsTrue row ∧ f.IsTrue row := by
  unfold IsTrue
  rw [eval_and]
  constructor
  · intro given
    rcases given with ⟨a, first, b, second, both⟩
    obtain ⟨rfl, rfl⟩ := andThen_true.mp both
    exact ⟨first, second⟩
  · intro given
    rcases given with ⟨first, second⟩
    exact ⟨_, first, _, second, rfl⟩

/-- An alternative that has no outcome spoils the others, whether they are true or not. -/
theorem isTrue_or {e f : Expr} {row : Row} :
    (Expr.or e f).IsTrue row ↔
      (e.Defined row ∧ f.Defined row) ∧ (e.IsTrue row ∨ f.IsTrue row) := by
  unfold IsTrue
  rw [eval_or]
  constructor
  · intro given
    rcases given with ⟨a, first, b, second, either⟩
    refine ⟨⟨⟨a, first⟩, ⟨b, second⟩⟩, ?_⟩
    rcases orElse_true.mp either with rfl | rfl
    · exact Or.inl first
    · exact Or.inr second
  · intro given
    rcases given with ⟨⟨⟨a, first⟩, ⟨b, second⟩⟩, either⟩
    refine ⟨a, first, b, second, orElse_true.mpr ?_⟩
    rcases either with holds | holds
    · rw [first] at holds
      exact Or.inl (Except.ok.inj holds)
    · rw [second] at holds
      exact Or.inr (Except.ok.inj holds)

/-- What is read of a group: it has an outcome if all members have one, and then it is true if one of them
is. -/
structure IsAnyOf (e : Expr) (members : List Condition) : Prop where
  checks : ∀ columns, e.check columns = .ok () ↔ ∀ c ∈ members, c.expr.check columns = .ok ()
  defined : ∀ row, e.Defined row ↔ ∀ c ∈ members, c.expr.Defined row
  isTrue : ∀ row, e.IsTrue row ↔
    (∀ c ∈ members, c.expr.Defined row) ∧ ∃ c ∈ members, c.expr.IsTrue row

theorem IsAnyOf.single (c : Condition) : c.expr.IsAnyOf [c] where
  checks columns := by simp
  defined row := by simp
  isTrue row := by
    simp only [List.mem_singleton, forall_eq, exists_eq_left]
    exact ⟨fun holds => ⟨holds.defined, holds⟩, And.right⟩

theorem IsAnyOf.cons {c : Condition} {e : Expr} {members : List Condition} (rest : e.IsAnyOf members) :
    (Expr.or c.expr e).IsAnyOf (c :: members) where
  checks columns := by
    rw [check, check_ok, rest.checks]
    simp
  defined row := by
    rw [defined_or, rest.defined]
    simp
  isTrue row := by
    rw [isTrue_or, rest.defined, rest.isTrue]
    simp only [List.mem_cons, forall_eq_or_imp, exists_eq_or_imp]
    -- being true of the rest asks for its outcome a second time
    constructor
    · intro either
      rcases either with ⟨defined, holds | ⟨_, holds⟩⟩
      · exact ⟨defined, Or.inl holds⟩
      · exact ⟨defined, Or.inr holds⟩
    · intro either
      rcases either with ⟨defined, holds | holds⟩
      · exact ⟨defined, Or.inl holds⟩
      · exact ⟨defined, Or.inr ⟨defined.2, holds⟩⟩

structure IsAllOf (e : Expr) (clause : Clause) : Prop where
  checks : ∀ columns, e.check columns = .ok () ↔
    ∀ members ∈ clause, ∀ c ∈ members, c.expr.check columns = .ok ()
  defined : ∀ row, e.Defined row ↔ ∀ members ∈ clause, ∀ c ∈ members, c.expr.Defined row
  isTrue : ∀ row, e.IsTrue row ↔
    (∀ members ∈ clause, ∀ c ∈ members, c.expr.Defined row) ∧
      ∀ members ∈ clause, ∃ c ∈ members, c.expr.IsTrue row

theorem IsAllOf.single {e : Expr} {members : List Condition} (group : e.IsAnyOf members) :
    e.IsAllOf [members] where
  checks columns := by simpa using group.checks columns
  defined row := by simpa using group.defined row
  isTrue row := by simpa using group.isTrue row

theorem IsAllOf.cons {e f : Expr} {members : List Condition} {clause : Clause}
    (group : e.IsAnyOf members) (rest : f.IsAllOf clause) : (Expr.and e f).IsAllOf (members :: clause) where
  checks columns := by
    rw [check, check_ok, group.checks, rest.checks]
    simp
  defined row := by
    rw [defined_and, group.defined, rest.defined]
    simp
  isTrue row := by
    rw [isTrue_and, group.isTrue, rest.isTrue]
    simp only [List.mem_cons, forall_eq_or_imp]
    exact and_and_and_comm

end Expr

namespace Query

theorem reads_alternatives {members : List Condition} (nonempty : members ≠ [])
    (readable : ∀ c ∈ members, isReadable c.column = true) :
    ∃ e : Expr, Reads .alternatives
      ([Lexeme.word "OR".toList].intercalate (members.map (Condition.lexemes .value))) e ∧
        e.IsAnyOf members := by
  induction members with
  | nil => exact absurd rfl nonempty
  | cons c rest ih =>
    have first := (reads_condition c (readable c List.mem_cons_self)).conjunction
    cases rest with
    | nil =>
      rw [List.map_cons, List.map_nil, List.intercalate_singleton]
      exact ⟨c.expr, first.alternatives, .single c⟩
    | cons next more =>
      obtain ⟨e, later, anyOf⟩ := ih (by simp) fun other member =>
        readable other (List.mem_cons_of_mem _ member)
      rw [List.map_cons, List.map_cons, List.intercalate_cons_cons, List.append_assoc,
        List.singleton_append]
      exact ⟨.or c.expr e, first.or later, anyOf.cons⟩

theorem reads_group {members : List Condition} (nonempty : members ≠ [])
    (readable : ∀ c ∈ members, isReadable c.column = true) :
    ∃ e : Expr, Reads .single (Clause.groupLexemes .value members) e ∧ e.IsAnyOf members := by
  obtain ⟨e, alternatives, anyOf⟩ := reads_alternatives nonempty readable
  match members, nonempty, readable, alternatives, anyOf with
  | [c], _, readable, _, _ =>
    exact ⟨c.expr, reads_condition c (readable c List.mem_cons_self), .single c⟩
  | _ :: _ :: _, _, _, alternatives, anyOf => exact ⟨e, alternatives.brackets, anyOf⟩

theorem reads_clause {clause : Clause} (stated : clause ≠ [])
    (nonempty : ∀ members ∈ clause, members ≠ [])
    (readable : ∀ members ∈ clause, ∀ c ∈ members, isReadable c.column = true) :
    ∃ e : Expr, Reads .conjunction (clause.lexemes .value) e ∧ e.IsAllOf clause := by
  induction clause with
  | nil => exact absurd rfl stated
  | cons members rest ih =>
    obtain ⟨e, group, anyOf⟩ := reads_group (nonempty members List.mem_cons_self)
      (readable members List.mem_cons_self)
    cases rest with
    | nil =>
      rw [Clause.lexemes, List.map_cons, List.map_nil, List.intercalate_singleton]
      exact ⟨e, group.conjunction, .single anyOf⟩
    | cons next more =>
      obtain ⟨f, later, allOf⟩ := ih (by simp)
        (fun members member => nonempty members (List.mem_cons_of_mem _ member))
        (fun members member => readable members (List.mem_cons_of_mem _ member))
      rw [Clause.lexemes, List.map_cons, List.map_cons, List.intercalate_cons_cons, List.append_assoc,
        List.singleton_append]
      exact ⟨.and e f, group.and later, .cons anyOf allOf⟩

end Query

end TableTalk.Sql
