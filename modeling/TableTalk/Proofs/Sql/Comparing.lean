import TableTalk.Proofs.Sql.Pattern
import TableTalk.Proofs.Sql.Truth

namespace TableTalk.Sql

open Outcome

/-- A cell beside a value that it is to be equal to: a text beside a number is read as a number. -/
def readBeside (value cell : Value) : Option Value :=
  match cell, value with
  | .text s, .int _ | .text s, .float _ => numberOf? s
  | _, _ => some cell

def IsAtLeast (cell value : Value) : Prop :=
  ∃ o, orderOf? cell value = some o ∧ o ≠ .lt

def IsAtMost (cell value : Value) : Prop :=
  ∃ o, orderOf? cell value = some o ∧ o ≠ .gt

def IsEqual (cell value : Value) : Prop :=
  ∃ n, readBeside value cell = some n ∧ orderOf? n value = some .eq

def ContainsText (cell : Value) (text : String) : Prop :=
  ∃ s, cellText cell = .text s ∧ (withoutNul text).map Text.lowerLetter <:+: folded s

def IsSameText (cell : Value) (text : String) : Prop :=
  ∃ s, cellText cell = .text s ∧ folded s = (withoutNul text).map Text.lowerLetter

theorem orderOf_null (value : Value) : orderOf? .null value = none := by
  cases value <;> rfl

theorem aligned_equal (cell value : Value) : aligned .equal cell value =
    match readBeside value cell with
    | some n => .ok (n, value)
    | none => .error .badValue := by
  cases cell <;> cases value <;> rfl

theorem aligned_other {c : Comparator} (other : c ≠ .equal) (cell value : Value) :
    aligned c cell value = .ok (cell, value) := by
  cases c with
  | equal => exact absurd rfl other
  | _ => rfl

theorem operand_column_ok {row : Row} {name : String} {cell : Value} :
    (Operand.column name).eval row = .ok cell ↔ cell? row name = some cell := by
  unfold Operand.eval
  split
  · rename_i found same
    rw [same]
    exact ⟨fun h => congrArg some (Except.ok.inj h), fun h => congrArg Except.ok (Option.some.inj h)⟩
  · rename_i missing
    rw [missing]
    exact ⟨nofun, nofun⟩

theorem operand_asText_ok {row : Row} {name : String} {text : Value} :
    (Operand.asText name).eval row = .ok text ↔ ∃ cell, cell? row name = some cell ∧ cellText cell = text := by
  unfold Operand.eval
  split
  · rename_i found same
    rw [same]
    simp
  · rename_i missing
    rw [missing]
    exact ⟨nofun, fun ⟨_, absurd, _⟩ => nomatch absurd⟩

theorem apply_ok {c : Comparator} (notLike : ∀ mark, c ≠ .like mark) {a b : Value} (present : b ≠ .null)
    {outcome : Option Bool} :
    c.apply a b = .ok outcome ↔
      (a = .null ∧ outcome = none) ∨
        (a ≠ .null ∧ ∃ o, orderOf? a b = some o ∧ some (c.accepts o) = outcome) := by
  by_cases missing : a = .null
  · subst missing
    simp only [Comparator.apply, ne_eq, not_true_eq_false, false_and, or_false, true_and]
    exact ⟨fun h => (Except.ok.inj h).symm, fun h => congrArg Except.ok h.symm⟩
  · have general := Comparator.apply.eq_5 c a b notLike missing present
      fun mark _ _ same _ _ => notLike mark same
    rw [general]
    cases orderOf? a b with
    | none => simp [missing]
    | some o => simp [missing]

theorem eval_compare {left right : Operand} {c : Comparator} {row : Row} {outcome : Option Bool} :
    (Expr.compare left c right).eval row = .ok outcome ↔
      ∃ a, left.eval row = .ok a ∧ ∃ b, right.eval row = .ok b ∧
        ∃ pair, aligned c a b = .ok pair ∧ c.apply pair.1 pair.2 = .ok outcome := by
  simp only [Expr.eval, bind_ok]

theorem eval_column {column : String} {c : Comparator} {value : Value} {row : Row}
    {outcome : Option Bool} :
    (Expr.compare (.column column) c (.value value)).eval row = .ok outcome ↔
      ∃ cell, cell? row column = some cell ∧
        ∃ pair, aligned c cell value = .ok pair ∧ c.apply pair.1 pair.2 = .ok outcome := by
  rw [eval_compare]
  refine (exists_congr fun cell => and_congr_left' operand_column_ok).trans ?_
  simp only [Operand.eval, Except.ok.injEq, exists_eq_left']

/-- A test of how the cells of a column compare with a value. Of a missing cell it knows nothing. -/
def TestsOrder (e : Expr) (column : String) (order : Value → Option Ordering)
    (accepts : Ordering → Bool) : Prop :=
  ∀ row outcome, e.eval row = .ok outcome ↔
    ∃ cell, cell? row column = some cell ∧
      (cell = .null ∧ outcome = none ∨
        cell ≠ .null ∧ ∃ o, order cell = some o ∧ some (accepts o) = outcome)

namespace TestsOrder

variable {e : Expr} {column : String} {order : Value → Option Ordering} {accepts : Ordering → Bool}

theorem defined (tests : TestsOrder e column order accepts) (row : Row) :
    e.Defined row ↔ ∃ cell, cell? row column = some cell ∧ (cell = .null ∨ (order cell).isSome) := by
  unfold Expr.Defined
  simp only [tests row]
  constructor
  · intro either
    rcases either with ⟨_, cell, found, ⟨missing, _⟩ | ⟨_, o, compares, _⟩⟩
    · exact ⟨cell, found, Or.inl missing⟩
    · exact ⟨cell, found, Or.inr (by rw [compares]; rfl)⟩
  · intro given
    rcases given with ⟨cell, found, compares⟩
    by_cases missing : cell = .null
    · exact ⟨none, cell, found, Or.inl ⟨missing, rfl⟩⟩
    · obtain ⟨o, compares⟩ := Option.isSome_iff_exists.mp (compares.resolve_left missing)
      exact ⟨_, cell, found, Or.inr ⟨missing, o, compares, rfl⟩⟩

theorem isTrue (tests : TestsOrder e column order accepts) (nothing : order .null = none) (row : Row) :
    e.IsTrue row ↔
      ∃ cell, cell? row column = some cell ∧ ∃ o, order cell = some o ∧ accepts o = true := by
  unfold Expr.IsTrue
  rw [tests row]
  constructor
  · intro either
    rcases either with ⟨cell, found, ⟨_, absurd⟩ | ⟨_, o, compares, accepted⟩⟩
    · cases absurd
    · exact ⟨cell, found, o, compares, Option.some.inj accepted⟩
  · intro given
    rcases given with ⟨cell, found, o, compares, accepted⟩
    have there : cell ≠ .null := by
      intro same
      rw [same, nothing] at compares
      cases compares
    exact ⟨cell, found, Or.inr ⟨there, o, compares, congrArg some accepted⟩⟩

end TestsOrder

theorem comparator_ne_equal (test : OrderTest) : test.comparator ≠ .equal := by
  cases test <;> decide

theorem comparator_ne_like (test : OrderTest) (mark : Option Char) : test.comparator ≠ .like mark := by
  cases test <;> exact Comparator.noConfusion

theorem testsOrder_ordered (column : String) (test : OrderTest) {value : Value}
    (present : value ≠ .null) :
    TestsOrder (.compare (.column column) test.comparator (.value value)) column (orderOf? · value)
      test.comparator.accepts := by
  intro row outcome
  simp only [eval_column, aligned_other (comparator_ne_equal test), Except.ok.injEq, exists_eq_left',
    apply_ok (comparator_ne_like test) present]

section Accepts

variable {cell value : Value}

theorem accepts_above :
    (∃ o, orderOf? cell value = some o ∧ Comparator.above.accepts o = true) ↔
      orderOf? cell value = some .gt := by
  simp [Comparator.accepts]

theorem accepts_below :
    (∃ o, orderOf? cell value = some o ∧ Comparator.below.accepts o = true) ↔
      orderOf? cell value = some .lt := by
  simp [Comparator.accepts]

theorem accepts_atLeast :
    (∃ o, orderOf? cell value = some o ∧ Comparator.atLeast.accepts o = true) ↔
      IsAtLeast cell value := by
  simp [Comparator.accepts, IsAtLeast]

theorem accepts_atMost :
    (∃ o, orderOf? cell value = some o ∧ Comparator.atMost.accepts o = true) ↔
      IsAtMost cell value := by
  simp [Comparator.accepts, IsAtMost]

end Accepts

theorem readBeside_null {value cell : Value} (read : readBeside value cell = some .null) :
    cell = .null := by
  unfold readBeside numberOf? at read
  split at read
  · split at read
    · cases read
    · rw [Option.map_eq_some_iff] at read
      obtain ⟨_, _, absurd⟩ := read
      cases absurd
  · split at read
    · cases read
    · rw [Option.map_eq_some_iff] at read
      obtain ⟨_, _, absurd⟩ := read
      cases absurd
  · exact Option.some.inj read

theorem readBeside_of_null (value : Value) : readBeside value .null = some .null := by
  cases value <;> rfl

def orderBeside (value cell : Value) : Option Ordering :=
  (readBeside value cell).bind fun n => orderOf? n value

theorem orderBeside_null (value : Value) : orderBeside value .null = none := by
  rw [orderBeside, readBeside_of_null, Option.bind_some, orderOf_null]

theorem orderBeside_eq {value cell : Value} {o : Ordering} :
    orderBeside value cell = some o ↔ ∃ n, readBeside value cell = some n ∧ orderOf? n value = some o :=
  Option.bind_eq_some_iff

theorem orderBeside_isSome {value cell : Value} :
    (orderBeside value cell).isSome ↔
      ∃ n, readBeside value cell = some n ∧ (orderOf? n value).isSome := by
  unfold orderBeside
  cases readBeside value cell <;> simp

theorem testsOrder_equal (column : String) {value : Value} (present : value ≠ .null) :
    TestsOrder (.compare (.column column) .equal (.value value)) column (orderBeside value)
      Comparator.equal.accepts := by
  intro row outcome
  have notLike : ∀ mark, Comparator.equal ≠ .like mark := fun mark => Comparator.noConfusion
  rw [eval_column]
  refine exists_congr fun cell => and_congr_right fun _ => ?_
  rw [aligned_equal]
  by_cases missing : cell = .null
  · subst missing
    simp only [readBeside_of_null, Except.ok.injEq, exists_eq_left', apply_ok notLike present, ne_eq,
      not_true_eq_false, false_and, or_false]
  · cases read : readBeside value cell with
    | none => simp [missing, orderBeside, read]
    | some n =>
      -- reading a text as a number never makes it NULL
      have there : n ≠ .null := fun same => missing (readBeside_null (same ▸ read))
      simp only [Except.ok.injEq, exists_eq_left', apply_ok notLike present, there, missing, false_and,
        false_or, not_false_eq_true, true_and, ne_eq, orderBeside, read, Option.bind_some]

theorem equal_defined {column : String} {value : Value} {row : Row} (present : value ≠ .null) :
    (Expr.compare (.column column) .equal (.value value)).Defined row ↔
      ∃ cell, cell? row column = some cell ∧
        (cell = .null ∨ ∃ n, readBeside value cell = some n ∧ (orderOf? n value).isSome) := by
  rw [(testsOrder_equal column present).defined row]
  simp only [orderBeside_isSome]

theorem equal_isTrue {column : String} {value : Value} {row : Row} (present : value ≠ .null) :
    (Expr.compare (.column column) .equal (.value value)).IsTrue row ↔
      ∃ cell, cell? row column = some cell ∧ IsEqual cell value := by
  rw [(testsOrder_equal column present).isTrue (orderBeside_null value) row]
  refine exists_congr fun cell => and_congr_right fun _ => ?_
  unfold IsEqual
  rw [← orderBeside_eq]
  simp [Comparator.accepts]

theorem cellText_cases (cell : Value) :
    (cell = .null ∧ cellText cell = .null) ∨ (cell ≠ .null ∧ ∃ s, cellText cell = .text s) := by
  cases cell with
  | null => exact Or.inl ⟨rfl, rfl⟩
  | _ => exact Or.inr ⟨nofun, _, rfl⟩

theorem eval_asText {column : String} {c : Comparator} {right : Operand} {row : Row}
    {outcome : Option Bool} :
    (Expr.compare (.asText column) c right).eval row = .ok outcome ↔
      ∃ cell, cell? row column = some cell ∧ ∃ b, right.eval row = .ok b ∧
        ∃ pair, aligned c (cellText cell) b = .ok pair ∧ c.apply pair.1 pair.2 = .ok outcome := by
  rw [eval_compare]
  constructor
  · intro given
    rcases given with ⟨_, left, compared⟩
    obtain ⟨cell, found, rfl⟩ := operand_asText_ok.mp left
    exact ⟨cell, found, compared⟩
  · intro given
    rcases given with ⟨cell, found, compared⟩
    exact ⟨_, operand_asText_ok.mpr ⟨cell, found, rfl⟩, compared⟩

def textOutcome (test : String → Bool) : Value → Option Bool
  | .text s => some (test s)
  | _ => none

def TestsText (e : Expr) (column : String) (test : String → Bool) : Prop :=
  ∀ row outcome, e.eval row = .ok outcome ↔
    ∃ cell, cell? row column = some cell ∧ textOutcome test (cellText cell) = outcome

theorem TestsText.defined {e : Expr} {column : String} {test : String → Bool}
    (tests : TestsText e column test) (row : Row) :
    e.Defined row ↔ ∃ cell, cell? row column = some cell := by
  unfold Expr.Defined
  simp only [tests row]
  constructor
  · intro given
    rcases given with ⟨_, cell, found, _⟩
    exact ⟨cell, found⟩
  · intro given
    rcases given with ⟨cell, found⟩
    exact ⟨_, cell, found, rfl⟩

theorem TestsText.isTrue {e : Expr} {column : String} {test : String → Bool}
    (tests : TestsText e column test) (row : Row) :
    e.IsTrue row ↔ ∃ cell, cell? row column = some cell ∧
      ∃ s, cellText cell = .text s ∧ test s = true := by
  unfold Expr.IsTrue
  rw [tests row]
  refine exists_congr fun cell => and_congr_right fun _ => ?_
  rcases cellText_cases cell with ⟨_, shown⟩ | ⟨_, s, shown⟩
  · simp [shown, textOutcome]
  · simp [shown, textOutcome]

theorem testsText_contains (column text : String) :
    TestsText (Condition.contains column (containsPattern text)).expr column
      fun s => Text.occursIn ((withoutNul text).map Text.lowerLetter) (folded s) := by
  intro row outcome
  rw [Condition.expr, eval_asText]
  refine exists_congr fun cell => and_congr_right fun _ => ?_
  simp only [Operand.eval, Except.ok.injEq, exists_eq_left',
    aligned_other (c := .like (some escapeChar)) Comparator.noConfusion]
  rcases cellText_cases cell with ⟨_, shown⟩ | ⟨_, s, shown⟩
  · rw [shown]
    simp only [Comparator.apply, textOutcome, Except.ok.injEq]
  · rw [shown]
    simp only [Comparator.apply, isLike_containsPattern, textOutcome, Except.ok.injEq]

theorem eval_lowered {inner : Operand} {row : Row} {value : Value} :
    (Operand.lowered inner).eval row = .ok value ↔
      ∃ a, inner.eval row = .ok a ∧ lowerValue a = .ok value := by
  simp only [Operand.eval, bind_ok]

theorem lowered_beside_text (cell : Value) (text : String) (outcome : Option Bool) :
    (∃ a, lowerValue (cellText cell) = .ok a ∧ ∃ pair, aligned .equal a (.text (Text.lowerEach text)) =
      .ok pair ∧ Comparator.equal.apply pair.1 pair.2 = .ok outcome) ↔
      textOutcome (fun s => decide (folded s = folded text)) (cellText cell) = outcome := by
  rcases cellText_cases cell with ⟨_, shown⟩ | ⟨_, s, shown⟩
  · rw [shown]
    simp only [lowerValue, Except.ok.injEq, exists_eq_left', aligned, Comparator.apply, textOutcome]
  · have same : (compare (Text.lowerEach s) (Text.lowerEach text) == .eq) =
        decide (folded s = folded text) := by
      rw [Bool.eq_iff_iff, decide_eq_true_iff]
      simp [Text.lowerEach, folded, String.ofList_inj]
    rw [shown]
    simp only [lowerValue, Except.ok.injEq, exists_eq_left', aligned, Comparator.apply, orderOf?,
      Comparator.accepts, same, textOutcome]

theorem testsText_sameText (column text : String) :
    TestsText (Condition.sameText column text).expr column fun s => decide (folded s = folded text) := by
  intro row outcome
  rw [Condition.expr, eval_compare]
  constructor
  · intro given
    rcases given with ⟨a, left, b, right, compared⟩
    obtain ⟨_, asText, lowered⟩ := eval_lowered.mp left
    obtain ⟨cell, found, rfl⟩ := operand_asText_ok.mp asText
    cases right
    exact ⟨cell, found, (lowered_beside_text cell text outcome).mp ⟨a, lowered, compared⟩⟩
  · intro given
    rcases given with ⟨cell, found, same⟩
    obtain ⟨a, lowered, compared⟩ := (lowered_beside_text cell text outcome).mpr same
    exact ⟨a, eval_lowered.mpr ⟨_, operand_asText_ok.mpr ⟨cell, found, rfl⟩, lowered⟩, _, rfl, compared⟩

theorem folded_ofList (chars : List Char) : folded (String.ofList chars) = chars.map Text.lowerLetter := by
  rw [folded, String.toList_ofList]

theorem occursIn_infix {part text : List Char} : Text.occursIn part text = true ↔ part <:+: text := by
  induction text with
  | nil => simp [Text.occursIn]
  | cons c rest ih =>
    rw [Text.occursIn, Bool.or_eq_true, ih, List.isPrefixOf_iff_prefix, List.infix_cons_iff]

end TableTalk.Sql
