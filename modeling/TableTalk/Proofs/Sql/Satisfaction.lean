import TableTalk.Proofs.Assoc
import TableTalk.Proofs.Sql.Comparing
import TableTalk.Proofs.Sql.Placeholders

namespace TableTalk.Predicate

open Sql

def HoldsOf (p : Predicate) (cell : Value) : Prop :=
  match p.operator with
  | .contains => ContainsText cell p.value.shown
  | .equals => match p.value with
    | .text text => IsSameText cell text
    | value => IsEqual cell value
  | .range => IsAtLeast cell p.value ∧ orderOf? cell p.value2 = some .lt
  | .gt => orderOf? cell p.value = some .gt
  | .lt => orderOf? cell p.value = some .lt
  | .gte => IsAtLeast cell p.value
  | .lte => IsAtMost cell p.value
  | .unsupported _ => False

/-- Whether a predicate can be asked of a cell: nothing is there, or the cell compares with the values. -/
def AppliesTo (p : Predicate) (cell : Value) : Prop :=
  cell = .null ∨ match p.operator with
    | .contains => True
    | .equals => match p.value with
      | .text _ => True
      | value => ∃ n, readBeside value cell = some n ∧ (orderOf? n value).isSome
    | .range => (orderOf? cell p.value).isSome ∧ (orderOf? cell p.value2).isSome
    | _ => (orderOf? cell p.value).isSome

def HoldsOn (p : Predicate) (row : Row) : Prop :=
  ∃ cell, cell? row p.column = some cell ∧ p.HoldsOf cell

def AsksOf (p : Predicate) (row : Row) : Prop :=
  ∃ cell, cell? row p.column = some cell ∧ p.AppliesTo cell

def decidableFound {α : Type} (found : Option α) (P : α → Prop) [DecidablePred P] :
    Decidable (∃ a, found = some a ∧ P a) :=
  match found with
  | none => isFalse (by simp)
  | some a => decidable_of_iff (P a) (by simp)

def decidableText (shown : Value) (P : String → Prop) [DecidablePred P] : Decidable (∃ s, shown = .text s ∧ P s) :=
  match shown with
  | .text s => decidable_of_iff (P s) (by simp)
  | .null | .bool _ | .int _ | .float _ | .date _ | .moment _ | .list _ | .mapping _ | .named _ _ => isFalse nofun

instance (cell value : Value) : Decidable (IsAtLeast cell value) :=
  decidableFound _ _

instance (cell value : Value) : Decidable (IsAtMost cell value) :=
  decidableFound _ _

instance (cell value : Value) : Decidable (IsEqual cell value) :=
  decidableFound _ _

instance (cell : Value) (text : String) : Decidable (ContainsText cell text) :=
  have : DecidablePred fun s => (Sql.withoutNul text).map Text.lowerLetter <:+: folded s :=
    fun _ => decidable_of_iff _ occursIn_infix
  decidableText _ _

instance (cell : Value) (text : String) : Decidable (IsSameText cell text) :=
  decidableText _ _

instance (p : Predicate) (cell : Value) : Decidable (p.HoldsOf cell) := by
  unfold HoldsOf
  split
  · infer_instance
  · split <;> infer_instance
  all_goals infer_instance

instance (p : Predicate) (row : Row) : Decidable (p.HoldsOn row) :=
  decidableFound _ _

/-- Whether predicates are satisfied by a row: every group that occurs has a member that holds of it. -/
def Satisfied (predicates : List Predicate) (row : Row) : Prop :=
  ∀ g ∈ predicates.map group, ∃ p ∈ predicates, p.group = g ∧ p.HoldsOn row

instance (predicates : List Predicate) (row : Row) : Decidable (Satisfied predicates row) :=
  inferInstanceAs (Decidable (∀ g ∈ predicates.map group, _))

end TableTalk.Predicate

namespace TableTalk.Sql

open Outcome

structure WellFormed (p : Predicate) : Prop where
  named : checkName "column" p.column = .ok ()
  supported : ∀ name, p.operator ≠ .unsupported name
  present : p.value ≠ .null
  bounded : p.operator = .range → p.value2 ≠ .null

def Usable (value : Value) : Prop :=
  value ≠ .null ∧ ∀ s, value = .text s → s.length ≤ maxValueLength

theorem checkValue_iff {context : String} {value : Value} : checkValue context value = .ok () ↔ Usable value := by
  unfold checkValue Usable
  split
  · simp
  · rename_i s
    by_cases long : maxValueLength < s.length
    · simp [long]
    · simp [long, Nat.le_of_not_lt long]
  · rename_i notNull notText
    exact ⟨fun _ => ⟨notNull, fun s same => absurd same (notText s)⟩, fun _ => rfl⟩

theorem checkPredicate_iff {p : Predicate} : checkPredicate p = .ok () ↔
    checkName "column" p.column = .ok () ∧ (∀ name, p.operator ≠ .unsupported name) ∧ Usable p.value ∧
      (p.operator = .range → Usable p.value2) ∧ (p.operator.isOrdering = true → isText p.value = false) := by
  unfold checkPredicate
  rw [check_ok]
  refine and_congr_right fun _ => ?_
  cases operator : p.operator with
  | unsupported name => simp [throw, throwThe, MonadExceptOf.throw, bind, Except.bind]
  | range =>
    dsimp only
    rw [check_ok, if_pos rfl, check_ok, refuse_iff, checkValue_iff, checkValue_iff]
    simp [Operator.isOrdering]
  | _ =>
    dsimp only
    rw [check_ok, if_neg nofun, refuse_iff, checkValue_iff]
    simp [Operator.isOrdering]

theorem checkPredicate_ok {p : Predicate} (accepted : checkPredicate p = .ok ()) : WellFormed p := by
  obtain ⟨named, supported, present, bounded, _⟩ := checkPredicate_iff.mp accepted
  exact ⟨named, supported, present.1, fun range => (bounded range).1⟩

section Meaning

variable {p : Predicate} {row : Row}

theorem defined_ofPredicate (wellFormed : WellFormed p) :
    (Condition.ofPredicate p).expr.Defined row ↔ p.AsksOf row := by
  obtain ⟨_, supported, present, bounded⟩ := wellFormed
  unfold Predicate.AsksOf Predicate.AppliesTo Condition.ofPredicate
  cases operator : p.operator with
  | contains => simp only [(testsText_contains _ _).defined, or_true, and_true]
  | equals =>
    cases value : p.value with
    | text text => simp only [(testsText_sameText _ _).defined, or_true, and_true]
    | null => exact absurd value present
    | _ =>
      rw [value] at present
      exact equal_defined present
  | range =>
    rw [Condition.expr, Expr.defined_and]
    have first := (testsOrder_ordered p.column .atLeast present).defined row
    have second := (testsOrder_ordered p.column .below (bounded operator)).defined row
    refine (and_congr first second).trans ?_
    constructor
    · intro given
      rcases given with ⟨⟨cell, found, low⟩, ⟨same, also, high⟩⟩
      -- both bounds are asked of the same cell
      rw [found] at also
      cases also
      refine ⟨cell, found, ?_⟩
      rcases low with missing | low
      · exact Or.inl missing
      · exact high.imp_right fun high => ⟨low, high⟩
    · intro either
      rcases either with ⟨cell, found, missing | ⟨low, high⟩⟩
      · exact ⟨⟨cell, found, Or.inl missing⟩, ⟨cell, found, Or.inl missing⟩⟩
      · exact ⟨⟨cell, found, Or.inr low⟩, ⟨cell, found, Or.inr high⟩⟩
  | unsupported name => exact absurd operator (supported name)
  | _ => exact (testsOrder_ordered p.column _ present).defined row

theorem isTrue_ofPredicate (wellFormed : WellFormed p) :
    (Condition.ofPredicate p).expr.IsTrue row ↔ p.HoldsOn row := by
  obtain ⟨_, supported, present, bounded⟩ := wellFormed
  unfold Predicate.HoldsOn Predicate.HoldsOf Condition.ofPredicate
  have ordered (test : OrderTest) :=
    (testsOrder_ordered p.column test present).isTrue (orderOf_null p.value) row
  cases operator : p.operator with
  | contains => simp only [(testsText_contains _ _).isTrue, ContainsText, occursIn_infix]
  | equals =>
    cases value : p.value with
    | text text =>
      simp only [(testsText_sameText _ _).isTrue, IsSameText, folded_ofList, decide_eq_true_eq]
    | null => exact absurd value present
    | _ =>
      rw [value] at present
      exact equal_isTrue present
  | range =>
    rw [Condition.expr, Expr.isTrue_and]
    have first := ordered .atLeast
    have second := (testsOrder_ordered p.column .below (bounded operator)).isTrue (orderOf_null _) row
    refine (and_congr first second).trans ?_
    constructor
    · intro given
      rcases given with ⟨⟨cell, found, low⟩, ⟨same, also, high⟩⟩
      rw [found] at also
      cases also
      exact ⟨cell, found, accepts_atLeast.mp low, accepts_below.mp high⟩
    · intro given
      rcases given with ⟨cell, found, low, high⟩
      exact ⟨⟨cell, found, accepts_atLeast.mpr low⟩, ⟨cell, found, accepts_below.mpr high⟩⟩
  | unsupported name => exact absurd operator (supported name)
  | gt =>
    exact (ordered .above).trans (exists_congr fun cell => and_congr_right' accepts_above)
  | lt =>
    exact (ordered .below).trans (exists_congr fun cell => and_congr_right' accepts_below)
  | gte =>
    exact (ordered .atLeast).trans (exists_congr fun cell => and_congr_right' accepts_atLeast)
  | lte =>
    exact (ordered .atMost).trans (exists_congr fun cell => and_congr_right' accepts_atMost)

end Meaning

theorem checked_iff {predicates checked : List Predicate} :
    (predicates.map Candidate.predicate).mapM Candidate.checked = .ok checked ↔
      predicates = checked ∧ ∀ p ∈ predicates, checkPredicate p = .ok () := by
  induction predicates generalizing checked with
  | nil => simp [pure_ok]
  | cons p rest ih =>
    have one (q : Predicate) : Candidate.checked (.predicate p) = .ok q ↔ checkPredicate p = .ok () ∧ p = q := by
      rw [Candidate.checked, bind_ok]
      exact ⟨fun ⟨_, fits, same⟩ => ⟨fits, pure_ok.mp same⟩, fun ⟨fits, same⟩ => ⟨(), fits, pure_ok.mpr same⟩⟩
    rw [List.map_cons, List.mapM_cons, bind_ok]
    simp only [one, bind_ok, ih, pure_ok, List.forall_mem_cons]
    constructor
    · rintro ⟨_, ⟨fits, rfl⟩, _, ⟨rfl, all⟩, rfl⟩
      exact ⟨rfl, fits, all⟩
    · rintro ⟨rfl, fits, all⟩
      exact ⟨p, ⟨fits, rfl⟩, rest, ⟨rfl, all⟩, rfl⟩

theorem ofCandidates_iff {predicates : List Predicate} {clause : Clause} :
    Clause.ofCandidates (predicates.map .predicate) = .ok clause ↔
      Clause.ofChecked predicates = clause ∧ ∀ p ∈ predicates, checkPredicate p = .ok () := by
  rw [Clause.ofCandidates, bind_ok]
  simp only [checked_iff, pure_ok]
  constructor
  · rintro ⟨_, ⟨rfl, all⟩, same⟩
    exact ⟨same, all⟩
  · rintro ⟨same, all⟩
    exact ⟨predicates, ⟨rfl, all⟩, same⟩

theorem mem_ofChecked {predicates : List Predicate} {members : List Condition} :
    members ∈ Clause.ofChecked predicates ↔ ∃ g ∈ predicates.map Predicate.group,
      members = (predicates.filter fun p => p.group = g).map Condition.ofPredicate := by
  unfold Clause.ofChecked Predicate.groups
  rw [List.mem_map]
  constructor
  · intro given
    rcases given with ⟨group, member, rfl⟩
    obtain ⟨occurs, same⟩ := Assoc.mem_groupBy.mp member
    exact ⟨group.1, occurs, by rw [same]⟩
  · intro given
    rcases given with ⟨g, occurs, rfl⟩
    exact ⟨(g, _), Assoc.mem_groupBy.mpr ⟨occurs, rfl⟩, rfl⟩

theorem group_mem_ofChecked {p : Predicate} {predicates : List Predicate} (member : p ∈ predicates) :
    (predicates.filter fun q => q.group = p.group).map Condition.ofPredicate ∈
      Clause.ofChecked predicates :=
  mem_ofChecked.mpr ⟨p.group, List.mem_map_of_mem member, rfl⟩

theorem forall_ofChecked {P : Condition → Prop} {predicates : List Predicate} :
    (∀ members ∈ Clause.ofChecked predicates, ∀ c ∈ members, P c) ↔
      ∀ p ∈ predicates, P (Condition.ofPredicate p) := by
  constructor
  · intro all p member
    exact all _ (group_mem_ofChecked member) _ (List.mem_map_of_mem (by simp [member]))
  · intro all members member c inside
    obtain ⟨g, _, rfl⟩ := mem_ofChecked.mp member
    obtain ⟨p, kept, rfl⟩ := List.mem_map.mp inside
    exact all p (List.mem_filter.mp kept).1

theorem column_ofPredicate (p : Predicate) : (Condition.ofPredicate p).column = p.column := by
  unfold Condition.ofPredicate
  cases p.operator <;> first | rfl | (cases p.value <;> rfl)

theorem checkName_ok {context name : String} (accepted : checkName context name = .ok ()) :
    name.isEmpty = false ∧ name.toList.all isAllowedChar = true := by
  unfold checkName at accepted
  split at accepted
  · cases accepted
  · rename_i notBlank
    split at accepted
    · rename_i allowed
      refine ⟨?_, allowed⟩
      rw [Bool.eq_false_iff]
      intro empty
      rw [String.isEmpty_iff] at empty
      rw [empty] at notBlank
      exact notBlank rfl
    · cases accepted

theorem single_of_accepted {context name : String} (accepted : checkName context name = .ok ()) : name ≠ "*" := by
  intro same
  subst same
  exact absurd (checkName_ok accepted).2 (by decide)

theorem isReadable_of_accepted {context name : String} (accepted : checkName context name = .ok ())
    (quoted : isKeywordName name = false) : isReadable name = true := by
  simp [isReadable, (checkName_ok accepted).1, single_of_accepted accepted, quoted]

theorem free_of_accepted {context name : String} (accepted : checkName context name = .ok ()) :
    '?' ∉ name.toList := by
  intro member
  have allowed := List.all_eq_true.mp (checkName_ok accepted).2 _ member
  exact absurd allowed (by decide)

theorem columns_ofChecked {P : String → Prop} {predicates : List Predicate}
    (all : ∀ p ∈ predicates, P p.column) :
    ∀ members ∈ Clause.ofChecked predicates, ∀ c ∈ members, P c.column := by
  refine forall_ofChecked.mpr fun p member => ?_
  rw [column_ofPredicate]
  exact all p member

theorem ofChecked_ne_nil {predicates : List Predicate} (stated : predicates ≠ []) :
    Clause.ofChecked predicates ≠ [] := by
  obtain ⟨p, rest, rfl⟩ := List.exists_cons_of_ne_nil stated
  exact List.ne_nil_of_mem (group_mem_ofChecked List.mem_cons_self)

theorem members_ne_nil {predicates : List Predicate} :
    ∀ members ∈ Clause.ofChecked predicates, members ≠ [] := by
  intro members member
  obtain ⟨g, occurs, rfl⟩ := mem_ofChecked.mp member
  obtain ⟨p, inside, rfl⟩ := List.mem_map.mp occurs
  have kept : p ∈ predicates.filter fun q => q.group = p.group := by simp [inside]
  exact List.ne_nil_of_mem (List.mem_map_of_mem kept)

section Meaning

variable {predicates : List Predicate} {row : Row}

theorem defined_ofChecked (wellFormed : ∀ p ∈ predicates, WellFormed p) :
    (∀ members ∈ Clause.ofChecked predicates, ∀ c ∈ members, c.expr.Defined row) ↔
      ∀ p ∈ predicates, p.AsksOf row :=
  forall_ofChecked.trans (forall₂_congr fun p member => defined_ofPredicate (wellFormed p member))

theorem isTrue_ofChecked (wellFormed : ∀ p ∈ predicates, WellFormed p) :
    (∀ members ∈ Clause.ofChecked predicates, ∃ c ∈ members, c.expr.IsTrue row) ↔
      ∀ g ∈ predicates.map Predicate.group, ∃ p ∈ predicates, p.group = g ∧ p.HoldsOn row := by
  constructor
  · intro holds g occurs
    obtain ⟨c, inside, isTrue⟩ := holds _ (mem_ofChecked.mpr ⟨g, occurs, rfl⟩)
    obtain ⟨p, kept, rfl⟩ := List.mem_map.mp inside
    obtain ⟨original, same⟩ := List.mem_filter.mp kept
    exact ⟨p, original, by simpa using same, (isTrue_ofPredicate (wellFormed p original)).mp isTrue⟩
  · intro holds members member
    obtain ⟨g, occurs, rfl⟩ := mem_ofChecked.mp member
    obtain ⟨p, original, same, isTrue⟩ := holds g occurs
    refine ⟨Condition.ofPredicate p, List.mem_map_of_mem (by simp [original, same]), ?_⟩
    exact (isTrue_ofPredicate (wellFormed p original)).mpr isTrue

end Meaning

end TableTalk.Sql
