import Mathlib.Logic.Basic
import TableTalk.Proofs.Sql.Satisfaction

namespace TableTalk.Predicate

def limits (p : Predicate) : List Value :=
  if p.operator = .range then [p.value, p.value2]
  else if p.operator.isOrdering then [p.value]
  else []

end TableTalk.Predicate

namespace TableTalk.Sql

namespace Lexeme

def isOrder : Lexeme → Bool
  | .sign chars => ["<", ">", "<=", ">="].any fun sign => sign.toList == chars
  | _ => false

/-- Whether a lexeme neither puts its neighbour in order nor is a value that could be put in order by it. -/
def isApart : Lexeme → Bool
  | .value _ => false
  | lexeme => !lexeme.isOrder

def orderedBy : Lexeme → Lexeme → Option Value
  | .value v, other | other, .value v => if other.isOrder then some v else none
  | _, _ => none

/-- The values that have a sign of order next to them, on either side. -/
def ordered : List Lexeme → List Value
  | lexeme :: next :: rest => (orderedBy lexeme next).toList ++ ordered (next :: rest)
  | _ => []

theorem orderedBy_apart {lexeme : Lexeme} (apart : lexeme.isApart = true) (next : Lexeme) :
    orderedBy lexeme next = none ∧ orderedBy next lexeme = none := by
  cases lexeme <;> cases next <;> simp_all [isApart, orderedBy]

theorem ordered_apart_cons {lexeme : Lexeme} (apart : lexeme.isApart = true) (rest : List Lexeme) :
    ordered (lexeme :: rest) = ordered rest := by
  cases rest with
  | nil => rfl
  | cons next rest => rw [ordered, (orderedBy_apart apart next).1, Option.toList_none, List.nil_append]

theorem ordered_append {lexeme : Lexeme} (apart : lexeme.isApart = true) (front back : List Lexeme) :
    ordered (front ++ lexeme :: back) = ordered front ++ ordered back := by
  induction front with
  | nil => exact ordered_apart_cons apart back
  | cons first rest ih =>
    cases rest with
    | nil =>
      rw [List.singleton_append, ordered, (orderedBy_apart apart first).2, ordered_apart_cons apart]
      rfl
    | cons next rest =>
      rw [List.cons_append, List.cons_append, ordered, ← List.cons_append, ih, ordered, List.append_assoc]

theorem isApart_name (name : String) : (nameLexeme name).isApart = true := by
  unfold nameLexeme
  split <;> rfl

theorem orderedBy_sign (test : OrderTest) (v : Value) : orderedBy test.lexeme (.value v) = some v := by
  cases test <;> rfl

end Lexeme

def Condition.limits : Condition → List Value
  | .ordered _ _ value => [value]
  | .within _ low high => [low, high]
  | .contains _ _ | .sameText _ _ | .same _ _ => []

theorem limits_ofPredicate (p : Predicate) : (Condition.ofPredicate p).limits = p.limits := by
  unfold Condition.ofPredicate Predicate.limits
  cases p.operator <;> first | rfl | (cases p.value <;> rfl)

namespace Lexeme

theorem ordered_cast (column : String) (rest : List Lexeme) :
    ordered (castLexemes column ++ rest) = ordered rest := by
  have name (rest : List Lexeme) := ordered_apart_cons (isApart_name column) rest
  simp only [castLexemes, List.cons_append, List.nil_append]
  rw [ordered_apart_cons rfl, ordered_apart_cons rfl, name, ordered_apart_cons rfl, ordered_apart_cons rfl,
    ordered_apart_cons rfl]

theorem ordered_condition (c : Condition) : ordered (c.lexemes .value) = c.limits := by
  cases c with
  | contains column pattern => exact ordered_cast column _
  | sameText column text =>
    simp only [Condition.lexemes, List.cons_append]
    rw [ordered_apart_cons rfl, ordered_apart_cons rfl]
    exact ordered_cast column _
  | same column value => exact ordered_apart_cons (isApart_name column) _
  | ordered column test value =>
    rw [Condition.lexemes, ordered_apart_cons (isApart_name column), ordered, orderedBy_sign]
    rfl
  | within column low high =>
    have name (rest : List Lexeme) := ordered_apart_cons (isApart_name column) rest
    -- the two comparisons stand on either side of the word between them
    have halves : ordered ([OrderTest.atLeast.lexeme, .value low] ++ .word "AND".toList ::
        [nameLexeme column, OrderTest.below.lexeme, .value high, .sign [')']]) = _ := ordered_append rfl _ _
    rw [Condition.lexemes, ordered_apart_cons rfl, name]
    exact halves.trans (congrArg _ (name _))

theorem ordered_joined {α : Type} {lexemes : α → List Lexeme} {limits : α → List Value} (word : List Char)
    (items : List α) (all : ∀ item ∈ items, ordered (lexemes item) = limits item) :
    ordered ([Lexeme.word word].intercalate (items.map lexemes)) = items.flatMap limits := by
  induction items with
  | nil => rfl
  | cons item rest ih =>
    have first := all item List.mem_cons_self
    have later := ih fun other member => all other (List.mem_cons_of_mem _ member)
    cases rest with
    | nil => simpa using first
    | cons next more =>
      simp only [List.map_cons, List.intercalate_cons_cons, List.append_assoc, List.singleton_append,
        List.flatMap_cons] at later ⊢
      rw [ordered_append rfl, first, later]

theorem ordered_group (members : List Condition) :
    ordered (Clause.groupLexemes .value members) = members.flatMap Condition.limits := by
  have joined := ordered_joined "OR".toList members fun c _ => ordered_condition c
  unfold Clause.groupLexemes
  match members, joined with
  | [], joined =>
    exact joined
  | [c], _ => simpa using ordered_condition c
  | _ :: _ :: _, joined =>
    rw [← joined]
    simp only [List.map_cons]
    rw [List.cons_append, ordered_apart_cons rfl, ordered_append rfl]
    exact List.append_nil _

theorem ordered_clause (clause : Clause) :
    ordered (clause.lexemes .value) = clause.flatMap fun members => members.flatMap Condition.limits :=
  ordered_joined "AND".toList clause fun members _ => ordered_group members

def ofClause (clause : Clause) : Option (List Lexeme) :=
  (scan clause.text.toList).bind (bind · clause.params)

theorem ofClause_ordered {clause : Clause} (single : ∀ members ∈ clause, ∀ c ∈ members, c.column ≠ "*") :
    ∃ lexemes, ofClause clause = some lexemes ∧
      ordered lexemes = clause.flatMap fun members => members.flatMap Condition.limits := by
  by_cases stated : clause = []
  · subst stated
    exact ⟨[], by simp [ofClause, Clause.text, Clause.params, scan, bind], rfl⟩
  · refine ⟨.word "WHERE".toList :: clause.lexemes .value, ?_, ?_⟩
    · rw [ofClause, scan_clause stated single]
      exact bind_clause clause
    · rw [ordered_apart_cons rfl, ordered_clause]

end Lexeme

theorem mem_limits_ofChecked {predicates : List Predicate} {v : Value} :
    (v ∈ (Clause.ofChecked predicates).flatMap fun members => members.flatMap Condition.limits) ↔
      ∃ p ∈ predicates, v ∈ p.limits := by
  have absent : (∀ members ∈ Clause.ofChecked predicates, ∀ c ∈ members, v ∉ c.limits) ↔ _ := forall_ofChecked
  rw [← not_iff_not]
  simpa [limits_ofPredicate] using absent

theorem limits_of_checked {p : Predicate} (checked : checkPredicate p = .ok ()) :
    (∀ v ∈ p.limits, isText v = false) ↔
      (p.operator = .range → isText p.value = false ∧ isText p.value2 = false) := by
  obtain ⟨_, _, _, _, ordering⟩ := checkPredicate_iff.mp checked
  unfold Predicate.limits
  by_cases range : p.operator = .range
  · simp [range]
  · by_cases orders : p.operator.isOrdering = true
    · simp [range, orders, ordering orders]
    · simp [range, orders]

/-- The text of the clause of accepted predicates and its parameters, read back, put in order the values of the ordering
predicates and the bounds of the ranges. None of them is a text exactly if no range has a text as one of its bounds. -/
theorem ordered_values {predicates : List Predicate} {clause : Clause}
    (accepted : Clause.ofPredicates predicates = .ok clause) :
    ∃ lexemes, Lexeme.ofClause clause = some lexemes ∧
      (∀ v, v ∈ Lexeme.ordered lexemes ↔ ∃ p ∈ predicates, v ∈ p.limits) ∧
        ((∀ v ∈ Lexeme.ordered lexemes, isText v = false) ↔ ∀ p ∈ predicates, p.operator = .range →
          isText p.value = false ∧ isText p.value2 = false) := by
  obtain ⟨rfl, checked⟩ := ofCandidates_iff.mp accepted
  have single := columns_ofChecked (P := (· ≠ "*")) fun p member =>
    single_of_accepted (checkPredicate_ok (checked p member)).named
  obtain ⟨lexemes, read, limits⟩ := Lexeme.ofClause_ordered single
  have members (v : Value) : v ∈ Lexeme.ordered lexemes ↔ ∃ p ∈ predicates, v ∈ p.limits := by
    rw [limits, mem_limits_ofChecked]
  refine ⟨lexemes, read, members, ?_⟩
  rw [← forall₂_congr fun p member => limits_of_checked (checked p member)]
  simp only [members]
  exact ⟨fun all p member v limit => all v ⟨p, member, limit⟩,
    fun all v ⟨p, member, limit⟩ => all p member v limit⟩

theorem ordered_values_shelf :
    let predicates : List Predicate :=
      [⟨"products", "price", .range, .int 5, .int 9, 0, ""⟩,
        ⟨"products", "name", .contains, .text "pen", .null, 1, ""⟩,
        ⟨"products", "stock", .gte, .int 1, .null, 1, ""⟩]
    let clause := Clause.ofChecked predicates
    Clause.ofPredicates predicates = .ok clause ∧
      ∃ lexemes, Lexeme.ofClause clause = some lexemes ∧
        (∀ v, v ∈ Lexeme.ordered lexemes ↔ ∃ p ∈ predicates, v ∈ p.limits) ∧
          ((∀ v ∈ Lexeme.ordered lexemes, isText v = false) ↔ ∀ p ∈ predicates, p.operator = .range →
            isText p.value = false ∧ isText p.value2 = false) := by
  intro predicates clause
  have accepted : Clause.ofPredicates predicates = .ok clause := rfl
  exact ⟨accepted, ordered_values accepted⟩

/-- The bounds of a range may be texts, which are put in order with the column then. -/
theorem text_range_ordered :
    ∃ clause lexemes,
      Clause.ofPredicates [⟨"people", "name", .range, .text "a", .text "b", 0, ""⟩] = .ok clause ∧
      Lexeme.ofClause clause = some lexemes ∧ clause.text = "WHERE (name >= ? AND name < ?)" ∧
      Lexeme.ordered lexemes = [.text "a", .text "b"] := by
  have single : ∀ members ∈ [[Condition.within "name" (.text "a") (.text "b")]],
      ∀ c ∈ members, c.column ≠ "*" := by
    simp [Condition.column]
  obtain ⟨lexemes, read, limits⟩ := Lexeme.ofClause_ordered single
  exact ⟨_, lexemes, rfl, read, by decide, limits⟩

end TableTalk.Sql
