import TableTalk.Proofs.Sql.Lexemes

namespace TableTalk.Sql

def placeholders (text : String) : Nat :=
  text.toList.count '?'

@[simp] theorem placeholders_append (front back : String) :
    placeholders (front ++ back) = placeholders front + placeholders back := by
  simp [placeholders]

theorem placeholders_name {name : String} (free : '?' ∉ name.toList) :
    placeholders (quoteIdentifier name) = 0 := by
  unfold quoteIdentifier placeholders
  rw [List.count_eq_zero]
  split
  · exact free
  · simp only [enclosed, Text.replaceEach, String.toList_ofList, List.cons_append, List.mem_cons,
      List.mem_append, List.mem_flatMap, List.not_mem_nil, or_false, not_or, not_exists, not_and]
    refine ⟨by decide, ?_, by decide⟩
    intro c member mark
    split at mark
    · revert mark
      decide
    · simp only [List.mem_singleton] at mark
      exact free (mark ▸ member)

theorem placeholders_condition (c : Condition) (free : '?' ∉ c.column.toList) :
    placeholders c.text = c.params.length := by
  have name := placeholders_name free
  cases c with
  | ordered column test value =>
    have sign : placeholders test.sign = 0 := by cases test <;> decide
    simp only [Condition.text, Condition.params, Condition.column, toString, placeholders_append, sign]
      at name ⊢
    rw [name]
    rfl
  | _ =>
    simp only [Condition.text, Condition.params, Condition.column, toString, placeholders_append]
      at name ⊢
    rw [name]
    rfl

theorem placeholders_joined {α : Type} {text : α → String} {params : α → List Value}
    (separator : String) (free : placeholders separator = 0) (items : List α)
    (all : ∀ item ∈ items, placeholders (text item) = (params item).length) :
    placeholders (separator.intercalate (items.map text)) = (items.flatMap params).length := by
  induction items with
  | nil => rfl
  | cons item rest ih =>
    have first := all item List.mem_cons_self
    have later := ih fun other member => all other (List.mem_cons_of_mem _ member)
    cases rest with
    | nil => simpa using first
    | cons next more =>
      rw [List.map_cons, List.map_cons, String.intercalate_cons_cons, placeholders_append,
        placeholders_append, first, free, List.flatMap_cons, List.length_append, ← later]
      rfl

theorem placeholders_group (members : List Condition) (free : ∀ c ∈ members, '?' ∉ c.column.toList) :
    placeholders (Clause.groupText members) = (members.flatMap Condition.params).length := by
  have all : ∀ c ∈ members, placeholders c.text = c.params.length :=
    fun c member => placeholders_condition c (free c member)
  have joined := placeholders_joined " OR " (by decide) members all
  unfold Clause.groupText
  match members, all, joined with
  | [], _, _ => rfl
  | [c], all, _ => simpa using all c List.mem_cons_self
  | _ :: _ :: _, _, joined =>
    simp only [List.map_cons, placeholders_append] at joined ⊢
    rw [joined]
    simp [placeholders]

theorem placeholders_clause (clause : Clause)
    (free : ∀ members ∈ clause, ∀ c ∈ members, '?' ∉ c.column.toList) :
    placeholders clause.text = clause.params.length := by
  have joined := placeholders_joined " AND " (by decide) clause fun members member =>
    placeholders_group members (free members member)
  by_cases stated : clause = []
  · subst stated
    rfl
  · rw [Clause.text_stated stated, placeholders_append, joined]
    simp [Clause.params, placeholders]

end TableTalk.Sql
