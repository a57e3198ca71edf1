import TableTalk.Proofs.Filter.Grouping
import TableTalk.Proofs.Text.Words

namespace TableTalk.Filter

def Condition.onTable (k : Condition) (table : String) (group : Int) (text : String) : Predicate :=
  ⟨table, k.column, k.operator, k.value, k.value2, group, text⟩

theorem questionWords_lowered (question : String) :
    (questionWords question).map Text.lower = questionWords question := by
  rw [questionWords, List.map_map]
  exact List.map_congr_left fun token member => Token.lower_text member

section Entities

variable {table : String} {t : Taxonomy} {words : List String} {homes : List (String × String)} {e : Entity}

theorem mem_members_iff {count : Nat} {p : Predicate} (lowered : words.map Text.lower = words) :
    p ∈ (membersOf table t words homes e).map (Predicate.moved count) ↔
      e.isFilter = true ∧ ∃ k, Licensed t words (homeOf homes e) e k ∧ p = k.onTable table count e.text := by
  rw [members_moved]
  by_cases filters : e.isFilter = true
  · rw [if_pos filters, mem_groupOf]
    simp only [mem_conditions_iff, lowered, filters, true_and]
    rfl
  · rw [if_neg filters]
    exact iff_of_false List.not_mem_nil fun here => filters here.1

end Entities

/-- The predicates of a table are the conditions that its taxonomy licenses for the entities that filter, each with the
number of the groups in front of its entity. -/
theorem compile_licensed (table : String) (t : Taxonomy) (entities : List Entity) (question : String)
    (homes : List (String × String)) (p : Predicate) :
    p ∈ compile table t entities question homes ↔ ∃ before e after k, entities = before ++ e :: after ∧
      e.isFilter = true ∧ Licensed t (questionWords question) (homeOf homes e) e k ∧
      p = k.onTable table (Predicate.groupCount (compile table t before question homes)) e.text := by
  have lowered := questionWords_lowered question
  have count (before : List Entity) : Predicate.groupCount (compile table t before question homes) =
      (before.filter (contributes table t (questionWords question) homes)).length := groupCount_compileFrom 0 before
  simp only [count]
  refine (@mem_compileFrom_iff table t (questionWords question) homes 0 entities p).trans ⟨?_, ?_⟩
  · rintro ⟨before, e, after, split, member⟩
    rw [Nat.zero_add] at member
    obtain ⟨filters, k, licensed, same⟩ := (mem_members_iff lowered).mp member
    exact ⟨before, e, after, k, split, filters, licensed, same⟩
  · rintro ⟨before, e, after, k, split, filters, licensed, same⟩
    refine ⟨before, e, after, split, ?_⟩
    rw [Nat.zero_add]
    exact (mem_members_iff lowered).mpr ⟨filters, k, licensed, same⟩

/-- A home table without a name is declared and referred to by the owner of a task, but no record is asked for. -/
theorem nameless_home_unmatched :
    let tasks : Taxonomy :=
      { table := "tasks", userFields := ["owner"], relationships := [("", ⟨"owner", "id"⟩)] }
    let sam : Entity :=
      { text := "sam", kind := .domainValue, span := ⟨0, 3⟩, confidence := 0.95, canonical := .text "Sam",
        category := some "user", recordId := .int 1 }
    let homes := [("user", "")]
    homeOf homes sam = some "" ∧ tasks.Refers "owner" "" ∧
      (compile "tasks" tasks [sam] "sam" homes).map (fun p => (p.column, p.operator)) = [("owner", .contains)] := by
  refine ⟨rfl, Taxonomy.references_iff.mp (by decide), by decide +kernel⟩

end TableTalk.Filter
