import TableTalk.Proofs.Firsts
import TableTalk.Proofs.Sql.Outlines
import TableTalk.Summary

namespace TableTalk

open Sql Outcome

namespace Predicate

/-- The predicates of each group: one list for each number, numbers in the order of their first appearance. -/
def members (predicates : List Predicate) : List (List Predicate) :=
  (Assoc.distinct (predicates.map group)).map fun number => predicates.filter fun p => p.group = number

/-- Whether lists are the groups of predicates: numbers in the order of their first appearance, and for each of them all
predicates with that number in their order. -/
def Grouped (predicates : List Predicate) (lists : List (List Predicate)) : Prop :=
  ∃ numbers, FirstsBy id (predicates.map group) numbers ∧
    lists = numbers.map fun number => predicates.filter fun p => p.group = number

theorem grouped_members (predicates : List Predicate) : Grouped predicates (members predicates) :=
  ⟨_, .distinct (predicates.map group), rfl⟩

theorem map_groups {α : Type} (f : List Predicate → α) (predicates : List Predicate) :
    (groups predicates).map (fun group => f group.2) = (members predicates).map f := by
  rw [groups, Assoc.groupBy_eq, members, List.map_map, List.map_map]
  rfl

end Predicate

def bracketed (parts : List String) : String :=
  match parts with
  | [part] => part
  | parts => "(" ++ " OR ".intercalate parts ++ ")"

namespace Sql

def conditionText (p : Predicate) : String :=
  (Condition.ofPredicate p).text

def conditionParams (p : Predicate) : List Value :=
  (Condition.ofPredicate p).params

def conjoined (conditions : List String) : String :=
  match conditions with
  | [] => ""
  | conditions => "WHERE " ++ " AND ".intercalate conditions

theorem groupText_ofPredicates (members : List Predicate) :
    Clause.groupText (members.map Condition.ofPredicate) = bracketed (members.map conditionText) := by
  rw [Clause.groupText, List.map_map]
  rfl

theorem text_members (predicates : List Predicate) : (Clause.ofChecked predicates).text =
    conjoined ((Predicate.members predicates).map fun members => bracketed (members.map conditionText)) := by
  have conditions : (Clause.ofChecked predicates).map Clause.groupText =
      (Predicate.members predicates).map fun members => bracketed (members.map conditionText) := by
    rw [Clause.ofChecked, List.map_map, ← Predicate.map_groups]
    exact List.map_congr_left fun group _ => groupText_ofPredicates group.2
  rw [← conditions]
  cases Clause.ofChecked predicates with
  | nil => rfl
  | cons members rest => rfl

theorem params_members (predicates : List Predicate) : (Clause.ofChecked predicates).params =
    (Predicate.members predicates).flatMap fun members => members.flatMap conditionParams := by
  rw [Clause.ofChecked, Predicate.map_groups fun members => members.map Condition.ofPredicate, Clause.params,
    List.flatMap_map]
  simp only [List.flatMap_map]
  rfl

end Sql

namespace Summary

/-- The lines of a summary are those of all groups of all tables, each where it appears first; and the clause that a
lookup of a table goes by has one condition for each of these groups, made of the same predicates in the same order and
in brackets if the line is, with their values in that order. -/
theorem filterLines_applied (predicates : List (String × List Predicate)) :
    FirstsBy id (predicates.flatMap fun entry =>
      (Predicate.members entry.2).map fun members => bracketed (members.map Predicate.describe))
      (filterLines predicates) ∧
    ∀ entry ∈ predicates, Predicate.Grouped entry.2 (Predicate.members entry.2) ∧
      ∀ clause, Clause.ofPredicates entry.2 = .ok clause →
        clause.text =
          conjoined ((Predicate.members entry.2).map fun members => bracketed (members.map conditionText)) ∧
        clause.params =
          (Predicate.members entry.2).flatMap fun members => members.flatMap conditionParams := by
  constructor
  · have lines : filterLines predicates = Assoc.distinct (predicates.flatMap fun entry =>
        (Predicate.members entry.2).map fun members => bracketed (members.map Predicate.describe)) := by
      rw [filterLines]
      congr 2
      funext entry
      exact Predicate.map_groups Predicate.describeGroup entry.2
    rw [lines]
    exact .distinct _
  · intro entry _
    refine ⟨Predicate.grouped_members entry.2, fun clause accepted => ?_⟩
    obtain ⟨rfl, _⟩ := ofCandidates_iff.mp accepted
    exact ⟨text_members entry.2, params_members entry.2⟩

theorem shelf_lines_applied :
    let first := shelfPredicates "sea" "woolf" 1927
    let second := shelfPredicates "sea" "plath" 1927
    (("b", second) ∈ [("a", first), ("b", second)] ∧
      Clause.ofPredicates second = .ok (Clause.ofChecked second)) ∧
      filterLines [("a", first), ("b", second)] =
        ["(books.title contains 'sea' OR books.author = 'woolf')", "books.year >= 1927",
          "(books.title contains 'sea' OR books.author = 'plath')"] ∧
      (Clause.ofChecked second).text =
        "WHERE (CAST(title AS VARCHAR) ILIKE ? ESCAPE '\\' OR LOWER(CAST(author AS VARCHAR)) = LOWER(?)) AND " ++
          "year >= ?" := by
  intro first second
  have member : ("b", second) ∈ [("a", first), ("b", second)] := List.mem_cons_of_mem _ List.mem_cons_self
  have checked : ∀ p ∈ second, (checkPredicate p).isOk = true := by decide +kernel
  have accepted : Clause.ofPredicates second = .ok (Clause.ofChecked second) :=
    ofCandidates_iff.mpr ⟨rfl, fun p member => isOk_iff.mp (checked p member)⟩
  obtain ⟨_, applied⟩ := filterLines_applied [("a", first), ("b", second)]
  obtain ⟨_, clause⟩ := applied _ member
  refine ⟨⟨member, accepted⟩, by decide +kernel, ?_⟩
  rw [(clause _ accepted).1]
  decide +kernel

end Summary

end TableTalk
