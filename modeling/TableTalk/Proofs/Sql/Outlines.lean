import TableTalk.Proofs.Store.Lookups

namespace TableTalk

/-- What of a predicate gets into the text of a statement. -/
structure Predicate.Outline where
  column : String
  operator : Operator
  group : Int
  ofText : Bool
deriving DecidableEq

namespace Predicate

open Sql

def outline (p : Predicate) : Outline :=
  ⟨p.column, p.operator, p.group, decide (p.operator = .equals) && isText p.value⟩

namespace Outline

def filled (o : Outline) : Predicate :=
  { table := "", column := o.column, operator := o.operator, value := if o.ofText then .text "" else .null
    group := o.group }

def text (o : Outline) : String :=
  (Condition.ofPredicate o.filled).text

end Outline

end Predicate

namespace Sql

open Outcome Predicate

theorem text_ofPredicate {p : Predicate} (supported : ∀ name, p.operator ≠ .unsupported name) :
    (Condition.ofPredicate p).text = p.outline.text := by
  unfold Outline.text Outline.filled outline Condition.ofPredicate
  cases operator : p.operator with
  | unsupported name => exact absurd operator (supported name)
  | equals => cases p.value <;> simp [isText, Condition.text]
  | _ => simp [Condition.text]

def Clause.texts (clause : Clause) : List (List String) :=
  clause.map fun members => members.map Condition.text

theorem Clause.groupText_congr {members others : List Condition}
    (same : members.map Condition.text = others.map Condition.text) : groupText members = groupText others := by
  unfold groupText
  rw [same]

theorem Clause.groupTexts_congr :
    ∀ {clause other : Clause}, clause.texts = other.texts → clause.map groupText = other.map groupText
  | [], [], _ => rfl
  | members :: clause, others :: other, same => by
    obtain ⟨first, rest⟩ := List.cons.inj same
    rw [List.map_cons, List.map_cons, groupText_congr first, groupTexts_congr rest]

theorem Clause.text_congr {clause other : Clause} (same : clause.texts = other.texts) : clause.text = other.text := by
  by_cases stated : clause = []
  · subst stated
    rw [List.map_eq_nil_iff.mp same.symm]
  · have stated' : other ≠ [] := by
      rintro rfl
      exact stated (List.map_eq_nil_iff.mp same)
    rw [text_stated stated, text_stated stated', groupTexts_congr same]

theorem texts_ofChecked {predicates : List Predicate}
    (supported : ∀ p ∈ predicates, ∀ name, p.operator ≠ .unsupported name) :
    (Clause.ofChecked predicates).texts =
      (Assoc.groupBy Outline.group (predicates.map outline)).map fun group => group.2.map Outline.text := by
  have groups := Assoc.groupBy_map outline Outline.group predicates
  change _ = (Predicate.groups predicates).map _ at groups
  rw [groups, List.map_map, Clause.texts, Clause.ofChecked, List.map_map]
  refine List.map_congr_left fun group member => ?_
  obtain ⟨_, members⟩ := Assoc.mem_groupBy.mp member
  simp only [Function.comp_apply, List.map_map]
  refine List.map_congr_left fun p inside => text_ofPredicate (supported p ?_)
  rw [members] at inside
  exact (List.mem_filter.mp inside).1

section Statements

variable {predicates others : List Predicate} (same : predicates.map outline = others.map outline)
  (accepted : ∀ p ∈ predicates, checkPredicate p = .ok ()) (accepted' : ∀ p ∈ others, checkPredicate p = .ok ())

include same accepted accepted'

theorem text_ofChecked : (Clause.ofChecked predicates).text = (Clause.ofChecked others).text := by
  apply Clause.text_congr
  rw [texts_ofChecked fun p member => (checkPredicate_ok (accepted p member)).supported,
    texts_ofChecked fun p member => (checkPredicate_ok (accepted' p member)).supported, same]

theorem params_ofChecked :
    (Clause.ofChecked predicates).params.length = (Clause.ofChecked others).params.length := by
  have free {ps : List Predicate} (accepted : ∀ p ∈ ps, checkPredicate p = .ok ()) :=
    columns_ofChecked (P := fun name => '?' ∉ name.toList) fun p member =>
      free_of_accepted (checkPredicate_ok (accepted p member)).named
  rw [← placeholders_clause _ (free accepted), ← placeholders_clause _ (free accepted'),
    text_ofChecked same accepted accepted']

theorem select_outlined (table : String) (limit : Value) :
    (Statement.select table (predicates.map .predicate) limit).map Statement.text =
      (Statement.select table (others.map .predicate) limit).map Statement.text := by
  have texts := text_ofChecked same accepted accepted'
  unfold Statement.select
  rw [ofCandidates_iff.mpr ⟨rfl, accepted⟩, ofCandidates_iff.mpr ⟨rfl, accepted'⟩]
  simp only [bind, Except.bind, pure, Except.pure]
  cases checkName "table" table with
  | error rejection => simp only [Except.map]
  | ok _ =>
    cases Statement.checkLimit limit with
    | error rejection => simp only [Except.map]
    | ok _ => simp only [Except.map, texts]

theorem count_outlined (table : String) :
    (Statement.count table (predicates.map .predicate)).map Statement.text =
      (Statement.count table (others.map .predicate)).map Statement.text := by
  have texts := text_ofChecked same accepted accepted'
  unfold Statement.count
  rw [ofCandidates_iff.mpr ⟨rfl, accepted⟩, ofCandidates_iff.mpr ⟨rfl, accepted'⟩]
  simp only [bind, Except.bind, pure, Except.pure]
  cases checkName "table" table with
  | error rejection => simp only [Except.map]
  | ok _ => simp only [Except.map, texts]

end Statements

/-- Accepted predicates that agree on columns, operators, groups and on which equalities are asked of texts have the same
clause and the same statements, whatever their values are, with as many parameters. -/
theorem text_outlined {predicates others : List Predicate} (same : predicates.map outline = others.map outline)
    {clause clause' : Clause} (accepted : Clause.ofPredicates predicates = .ok clause)
    (accepted' : Clause.ofPredicates others = .ok clause') (table : String) (limit : Value) :
    clause.text = clause'.text ∧ clause.params.length = clause'.params.length ∧
      (Statement.select table (predicates.map .predicate) limit).map Statement.text =
        (Statement.select table (others.map .predicate) limit).map Statement.text ∧
      (Statement.count table (predicates.map .predicate)).map Statement.text =
        (Statement.count table (others.map .predicate)).map Statement.text := by
  obtain ⟨rfl, checked⟩ := ofCandidates_iff.mp accepted
  obtain ⟨rfl, checked'⟩ := ofCandidates_iff.mp accepted'
  exact ⟨text_ofChecked same checked checked', params_ofChecked same checked checked',
    select_outlined same checked checked' table limit, count_outlined same checked checked' table⟩

def shelfPredicates (title author : String) (year : Int) : List Predicate :=
  [{ table := "books", column := "title", operator := .contains, value := .text title },
    { table := "books", column := "year", operator := .gte, value := .int year, group := 1 },
    { table := "books", column := "author", operator := .equals, value := .text author }]

theorem shelf_outlined :
    let plain := shelfPredicates "sea" "woolf" 1927
    let odd := shelfPredicates "%' OR ''='" "?'; DROP TABLE books /*\n" (-1)
    (plain.map outline = odd.map outline ∧ Clause.ofPredicates plain = .ok (Clause.ofChecked plain) ∧
      Clause.ofPredicates odd = .ok (Clause.ofChecked odd)) ∧
      (Clause.ofChecked odd).text = "WHERE (CAST(title AS VARCHAR) ILIKE ? ESCAPE '\\' OR " ++
        "LOWER(CAST(author AS VARCHAR)) = LOWER(?)) AND year >= ?" ∧
      (Clause.ofChecked odd).params.length = 3 ∧
        (Statement.select "books" (plain.map .predicate) (.int 5)).map Statement.text =
          (Statement.select "books" (odd.map .predicate) (.int 5)).map Statement.text := by
  intro plain odd
  have agree : plain.map outline = odd.map outline := by decide +kernel
  have checked : ∀ p ∈ plain, (checkPredicate p).isOk = true := by decide +kernel
  have checked' : ∀ p ∈ odd, (checkPredicate p).isOk = true := by decide +kernel
  have accepted := ofCandidates_iff.mpr ⟨rfl, fun p member => isOk_iff.mp (checked p member)⟩
  have accepted' := ofCandidates_iff.mpr ⟨rfl, fun p member => isOk_iff.mp (checked' p member)⟩
  obtain ⟨text, params, select, _⟩ := text_outlined agree accepted accepted' "books" (.int 5)
  refine ⟨⟨agree, accepted, accepted'⟩, ?_, ?_, select⟩
  · rw [← text]
    decide +kernel
  · rw [← params]
    decide +kernel

end Sql

end TableTalk
