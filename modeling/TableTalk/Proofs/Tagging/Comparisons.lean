import TableTalk.Proofs.Tagging.NumeralForms
import TableTalk.Proofs.Tagging.Serving
import TableTalk.Proofs.Tagging.Spacing

namespace TableTalk

namespace ComparisonHit

open Text

/-- A comparison in a question: a phrase, blanks and a numeral, with something in front of it and behind it. -/
structure Stands (question front blanks : List Char) (f : NumeralForm) (behind : List Char) (hit : ComparisonHit) :
    Prop where
  whole : question = front ++ (hit.phrase ++ (blanks ++ (f.chars ++ behind)))
  start : hit.start = front.length
  stop : hit.stop = front.length + (hit.phrase ++ (blanks ++ f.chars)).length
  apart : blanks ≠ []
  blank : ∀ c ∈ blanks, isBlank c = true
  shown : endsBlank false hit.phrase = false
  numeral : hit.numeral = f.chars
  taken : numeralLength? (f.chars ++ behind) = some f.chars.length

theorem blanks?_blank {text behind : List Char} (found : blanks? text = some behind) :
    ∃ blanks, text = blanks ++ behind ∧ blanks ≠ [] ∧ ∀ c ∈ blanks, isBlank c = true := by
  unfold blanks? at found
  split at found
  · cases found
  · rename_i c rest
    split at found
    · rename_i blank
      cases found
      refine ⟨c :: rest.takeWhile isBlank, ?_, List.cons_ne_nil _ _, List.forall_mem_cons.mpr ⟨blank, ?_⟩⟩
      · rw [List.cons_append, List.takeWhile_append_dropWhile]
      · exact fun d member => List.all_eq_true.mp List.all_takeWhile d member
    · cases found

theorem atFront?_stands {phrase : List (List Char)} (visible : ∀ word ∈ phrase, Visible word) (front : List Char)
    {text : List Char} {hit : ComparisonHit} (found : atFront? front.length text phrase = some hit) :
    ∃ blanks f behind, Stands (front ++ text) front blanks f behind hit := by
  simp only [atFront?, Option.bind_eq_bind, Option.bind_eq_some_iff, Option.pure_def, Option.some.injEq] at found
  obtain ⟨rest, spelled, number, blank, length, taken, rfl⟩ := found
  obtain ⟨first, rfl, shown⟩ := words?_split visible spelled
  obtain ⟨blanks, rfl, apart, allBlank⟩ := blanks?_blank blank
  obtain ⟨f, behind, rfl, rfl⟩ := numeralLength?_sound taken
  have written : (first ++ (blanks ++ (f.chars ++ behind))).take
      ((first ++ (blanks ++ (f.chars ++ behind))).length - (blanks ++ (f.chars ++ behind)).length) = first := by
    rw [List.length_append, Nat.add_sub_cancel, List.take_left]
  refine ⟨blanks, f, behind, ?_, rfl, ?_, apart, allBlank, ?_, List.take_left, taken⟩
  · rw [written]
  · dsimp only
    rw [written]
    simp only [List.length_append]
    omega
  · rw [written]
    exact shown

theorem foundAt?_stands {comparisons : List (String × Bound)} {question : List Char} {i : Nat} {hit : ComparisonHit}
    (inside : i ≤ question.length)
    (found : foundAt? (comparisons.map fun entry => fieldsOf entry.1.toList) question i = some hit) :
    ∃ blanks f behind, Stands question (question.take i) blanks f behind hit := by
  obtain ⟨_, phrase, declared, atFront⟩ := foundAt?_front found
  have length : (question.take i).length = i := by rw [List.length_take, Nat.min_eq_left inside]
  rw [← length] at atFront
  obtain ⟨blanks, f, behind, stands⟩ := atFront?_stands (phrases_visible comparisons phrase declared) _ atFront
  rw [length, List.take_append_drop] at stands
  exact ⟨blanks, f, behind, stands⟩

/-- What is found in a question stands there at the edge of a word. -/
theorem scan_stands {comparisons : List (String × Bound)} {question : List Char} {hit : ComparisonHit}
    (member : hit ∈ scan comparisons question) :
    ∃ front blanks f behind, Stands question front blanks f behind hit := by
  obtain ⟨_, inside, found⟩ := mem_scanAt (Nat.zero_le _) member
  exact ⟨_, foundAt?_stands (Nat.le_of_lt inside) found⟩

end ComparisonHit

namespace Tagger

variable {t : Tagger} {l : Lexicon}

theorem numericFilter_hit (serves : t.Serves l) (directory : Option Directory) (asker : Asker) (question : String) :
    ∀ e ∈ (t.tag directory asker question).1, e.kind = .numericFilter →
      ∃ hit ∈ ComparisonHit.scan l.comparisonPhrases question.toList,
        comparisonEntity (part question.toList hit.start hit.stop) l.comparisonPhrases hit = .ok (some e) := by
  obtain ⟨names, shape⟩ := serves.passesOver directory
  refine t.tag_all (P := fun e => e.kind = .numericFilter →
    ∃ hit ∈ ComparisonHit.scan l.comparisonPhrases question.toList,
      comparisonEntity (part question.toList hit.start hit.stop) l.comparisonPhrases hit = .ok (some e)) ?_
  rw [shape]
  split
  · simp
  · simp only [passes, List.forall_mem_cons, List.not_mem_nil, false_implies, implies_true, and_true]
    refine ⟨?_, phrasePass_kinds.imp ?_, (namePass_kinds _ _).imp ?_, (pronounPass_kinds _).imp ?_,
      temporalPass_kinds.imp ?_, ?_, keywordPass_kinds.imp ?_⟩
    · apply tokenPass_yields
      intro token _ word _ e made
      cases made
      exact ⟨rfl, fun kind => by cases kind⟩
    · rintro e (⟨kind, _⟩ | kind | kind | kind) <;> simp [kind]
    · rintro e ⟨kind, _⟩
      simp [kind]
    · intro e kind
      simp [kind]
    · intro e kind
      simp [kind]
    · intro claims
      apply Claims.sweep_yields
      intro hit member e made
      exact ⟨(comparisonEntity_isAt made).1.2, fun _ => ⟨hit, member, made⟩⟩
    · rintro e (kind | kind) <;> simp [kind]

open ComparisonHit in
/-- A comparison ends behind a numeral that starts behind a blank. The number in the question does not go on there with
a comma or a point exactly if it is itself a numeral with no word behind it. -/
theorem comparison_ends (serves : t.Serves l) (directory : Option Directory) (asker : Asker) (question : String) :
    ∀ e ∈ (t.tag directory asker question).1, e.kind = .numericFilter →
      ∃ front numeral behind, question.toList = front ++ (numeral ++ behind) ∧
        front.getLast?.any Text.isBlank = true ∧ IsNumeral numeral ∧ e.span.stop = (front ++ numeral).length ∧
          (goesOn behind = false ↔ IsNumeral (numberRun (numeral ++ behind)) ∧
            ((numeral ++ behind).drop (numberRun (numeral ++ behind)).length).head?.any Text.isWordChar = false) := by
  intro e member kind
  obtain ⟨hit, among, made⟩ := numericFilter_hit serves directory asker question e member kind
  obtain ⟨front, blanks, f, behind, stands⟩ := scan_stands among
  have ends := goesOn_iff stands.taken
  rw [List.drop_left] at ends
  refine ⟨front ++ (hit.phrase ++ blanks), f.chars, behind, ?_, ?_, ⟨f, rfl⟩, ?_, ends⟩
  · rw [stands.whole]
    simp only [List.append_assoc]
  · have last := List.getLast?_eq_some_getLast stands.apart
    rw [List.getLast?_append, List.getLast?_append, last, Option.some_or, Option.some_or, Option.any_some]
    exact stands.blank _ (List.getLast_mem stands.apart)
  · rw [(comparisonEntity_isAt made).1.2]
    simp only [part, stands.stop, List.length_append]
    omega

def aboveLexicon : Lexicon :=
  { tables := [{ table := "tasks" }], comparisons := [(.above, ["above"])] }

theorem comparison_ends_single : ∃ e ∈ ((ofLexicon aboveLexicon).tag none dayAsker "above 1,000.50").1,
    e.kind = .numericFilter ∧ e.span.stop = 14 ∧ ∃ front numeral behind,
      "above 1,000.50".toList = front ++ (numeral ++ behind) ∧ IsNumeral numeral ∧ (front ++ numeral).length = 14 := by
  have found : ((ofLexicon aboveLexicon).tag none dayAsker "above 1,000.50").1.map (fun e => (e.kind, e.span)) =
      [(.numericFilter, ⟨0, 14⟩)] := by decide +kernel
  obtain ⟨e, single, same⟩ := List.map_eq_singleton_iff.mp found
  have kind : e.kind = .numericFilter := congrArg Prod.fst same
  have stop : e.span.stop = 14 := congrArg (fun place => place.2.stop) same
  have member : e ∈ ((ofLexicon aboveLexicon).tag none dayAsker "above 1,000.50").1 := by
    rw [single]
    exact List.mem_singleton_self e
  obtain ⟨front, numeral, behind, whole, _, form, ends, _⟩ :=
    comparison_ends (serves_ofLexicon aboveLexicon) none dayAsker "above 1,000.50" e member kind
  exact ⟨e, member, kind, stop, front, numeral, behind, whole, form, by omega⟩

/-- A number with a group of two digits: only the one in front of it is compared with. -/
theorem number_cut_short :
    ((ofLexicon aboveLexicon).tag none dayAsker "above 1,00,000").1.map (fun e => (e.kind, e.text, e.span)) =
        [(.numericFilter, "above 1", ⟨0, 7⟩)] ∧
      ComparisonHit.goesOn ("above 1,00,000".toList.drop 7) = true := by
  decide +kernel

end Tagger

end TableTalk
