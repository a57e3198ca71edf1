import TableTalk.Proofs.Tagging.ComparisonReading

namespace TableTalk

open Text

namespace ComparisonHit

def asked (p : List Char) : List Char :=
  'x' :: ' ' :: (p ++ [' ', '5'])

theorem length_asked (p : List Char) : (asked p).length = p.length + 4 := by
  simp [asked]

section Asked

variable {comparisons : List (String × Bound)} {p : List Char} {hit : ComparisonHit}

def tried (comparisons : List (String × Bound)) : List (List (List Char)) :=
  comparisons.map fun entry => fieldsOf entry.1.toList

theorem foundAt?_reaches {i : Nat} (early : i < 2) (found : foundAt? (tried comparisons) (asked p) i = some hit) :
    2 < hit.stop := by
  have inside : i ≤ (asked p).length := by
    rw [length_asked]
    omega
  obtain ⟨blanks, f, behind, stands⟩ := foundAt?_stands inside found
  have gap : 0 < blanks.length := List.length_pos_iff.mpr stands.apart
  have digits : 0 < f.chars.length := by
    obtain ⟨c, rest, same, _⟩ := f.chars_cons
    rw [same]
    exact Nat.succ_pos _
  have stop := stands.stop
  rw [List.length_append, List.length_append, List.length_take, Nat.min_eq_left inside] at stop
  cases i with
  | succ i => omega
  | zero =>
    have spelled : hit.phrase ≠ [] := by
      intro empty
      have whole := stands.whole
      obtain ⟨c, more, rfl⟩ := List.exists_cons_of_ne_nil stands.apart
      rw [empty, asked, List.take_zero, List.nil_append, List.nil_append, List.cons_append] at whole
      have first := stands.blank c List.mem_cons_self
      rw [← (List.cons.inj whole).1] at first
      exact absurd first (by decide)
    have first : 0 < hit.phrase.length := List.length_pos_iff.mpr spelled
    omega

theorem mem_scanAt_next {phrases : List (List (List Char))} {text : List Char} {i j : Nat} (before : i < j)
    (inside : j ≤ text.length) (reaches : ∀ other, foundAt? phrases text i = some other → j < other.stop) :
    hit ∈ scanAt phrases text i ∧ hit.start = j ↔
      foundAt? phrases text i = none ∧ hit ∈ scanAt phrases text (i + 1) ∧ hit.start = j := by
  rw [scanAt_next phrases (Nat.lt_of_lt_of_le before inside)]
  cases found : foundAt? phrases text i with
  | none => simp
  | some first =>
    obtain ⟨start, _, bound⟩ := foundAt?_bounds (Nat.le_trans (Nat.le_of_lt before) inside) found
    have reach := reaches first found
    refine ⟨fun ⟨member, there⟩ => ?_, nofun⟩
    rcases List.mem_cons.mp member with rfl | rest
    · omega
    · have later := (mem_scanAt bound rest).1
      omega

theorem mem_scan_asked : hit ∈ scan comparisons (asked p) ∧ hit.start = 2 ↔
    foundAt? (tried comparisons) (asked p) 0 = none ∧ foundAt? (tried comparisons) (asked p) 1 = none ∧
      foundAt? (tried comparisons) (asked p) 2 = some hit := by
  have inside : 2 < (asked p).length := by
    rw [length_asked]
    omega
  have third : hit ∈ scanAt (tried comparisons) (asked p) 2 ∧ hit.start = 2 ↔
      foundAt? (tried comparisons) (asked p) 2 = some hit := by
    constructor
    · rintro ⟨member, start⟩
      have found := (mem_scanAt (Nat.le_of_lt inside) member).2.2
      rwa [start] at found
    · intro found
      rw [scanAt_next _ inside, found]
      exact ⟨List.mem_cons_self, (foundAt?_bounds (Nat.le_of_lt inside) found).1⟩
  change hit ∈ scanAt (tried comparisons) (asked p) 0 ∧ hit.start = 2 ↔ _
  rw [mem_scanAt_next (by decide) (Nat.le_of_lt inside) fun _ found => foundAt?_reaches (by decide) found,
    mem_scanAt_next (by decide) (Nat.le_of_lt inside) fun _ found => foundAt?_reaches (by decide) found, third]

theorem scan_asked (member : hit ∈ scan comparisons (asked p)) (start : hit.start = 2)
    (stop : hit.stop = (asked p).length) : scan comparisons (asked p) = [hit] := by
  obtain ⟨first, second, third⟩ := mem_scan_asked.mp ⟨member, start⟩
  have long := length_asked p
  change scanAt (tried comparisons) (asked p) 0 = _
  rw [scanAt_next _ (by omega), first]
  dsimp only
  rw [scanAt_next _ (by omega), second]
  dsimp only
  rw [scanAt_next _ (by omega), third]
  dsimp only
  rw [stop, scanAt_end]

theorem number_asked {blanks behind : List Char} {f : NumeralForm}
    (stands : Stands (asked p) ((asked p).take 2) blanks f behind hit) (stop : hit.stop = (asked p).length) :
    hit.number = .ok (.int 5) := by
  have size := stands.stop
  have whole := stands.whole
  have nothing : behind = [] := by
    have length := congrArg List.length whole
    simp only [List.length_append] at length size
    exact List.length_eq_zero_iff.mp (by omega)
  have split : (p ++ [' ']) ++ ['5'] = (hit.phrase ++ blanks) ++ f.chars := by
    rw [nothing, List.append_nil] at whole
    have rest : asked p = (asked p).take 2 ++ (p ++ [' ', '5']) := rfl
    rw [rest] at whole
    rw [List.append_assoc, List.append_assoc]
    exact List.append_cancel_left whole
  have numeral : hit.numeral = ['5'] := by
    rw [stands.numeral]
    rcases List.append_eq_append_iff.mp split with ⟨more, first, last⟩ | ⟨more, first, last⟩
    · obtain ⟨c, rest, same, _⟩ := f.chars_cons
      rw [same] at last ⊢
      cases more with
      | nil => exact last.symm
      | cons d more =>
        have length := congrArg List.length last
        simp at length
    · -- the numeral does not start before the blank in front of it
      rcases List.eq_nil_or_concat more with rfl | ⟨more, c, rfl⟩
      · exact last
      · rw [List.concat_eq_append] at first last
        have blank : [' '] = [c] := (List.append_inj' (first.trans (List.append_assoc _ _ _).symm) rfl).2
        have shown := f.visible_chars c (by rw [last]; simp)
        rw [← (List.cons.inj blank).1] at shown
        exact absurd shown (by decide)
  rw [number, numeral]
  rfl

theorem foundAt?_asked_none {phrases : List (List (List Char))} {i : Nat} (early : i < 2) :
    foundAt? phrases (asked p) i = none ↔ ∀ phrase ∈ phrases, atFront? i ((asked p).drop i) phrase = none := by
  have edge : isBoundary ((asked p).take i).getLast? ((asked p).drop i).head? = true := by
    match i with
    | 0 => rfl
    | 1 => rfl
  rw [foundAt?, if_pos edge, List.findSome?_eq_none_iff]

theorem foundAt?_asked_some {phrases : List (List (List Char))} : foundAt? phrases (asked p) 2 = some hit ↔
    p.head?.any isWordChar = true ∧ phrases.findSome? (atFront? 2 (p ++ [' ', '5'])) = some hit := by
  have edge : isBoundary ((asked p).take 2).getLast? ((asked p).drop 2).head? = p.head?.any isWordChar := by
    cases p with
    | nil => rfl
    | cons c rest =>
      change isBoundary (some ' ') (some c) = isWordChar c
      have blank : isWordChar ' ' = false := isWordChar_blank (by decide)
      rw [isBoundary, Option.any_some, Option.any_some, blank, Bool.false_bne]
  have rest : (asked p).drop 2 = p ++ [' ', '5'] := rfl
  rw [foundAt?, edge, rest]
  cases p.head?.any isWordChar <;> simp

theorem slice_asked {i j : Nat} (order : i ≤ j) (inside : j ≤ (asked p).length)
    (same : slice (asked p) i j = String.ofList (p ++ [' ', '5'])) : i = 2 ∧ j = (asked p).length := by
  have chars : ((asked p).drop i).take (j - i) = p ++ [' ', '5'] := String.ofList_injective same
  have size := congrArg List.length chars
  rw [List.length_take, List.length_drop, List.length_append] at size
  rw [length_asked] at size inside
  have two : [' ', '5'].length = 2 := rfl
  have length : j - i = p.length + 2 := by omega
  rw [length] at chars
  rw [length_asked]
  match i with
  | 0 =>
    have front : (asked p).take (p.length + 2) = 'x' :: ' ' :: p := by
      rw [asked, List.take_succ_cons, List.take_succ_cons, List.take_left]
    rw [List.drop_zero, front] at chars
    have count := congrArg (List.count 'x') chars
    simp at count
  | 1 =>
    have front : ((asked p).drop 1).take (p.length + 2) = ' ' :: (p ++ [' ']) := by
      have split : p ++ [' ', '5'] = (p ++ [' ']) ++ ['5'] := by rw [List.append_assoc]; rfl
      rw [asked, List.drop_succ_cons, List.drop_zero, List.take_succ_cons, split]
      exact congrArg _ (List.take_left' (by simp))
    rw [front] at chars
    have count := congrArg (List.count '5') chars
    simp at count
  | 2 => omega
  | i + 3 => omega

end Asked

end ComparisonHit

theorem Token.scan_asked (p : List Char) :
    (Token.scan (ComparisonHit.asked p)).map Token.text = "x" :: ((Token.scan p).map Token.text ++ ["5"]) := by
  have front : (Token.scan ['x']).map Token.text = ["x"] := by decide
  have back : (Token.scan ['5']).map Token.text = ["5"] := by decide
  have split : ComparisonHit.asked p = ['x'] ++ ' ' :: (p ++ ' ' :: ['5']) := rfl
  rw [split, Token.scan_gap (by decide), Token.scan_gap (by decide), front, back]
  rfl

namespace Tagger

open ComparisonHit

variable {t : Tagger} {l : Lexicon} {p : String} {bound : Bound}

theorem toList_asked (p : String) : ("x " ++ p ++ " 5").toList = asked p.toList := by
  rw [String.toList_append, String.toList_append]
  rfl

/-- The comparison of a phrase with a number is found exactly if the phrase is read at its place, up to the end. -/
theorem tag_asked_iff (serves : t.Serves l) (asker : Asker)
    (quiet : ∀ token ∈ Token.scan (asked p.toList), token.text ∉ l.vocabularyWords) :
    (∃ e ∈ (t.tag none asker ("x " ++ p ++ " 5")).1, e.kind = .numericFilter ∧ e.text = p ++ " 5" ∧
        e.canonical = .comparison ⟨bound.operator, .int 5⟩) ↔
      ∃ hit, (hit ∈ scan l.comparisonPhrases (asked p.toList) ∧ hit.start = 2) ∧
        hit.stop = (asked p.toList).length ∧ hit.bound? l.comparisonPhrases = some bound := by
  have text : p ++ " 5" = String.ofList (p.toList ++ [' ', '5']) := by
    rw [← String.ofList_toList (s := p ++ " 5"), String.toList_append]
    rfl
  constructor
  · rintro ⟨e, member, kind, shown, canonical⟩
    obtain ⟨hit, among, made⟩ := numericFilter_hit serves none asker _ e member kind
    rw [toList_asked] at among made
    obtain ⟨direction, value, found, _, same, compares⟩ := comparisonEntity_some made
    obtain ⟨_, inside, at'⟩ := mem_scanAt (Nat.zero_le _) among
    obtain ⟨_, order, stop⟩ := foundAt?_bounds (Nat.le_of_lt inside) at'
    obtain ⟨start, stop⟩ := slice_asked (Nat.le_of_lt order) stop (same.symm.trans (shown.trans text))
    refine ⟨hit, ⟨among, start⟩, stop, ?_⟩
    rw [compares] at canonical
    cases direction <;> cases bound <;> first | exact found | cases canonical
  · rintro ⟨hit, ⟨among, start⟩, stop, direction⟩
    obtain ⟨_, _, third⟩ := mem_scan_asked.mp ⟨among, start⟩
    have long := length_asked p.toList
    obtain ⟨blanks, f, behind, stands⟩ := foundAt?_stands (by omega) third
    obtain ⟨e, made, same, canonical⟩ := comparisonEntity_ok
      (part (asked p.toList) hit.start hit.stop) direction (number_asked stands stop)
    have single : (t.tag none asker ("x " ++ p ++ " 5")).1 = [e] := by
      have visible : isBlankText ("x " ++ p ++ " 5") = false := by
        rw [isBlankText, toList_asked]
        rfl
      rw [tag_quiet serves asker visible (by rwa [toList_asked]), toList_asked,
        comparisonPass_single (scan_asked among start stop) made, Entity.inOrder, List.mergeSort_singleton]
    refine ⟨e, by rw [single]; exact List.mem_singleton_self e, (comparisonEntity_isAt made).2, ?_, canonical⟩
    have rest : slice (asked p.toList) 2 (asked p.toList).length = String.ofList (p.toList ++ [' ', '5']) := by
      rw [slice, List.take_of_length_le (by rw [List.length_drop])]
      rfl
    rw [same, part, start, stop, rest, text]

/-- Of a phrase whose words are not looked up, the comparison with a number is found behind another word exactly if the
phrase begins like a word, no phrase is read as a comparison in front of it, and the first one that is read at its place
is read up to the number and listed for the direction. -/
theorem comparison_phrase_iff (serves : t.Serves l) (asker : Asker) (p : String) (bound : Bound)
    (unknown : ∀ token ∈ Token.scan p.toList, token.text ∉ l.vocabularyWords) (word : "x" ∉ l.vocabularyWords)
    (number : "5" ∉ l.vocabularyWords) :
    (∃ e ∈ (t.tag none asker ("x " ++ p ++ " 5")).1, e.kind = .numericFilter ∧ e.text = p ++ " 5" ∧
        e.canonical = .comparison ⟨bound.operator, .int 5⟩) ↔
      p.toList.head?.any isWordChar = true ∧
      (∀ phrase ∈ tried l.comparisonPhrases, atFront? 0 (asked p.toList) phrase = none ∧
        atFront? 1 (asked p.toList).tail phrase = none) ∧
      ∃ hit, (tried l.comparisonPhrases).findSome? (atFront? 2 (p.toList ++ [' ', '5'])) = some hit ∧
        hit.stop = (asked p.toList).length ∧ hit.bound? l.comparisonPhrases = some bound := by
  have quiet : ∀ token ∈ Token.scan (asked p.toList), token.text ∉ l.vocabularyWords := by
    intro token member
    have among := List.mem_map_of_mem (f := Token.text) member
    rw [Token.scan_asked, List.mem_cons, List.mem_append, List.mem_singleton] at among
    rcases among with same | inside | same
    · rwa [same]
    · obtain ⟨other, there, same⟩ := List.mem_map.mp inside
      rw [← same]
      exact unknown other there
    · rwa [same]
  rw [tag_asked_iff serves asker quiet]
  have first := @foundAt?_asked_none p.toList (tried l.comparisonPhrases) 0 (by decide)
  have second := @foundAt?_asked_none p.toList (tried l.comparisonPhrases) 1 (by decide)
  simp only [mem_scan_asked, foundAt?_asked_some, first, second]
  constructor
  · rintro ⟨hit, ⟨front, gap, edge, read⟩, stop, direction⟩
    exact ⟨edge, fun phrase member => ⟨front phrase member, gap phrase member⟩, hit, read, stop, direction⟩
  · rintro ⟨edge, ahead, hit, read, stop, direction⟩
    exact ⟨hit, ⟨fun phrase member => (ahead phrase member).1, fun phrase member => (ahead phrase member).2, edge,
      read⟩, stop, direction⟩

theorem comparison_phrase_above :
    ∃ e ∈ ((ofLexicon aboveLexicon).tag none dayAsker "x above 5").1, e.kind = .numericFilter ∧ e.text = "above 5" ∧
      e.canonical = .comparison ⟨.gt, .int 5⟩ := by
  have found := comparison_phrase_iff (serves_ofLexicon aboveLexicon) dayAsker "above" .above (by decide +kernel)
    (by decide +kernel) (by decide +kernel)
  exact found.mpr ⟨by decide +kernel, by decide +kernel, ⟨2, 9, "above".toList, ['5']⟩, by decide +kernel,
    by decide +kernel, by decide +kernel⟩

def signLexicon : Lexicon :=
  { tables := [{ table := "tasks" }], comparisons := [(.above, [">"])] }

/-- The sign is found right behind a word, but not behind a word and a space. -/
theorem sign_apart :
    signLexicon.vocabularyWords = ["tasks"] ∧
      ((ofLexicon signLexicon).tag none dayAsker "x> 5").1.map (fun e => (e.kind, e.text)) =
        [(.numericFilter, "> 5")] ∧
      ((ofLexicon signLexicon).tag none dayAsker "x > 5").1.map (fun e => (e.kind, e.text)) = [] := by
  decide +kernel

end Tagger

end TableTalk
