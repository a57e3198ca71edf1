import TableTalk.Proofs.Phrase
import TableTalk.Proofs.Tagging.Numerals
import TableTalk.Proofs.Tagging.Precedence
import TableTalk.Proofs.Tagging.Scanning
import TableTalk.Proofs.Text.Spacing

namespace TableTalk

namespace ComparisonHit

open Text

def Visible (word : List Char) : Prop :=
  word ≠ [] ∧ ∀ c ∈ word, isBlank c = false

theorem fieldsOf_visible (text : List Char) : ∀ word ∈ fieldsOf text, Visible word := by
  intro word member
  obtain ⟨run, among, rfl⟩ := List.mem_map.mp member
  obtain ⟨_, fits, nonempty⟩ := runs_chars among
  exact ⟨nonempty, fun c inside => by simpa using fits c inside⟩

theorem phrases_visible (comparisons : List (String × Bound)) :
    ∀ phrase ∈ comparisons.map fun entry => fieldsOf entry.1.toList, ∀ word ∈ phrase, Visible word := by
  intro phrase member
  obtain ⟨_, _, rfl⟩ := List.mem_map.mp member
  exact fieldsOf_visible _

theorem literal?_squeezed {literal : List Char} (visible : ∀ c ∈ literal, isBlank c = false) (text : List Char) :
    literal? literal (squeezed text) = (literal? literal text).map squeezed := by
  fun_induction literal? literal text with
  | case1 text => rfl
  | case2 => rfl
  | case3 c literal d text same ih =>
    obtain ⟨here, later⟩ := List.forall_mem_cons.mp visible
    have shown := alike_not_blank here same
    have rest := ih later
    rw [squeezed] at rest
    rw [squeezed, squeezeFrom, shown, if_neg Bool.false_ne_true, literal?, if_pos same, rest]
  | case4 c literal d text other =>
    rw [squeezed, squeezeFrom]
    cases blank : isBlank d with
    | true =>
      have apart : alike c ' ' ≠ true := by
        intro same
        have shown := alike_not_blank (visible c List.mem_cons_self) same
        exact absurd shown (by decide)
      simp [literal?, apart]
    | false => simp [literal?, other]

theorem literal?_split {literal text behind : List Char} (found : literal? literal text = some behind)
    (visible : ∀ c ∈ literal, isBlank c = false) :
    ∃ front, text = front ++ behind ∧ front.length = literal.length ∧ ∀ c ∈ front, isBlank c = false := by
  fun_induction literal? literal text with
  | case1 text =>
    cases found
    exact ⟨[], rfl, rfl, fun _ inside => absurd inside List.not_mem_nil⟩
  | case2 => cases found
  | case3 c literal d text same ih =>
    obtain ⟨here, later⟩ := List.forall_mem_cons.mp visible
    obtain ⟨front, rfl, length, shown⟩ := ih found later
    exact ⟨d :: front, rfl, congrArg Nat.succ length,
      List.forall_mem_cons.mpr ⟨alike_not_blank here same, shown⟩⟩
  | case4 => cases found

theorem startsBlank_dropWhile (text : List Char) : startsBlank (text.dropWhile isBlank) = false := by
  have first := List.head?_dropWhile_not isBlank text
  unfold startsBlank
  cases front : (text.dropWhile isBlank).head? with
  | none => rfl
  | some c =>
    rw [front] at first
    exact first

theorem dropWhile_blank_squeezed {text : List Char} (visible : startsBlank text = false) :
    (squeezed text).dropWhile isBlank = squeezed text := by
  cases text with
  | nil => rfl
  | cons c rest =>
    have here : isBlank c = false := visible
    rw [squeezed, squeezeFrom, here, if_neg Bool.false_ne_true, List.dropWhile_cons, here,
      if_neg Bool.false_ne_true]

theorem blanks?_squeezed (text : List Char) : blanks? (squeezed text) = (blanks? text).map squeezed := by
  cases text with
  | nil => rfl
  | cons c rest =>
    rw [squeezed, squeezeFrom]
    cases blank : isBlank c with
    | true =>
      have space : isBlank ' ' = true := by decide
      rw [if_pos rfl, if_neg Bool.false_ne_true, blanks?, blanks?, if_pos space, if_pos blank, squeezeFrom_true,
        dropWhile_blank_squeezed (startsBlank_dropWhile rest)]
      rfl
    | false => simp [blanks?, blank]

theorem blanks?_split {text behind : List Char} (found : blanks? text = some behind) :
    startsBlank behind = false ∧ ∃ front, text = front ++ behind := by
  unfold blanks? at found
  split at found
  · cases found
  · rename_i c rest
    split at found
    · cases found
      refine ⟨startsBlank_dropWhile rest, c :: rest.takeWhile isBlank, ?_⟩
      rw [List.cons_append, List.takeWhile_append_dropWhile]
    · cases found

theorem words?_squeezed {words : List (List Char)} (visible : ∀ word ∈ words, Visible word) (text : List Char) :
    words? words (squeezed text) = (words? words text).map squeezed := by
  fun_induction words? words text with
  | case1 text => rfl
  | case2 word text => exact literal?_squeezed (visible word List.mem_cons_self).2 text
  | case3 word others text more ih =>
    obtain ⟨here, later⟩ := List.forall_mem_cons.mp visible
    rw [words?, literal?_squeezed here.2]
    · cases literal? word text with
      | none => rfl
      | some behind =>
        simp only [Option.map_some, Option.bind_eq_bind, Option.bind_some, blanks?_squeezed]
        cases blanks? behind with
        | none => rfl
        | some next => exact ih next later
    · exact more

theorem words?_split {words : List (List Char)} (visible : ∀ word ∈ words, Visible word) {text behind : List Char}
    (found : words? words text = some behind) : ∃ front, text = front ++ behind ∧ endsBlank false front = false := by
  -- every part ends with a word, whatever stands before it
  suffices parts : ∃ front, text = front ++ behind ∧
      ∀ before, before = false ∨ words ≠ [] → endsBlank before front = false by
    obtain ⟨front, whole, ends⟩ := parts
    exact ⟨front, whole, ends false (Or.inl rfl)⟩
  fun_induction words? words text with
  | case1 text =>
    cases found
    exact ⟨[], rfl, fun before given => given.resolve_right fun more => more rfl⟩
  | case2 word text =>
    obtain ⟨nonempty, shown⟩ := visible word List.mem_cons_self
    obtain ⟨front, whole, length, clear⟩ := literal?_split found shown
    refine ⟨front, whole, fun before _ => endsBlank_all_visible clear (Or.inr ?_)⟩
    rw [← List.length_pos_iff] at nonempty ⊢
    omega
  | case3 word others text more ih =>
    obtain ⟨here, later⟩ := List.forall_mem_cons.mp visible
    simp only [Option.bind_eq_bind, Option.bind_eq_some_iff] at found
    obtain ⟨behindWord, spelled, next, blank, found⟩ := found
    obtain ⟨first, rfl, _, _⟩ := literal?_split spelled here.2
    obtain ⟨_, second, rfl⟩ := blanks?_split blank
    obtain ⟨third, rfl, ends⟩ := ih next later found
    refine ⟨first ++ (second ++ third), by simp, fun before _ => ?_⟩
    rw [endsBlank_append, endsBlank_append]
    exact ends _ (Or.inr more)

theorem closing_squeezed {behind : List Char} (closing : Closing behind) : Closing (squeezed behind) := by
  intro c first
  cases behind with
  | nil => cases first
  | cons d rest =>
    have blank := closing d rfl
    rw [squeezed, squeezeFrom, blank] at first
    cases first
    decide

theorem numeralLength?_squeezed (text : List Char) :
    numeralLength? (squeezed text) = numeralLength? text ∧
      ∀ n, numeralLength? text = some n →
        (squeezed text).take n = text.take n ∧ squeezed (text.take n) = text.take n := by
  let front := text.takeWhile fun c => !isBlank c
  let behind := text.dropWhile fun c => !isBlank c
  have whole : text = front ++ behind := List.takeWhile_append_dropWhile.symm
  have shown : ∀ c ∈ front, isBlank c = false := by
    intro c member
    simpa using List.all_eq_true.mp List.all_takeWhile c member
  have closing : Closing behind := by
    intro c first
    have stopped := List.head?_dropWhile_not (fun c => !isBlank c) text
    rw [first] at stopped
    simpa using stopped
  have split : squeezed text = front ++ squeezed behind := by
    rw [whole, squeezed_append (Or.inl (endsBlank_all_visible shown (Or.inl rfl))), squeezed,
      squeezeFrom_all_visible shown]
  have length : numeralLength? text = numeralLength? front := by
    rw [whole, numeralLength?_closing closing]
  refine ⟨by rw [split, numeralLength?_closing (closing_squeezed closing), length], ?_⟩
  intro n found
  rw [length] at found
  have inside := numeralLength?_le found
  have taken : text.take n = front.take n := by rw [whole, List.take_append_of_le_length inside]
  rw [taken, split, List.take_append_of_le_length inside]
  exact ⟨rfl, squeezeFrom_all_visible (fun c member => shown c (List.mem_of_mem_take member)) false⟩

theorem atFront?_squeezed {phrase : List (List Char)} (visible : ∀ word ∈ phrase, Visible word) (i j : Nat)
    (text : List Char) :
    atFront? j (squeezed text) phrase = (atFront? i text phrase).map fun hit =>
      ⟨j, j + (squeezed (text.take (hit.stop - i))).length, squeezed hit.phrase, hit.numeral⟩ := by
  unfold atFront?
  rw [words?_squeezed visible]
  cases spelled : words? phrase text with
  | none => rfl
  | some behind =>
    simp only [Option.map_some, Option.bind_eq_bind, Option.bind_some, blanks?_squeezed]
    cases blank : blanks? behind with
    | none => rfl
    | some number =>
      obtain ⟨lengths, taken⟩ := numeralLength?_squeezed number
      simp only [Option.map_some, Option.bind_some, lengths]
      cases numeral : numeralLength? number with
      | none => rfl
      | some length =>
        obtain ⟨first, rfl, ends⟩ := words?_split visible spelled
        obtain ⟨shown, second, rfl⟩ := blanks?_split blank
        obtain ⟨same, plain⟩ := taken length numeral
        have inside := numeralLength?_le numeral
        have front : squeezed (first ++ (second ++ number)) = squeezed first ++ squeezed (second ++ number) :=
          squeezed_append (Or.inl ends)
        have back : squeezed (first ++ (second ++ number)) = squeezed (first ++ second) ++ squeezed number := by
          rw [← List.append_assoc, squeezed_append (Or.inr shown)]
        have extent : i + ((first ++ (second ++ number)).length - number.length) + length - i =
            (first ++ second).length + length := by
          simp only [List.length_append]
          omega
        have stop : (squeezed ((first ++ (second ++ number)).take ((first ++ second).length + length))).length =
            (squeezed (first ++ second)).length + length := by
          rw [← List.append_assoc, List.take_length_add_append,
            squeezed_append (Or.inr (startsBlank_take shown length)), plain, List.length_append, List.length_take,
            Nat.min_eq_left inside]
        simp only [Option.bind_some, Option.pure_def, Option.map_some, extent, stop, same]
        have consumed : (squeezed (first ++ (second ++ number))).length - (squeezed number).length =
            (squeezed (first ++ second)).length := by
          rw [back, List.length_append, Nat.add_sub_cancel]
        have spelling : (squeezed (first ++ (second ++ number))).take
            ((squeezed (first ++ (second ++ number))).length - (squeezed (second ++ number)).length) =
              squeezed first := by
          rw [front, List.length_append, Nat.add_sub_cancel, List.take_left]
        rw [consumed, spelling, List.length_append, Nat.add_sub_cancel, List.take_left, Nat.add_assoc]

def moved (offset : Nat → Nat) (hit : ComparisonHit) : ComparisonHit :=
  ⟨offset hit.start, offset hit.stop, squeezed hit.phrase, hit.numeral⟩

theorem wordBehind_blank {c : Char} (blank : isBlank c = true) (rest : List Char) :
    (c :: rest).getLast?.any isWordChar = rest.getLast?.any isWordChar := by
  cases rest with
  | nil => simp [isWordChar_blank blank]
  | cons d others => simp

theorem wordBehind_squeezeFrom (behindBlank : Bool) (text : List Char) :
    (squeezeFrom behindBlank text).getLast?.any isWordChar = text.getLast?.any isWordChar := by
  induction text generalizing behindBlank with
  | nil => rfl
  | cons c rest ih =>
    rw [squeezeFrom]
    cases blank : isBlank c with
    | true =>
      rw [wordBehind_blank blank]
      cases behindBlank with
      | true => exact ih true
      | false => exact (wordBehind_blank (by decide) _).trans (ih true)
    | false =>
      rw [if_neg Bool.false_ne_true]
      cases rest with
      | nil => rfl
      | cons d others =>
        have shown := squeezed_ne_nil (List.cons_ne_nil d others)
        have later := ih false
        rw [squeezed] at shown
        rw [List.getLast?_cons, List.getLast?_eq_some_getLast shown, Option.getD_some]
        rw [List.getLast?_eq_some_getLast shown] at later
        simpa using later

theorem wordAhead_squeezed (text : List Char) :
    (squeezed text).head?.any isWordChar = text.head?.any isWordChar := by
  cases text with
  | nil => rfl
  | cons c rest =>
    rw [squeezed, squeezeFrom]
    cases blank : isBlank c with
    | true => simp [isWordChar_blank blank, isWordChar_blank (show isBlank ' ' = true by decide)]
    | false => rfl

theorem endsBlank_eq (behindBlank : Bool) (text : List Char) :
    endsBlank behindBlank text = (text.getLast?.map isBlank).getD behindBlank := by
  induction text generalizing behindBlank with
  | nil => rfl
  | cons c rest ih =>
    rw [endsBlank, ih, List.getLast?_cons]
    cases rest.getLast? <;> rfl

theorem boundary_edge {front behind : List Char}
    (edge : isBoundary front.getLast? behind.head? = true) :
    startsBlank behind = false ∨ ∀ before, endsBlank before front = false := by
  cases blank : startsBlank behind with
  | false => exact Or.inl rfl
  | true =>
    right
    intro before
    obtain ⟨c, first, isBlank⟩ := (Option.any_eq_true _ _).mp blank
    rw [first] at edge
    simp only [isBoundary, Option.any_some, isWordChar_blank isBlank, bne_iff_ne, ne_eq,
      Bool.not_eq_false] at edge
    obtain ⟨last, ends, word⟩ := (Option.any_eq_true _ _).mp edge
    rw [endsBlank_eq, ends, Option.map_some, Option.getD_some, Bool.eq_false_iff]
    intro lastBlank
    rw [isWordChar_blank lastBlank] at word
    cases word

theorem foundAt?_edges {phrases : List (List (List Char))} (visible : ∀ phrase ∈ phrases, ∀ word ∈ phrase, Visible word)
    {text : List Char} {i : Nat} (inside : i ≤ text.length) {hit : ComparisonHit}
    (found : foundAt? phrases text i = some hit) : Edge text i ∧ Edge text hit.stop := by
  obtain ⟨boundary, phrase, member, front⟩ := foundAt?_front found
  obtain ⟨_, _, bound⟩ := foundAt?_bounds inside found
  refine ⟨⟨inside, (boundary_edge boundary).symm.imp_left fun ends => ends false⟩, bound, ?_⟩
  simp only [atFront?, Option.bind_eq_bind, Option.bind_eq_some_iff, Option.pure_def,
    Option.some.injEq] at front
  obtain ⟨behind, spelled, number, blank, length, numeral, rfl⟩ := front
  obtain ⟨first, whole, _⟩ := words?_split (visible phrase member) spelled
  obtain ⟨_, second, rfl⟩ := blanks?_split blank
  have consumed : (text.drop i).length - number.length = (first ++ second).length := by
    rw [whole, ← List.append_assoc, List.length_append, Nat.add_sub_cancel]
  have ahead : text.drop (i + ((text.drop i).length - number.length) + length) = number.drop length := by
    rw [consumed, ← List.drop_drop, ← List.drop_drop, whole, ← List.append_assoc, List.drop_left]
  have before : text.take (i + ((text.drop i).length - number.length) + length) =
      text.take i ++ ((first ++ second) ++ number.take length) := by
    rw [consumed, Nat.add_assoc, List.take_add, whole, ← List.append_assoc, List.take_length_add_append]
  rw [ahead, before, endsBlank_append, endsBlank_append]
  exact (boundary_edge (numeralLength?_boundary numeral)).symm.imp_left fun ends => ends _

theorem foundAt?_squeezed {phrases : List (List (List Char))}
    (visible : ∀ phrase ∈ phrases, ∀ word ∈ phrase, Visible word) {text : List Char} {i : Nat} (edge : Edge text i) :
    foundAt? phrases (squeezed text) (squeezedOffset text i) =
      (foundAt? phrases text i).map (moved (squeezedOffset text)) := by
  have before : (squeezed text).take (squeezedOffset text i) = squeezed (text.take i) := by
    rw [squeezed_split edge, squeezedOffset, List.take_left]
  have boundary : isBoundary (squeezed (text.take i)).getLast? (squeezed (text.drop i)).head? =
      isBoundary (text.take i).getLast? (text.drop i).head? := by
    unfold isBoundary
    rw [wordAhead_squeezed, squeezed, wordBehind_squeezeFrom]
  unfold foundAt?
  rw [before, squeezed_drop edge, boundary]
  split
  · rw [List.map_findSome?]
    apply findSome?_same
    intro phrase member
    rw [Function.comp_apply, atFront?_squeezed (visible phrase member) i]
    cases front : atFront? i (text.drop i) phrase with
    | none => rfl
    | some hit =>
      obtain ⟨start, behind, _⟩ := atFront?_bounds front
      have stop := squeezedOffset_add edge (hit.stop - i)
      rw [Nat.add_sub_cancel' (by omega)] at stop
      simp only [Option.map_some, moved, start, stop]
  · rfl

/-- The search from an offset on, which need not be an edge: inside of blanks nothing is found. -/
theorem scanAt_squeezed {phrases : List (List (List Char))}
    (visible : ∀ phrase ∈ phrases, ∀ word ∈ phrase, Visible word) {text : List Char} {i : Nat}
    (inside : i ≤ text.length) :
    scanAt phrases (squeezed text) (squeezedOffset text i) =
      (scanAt phrases text i).map (moved (squeezedOffset text)) := by
  by_cases last : i = text.length
  · have ends : squeezedOffset text i = (squeezed text).length := by
      rw [last, squeezedOffset, List.take_length]
    rw [ends, scanAt_end, last, scanAt_end]
    rfl
  · have less : i < text.length := by omega
    rw [scanAt_next phrases less]
    by_cases edge : Edge text i
    · have inside' : squeezedOffset text i < (squeezed text).length := by
        have below := squeezedOffset_lt edge (Nat.le_refl _) less
        rwa [squeezedOffset, squeezedOffset, List.take_length] at below
      have next : squeezedOffset text (i + 1) = squeezedOffset text i + 1 := by
        rw [squeezedOffset_add edge, List.drop_eq_getElem_cons less, List.take_succ_cons, List.take_zero]
        cases blank : isBlank text[i] <;> simp [squeezed, squeezeFrom, blank]
      rw [scanAt_next phrases inside', foundAt?_squeezed visible edge]
      cases found : foundAt? phrases text i with
      | none =>
        rw [Option.map_none, ← next]
        exact scanAt_squeezed visible less
      | some hit =>
        obtain ⟨_, behind, bound⟩ := foundAt?_bounds inside found
        rw [Option.map_some, List.map_cons]
        exact congrArg (moved (squeezedOffset text) hit :: ·) (scanAt_squeezed visible bound)
    · have none : foundAt? phrases text i = none := by
        cases found : foundAt? phrases text i with
        | none => rfl
        | some hit => exact absurd (foundAt?_edges visible inside found).1 edge
      have blank : endsBlank false (text.take i) = true ∧ isBlank text[i] = true := by
        rw [Edge, not_and] at edge
        have both := edge inside
        rw [not_or, Bool.not_eq_false, Bool.not_eq_false, List.drop_eq_getElem_cons less] at both
        exact both
      have same : squeezedOffset text (i + 1) = squeezedOffset text i := by
        rw [squeezedOffset, List.take_succ_eq_append_getElem less, squeezed, squeezeFrom_append, blank.1]
        simp [squeezeFrom, blank.2, squeezedOffset, squeezed]
      rw [none, ← same]
      exact scanAt_squeezed visible less
termination_by text.length - i

end ComparisonHit

def Respelling.squeezed {question other : List Char} (single : other = Text.squeezed question) :
    Respelling question other where
  offset := Text.squeezedOffset question
  wording := Text.squeezed
  fits := Text.Edge question
  increasing _ _ first second less := Text.squeezedOffset_lt first second.1 less
  blank := by rw [single, Text.squeezed, Text.all_blank_squeezeFrom]
  tokens := by rw [single, Token.scan_squeezed]
  tokens_fit _ member := Token.scan_edges member
  comparisons comparisons := by
    rw [single, ComparisonHit.scan_eq_scanAt, ComparisonHit.scan_eq_scanAt]
    exact ComparisonHit.scanAt_squeezed (ComparisonHit.phrases_visible comparisons) (Nat.zero_le _)
  comparisons_fit comparisons hit member := by
    obtain ⟨_, inside, found⟩ := ComparisonHit.mem_scanAt (Nat.zero_le _) member
    exact ComparisonHit.foundAt?_edges (ComparisonHit.phrases_visible comparisons) (Nat.le_of_lt inside) found
  phrase := Text.collapse_lower_squeezed

namespace Hit

/-- The length of an occurrence, with every run of blanks in it counted as one character. -/
def squeezedLength {α : Type} (question : List Char) (hit : Hit α) : Nat :=
  (Text.squeezed ((question.drop hit.start).take (hit.stop - hit.start))).length

end Hit

namespace Entity

def withoutPlace (e : Entity) : Entity :=
  { e with text := "", span := ⟨0, 0⟩ }

end Entity

namespace Tagger

/-- Other spacing of a question changes nothing but the texts and the places of its entities, as long as the pass
over phrases does not break and no phrase is longer than one that it crosses because of the blanks in them. -/
theorem tag_squeezed (t : Tagger) (directory : Option Directory) (asker : Asker) (question : String) :
    let v := t.vocabulary
    let names := (t.indexed directory).1
    let tokens := Token.scan question.toList
    let taken := (tablePass v question.toList tokens []).1
    (phrasePass v names asker question.toList tokens taken).2.isOk = true →
      (∀ a ∈ phraseHits v names tokens, ∀ b ∈ phraseHits v names tokens, a.Crosses b →
        (a.stop - a.start < b.stop - b.start ↔
          a.squeezedLength question.toList < b.squeezedLength question.toList)) →
        (t.tag directory asker (String.ofList (Text.squeezed question.toList))).1.map Entity.withoutPlace =
          (t.tag directory asker question).1.map Entity.withoutPlace := by
  intro v names tokens taken unbroken crossing
  have single : (String.ofList (Text.squeezed question.toList)).toList = Text.squeezed question.toList :=
    String.toList_ofList
  let r := Respelling.squeezed single
  have length {hit : Hit PhraseMeaning} (member : hit ∈ phraseHits v names tokens) :
      hit.squeezedLength question.toList = r.offset hit.stop - r.offset hit.start := by
    obtain ⟨_, _, _, _, _, _, nonempty⟩ := phraseHits_aligned member
    have added := Text.squeezedOffset_add (r.phraseHits_fit member).1 (hit.stop - hit.start)
    rw [Nat.add_sub_cancel' (Nat.le_of_lt nonempty)] at added
    show _ = Text.squeezedOffset question.toList hit.stop - Text.squeezedOffset question.toList hit.start
    rw [added, Nat.add_sub_cancel_left]
    rfl
  have moved := r.tag_map t directory asker fun taken' fits same => by
    cases found : (phrasePass v names asker question.toList tokens taken).2 with
    | error fault =>
      rw [found] at unbroken
      cases unbroken
    | ok entities =>
      refine r.agrees_phrasePass v names asker fits same found fun a memberA b memberB crosses => ?_
      rw [← length memberA, ← length memberB]
      exact crossing a memberA b memberB crosses
  rw [moved, List.map_map]
  rfl

def crossingLexicon : Lexicon :=
  { tables := [{ table := "tasks" }]
    synonyms := { status := [("on_hold", ["on hold"])], location := [("traffic", ["hold up"])] } }

theorem single_phrase_spaced :
    let t := Tagger.ofLexicon crossingLexicon
    let asker : Asker := { now := .midnight ⟨2024, 6, 12⟩ }
    let spaced := (t.tag none asker "on  hold").1
    let single := (t.tag none asker (String.ofList (Text.squeezed "on  hold".toList))).1
    spaced.map (fun e => (e.text, e.span)) = [("on  hold", ⟨0, 8⟩)] ∧
      single.map Entity.withoutPlace = spaced.map Entity.withoutPlace := by
  intro t asker spaced single
  have found : spaced.map (fun e => (e.text, e.span)) = [("on  hold", ⟨0, 8⟩)] := by decide +kernel
  exact ⟨found, t.tag_squeezed none asker "on  hold" (by decide +kernel) (by decide +kernel)⟩

theorem longestFirst_pair {α : Type} (a b : Hit α) :
    Hit.longestFirst [a, b] = if a.precedes b then [a, b] else [b, a] := by
  simp [Hit.longestFirst, List.mergeSort, List.merge]

def keywordHit (hit : Hit Keyword) : Hit PhraseMeaning :=
  { hit with meaning := .keyword hit.meaning }

theorem passesOver_pair {t : Tagger} (asker : Asker) {question : String} {a b : Hit Keyword}
    (visible : Text.isBlankText question = false)
    (hits : t.vocabulary.phrases.hits (Token.scan question.toList) = [a, b]) :
    let v := t.vocabulary
    let text := question.toList
    let tokens := Token.scan text
    t.passesOver none asker question =
      [tablePass v text tokens,
        fun claims => (phraseCourse asker.now).sweep text claims
          (if a.precedes b then [keywordHit a, keywordHit b] else [keywordHit b, keywordHit a]),
        namePass v none text tokens, pronounPass v asker text tokens, temporalPass v asker text tokens,
        comparisonPass v text, keywordPass v asker text tokens] := by
  intro v text tokens
  have sorted : Hit.longestFirst (phraseHits v {} tokens) =
      if a.precedes b then [keywordHit a, keywordHit b] else [keywordHit b, keywordHit a] := by
    rw [phraseHits, Phrasebook.hits_empty, List.nil_append, hits]
    exact longestFirst_pair (keywordHit a) (keywordHit b)
  rw [passesOver, visible, if_neg Bool.false_ne_true, ← sorted]
  rfl

theorem tag_single {β : Type} {f : Entity → β} {t : Tagger} {asker : Asker} {question : String} {x : β}
    (found : (Pass.run (t.passesOver none asker question) []).2.map f = [x]) :
    (t.tag none asker question).1.map f = [x] := by
  obtain ⟨e, single, rfl⟩ := List.map_eq_singleton_iff.mp found
  rw [t.tag_eq, single, Entity.inOrder, List.mergeSort_singleton]
  rfl

/-- With one more space the second of two phrases is the longer one, and takes the word that they share. -/
theorem crossing_reread :
    let t := Tagger.ofLexicon crossingLexicon
    let asker : Asker := { now := .midnight ⟨2024, 6, 12⟩ }
    String.ofList (Text.squeezed "on hold  up".toList) = "on hold up" ∧
      (t.tag none asker "on hold up").1.map (fun e => (e.kind, e.span)) = [(.statusFilter, ⟨0, 7⟩)] ∧
        (t.tag none asker "on hold  up").1.map (fun e => (e.kind, e.span)) = [(.locationFilter, ⟨3, 11⟩)] := by
  intro t asker
  let hold : Hit Keyword := ⟨0, 1, 0, 7, ⟨.statusFilter, "on_hold", some "status"⟩⟩
  let traffic (stop : Nat) : Hit Keyword := ⟨1, 2, 3, stop, ⟨.locationFilter, "traffic", none⟩⟩
  have single : t.vocabulary.phrases.hits (Token.scan "on hold up".toList) = [hold, traffic 10] := by
    decide +kernel
  have spaced : t.vocabulary.phrases.hits (Token.scan "on hold  up".toList) = [hold, traffic 11] := by
    decide +kernel
  refine ⟨by decide +kernel, tag_single ?_, tag_single ?_⟩
  · rw [passesOver_pair asker (by decide +kernel) single]
    decide +kernel
  · rw [passesOver_pair asker (by decide +kernel) spaced]
    decide +kernel

end Tagger

end TableTalk
