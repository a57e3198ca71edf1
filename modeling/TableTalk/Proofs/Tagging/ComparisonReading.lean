import TableTalk.Proofs.Tagging.Comparisons
import TableTalk.Proofs.Tagging.LetterCase
import TableTalk.Proofs.Tagging.NumeralValues
import TableTalk.Proofs.Tagging.Quiet

namespace TableTalk

open Text

namespace Token

theorem scan_gap {blank : Char} (isBlank : isBlank blank = true) (front back : List Char) :
    (scan (front ++ blank :: back)).map text = (scan front).map text ++ (scan back).map text := by
  have chars (i : Nat) : (runsFrom isTokenChar i back).map (text ∘ ofRun) =
      (runs isTokenChar back).map (text ∘ ofRun) := by
    have same := congrArg (List.map fun chars => String.ofList (chars.map Char.toLower))
      (runsFrom_chars isTokenChar i back)
    rw [List.map_map, List.map_map] at same
    exact same
  rw [scan, scan, scan, runs, runsFrom_gap (isTokenChar_blank isBlank)]
  simp only [List.map_append, List.map_map, chars]
  rfl

end Token

def IsNumberWord (word : String) : Prop :=
  word ≠ "" ∧ ∀ c ∈ word.toList, c.isDigit = true

instance (word : String) : Decidable (IsNumberWord word) :=
  @instDecidableAnd _ _ _ (List.decidableBAll _ word.toList)

theorem Token.scan_numbers {text : List Char}
    (plain : ∀ c ∈ text, isBlank c = true ∨ c.isDigit = true ∨ c = ',') :
    ∀ token ∈ scan text, IsNumberWord token.text := by
  intro token member
  obtain ⟨run, inside, rfl⟩ := List.mem_map.mp member
  obtain ⟨chars, letters, nonempty⟩ := runs_chars inside
  refine ⟨?_, ?_⟩
  · intro none
    have empty := congrArg String.toList none
    rw [ofRun, String.toList_ofList] at empty
    exact nonempty (List.map_eq_nil_iff.mp empty)
  · intro c among
    rw [ofRun, String.toList_ofList] at among
    obtain ⟨d, there, rfl⟩ := List.mem_map.mp among
    have letter := letters d there
    rw [← chars] at there
    rcases plain d (List.mem_of_mem_drop (List.mem_of_mem_take there)) with blank | digit | rfl
    · rw [isTokenChar_blank blank] at letter
      cases letter
    · have ascii := (alphanum_bounds letter).2
      exact ascii_all (P := fun c => c.isDigit = true → c.toLower.isDigit = true) (by decide) ascii digit
    · exact absurd letter (by decide)

structure IsPlainPhrase (p : List Char) : Prop where
  nonempty : p ≠ []
  letters : ∀ c ∈ p, c.isAlpha = true ∨ isBlank c = true
  front : startsBlank p = false
  back : endsBlank false p = false

theorem alpha_ascii {c : Char} (letter : c.isAlpha = true) : c.toNat < 128 :=
  (alphanum_bounds (c := c) (by simp [Char.isAlphanum, letter])).2

namespace IsPlainPhrase

variable {p : List Char} (plain : IsPlainPhrase p)

include plain

theorem starts : ∃ c rest, p = c :: rest ∧ isBlank c = false ∧ c.isAlpha = true := by
  obtain ⟨c, rest, rfl⟩ := List.exists_cons_of_ne_nil plain.nonempty
  have shown : isBlank c = false := plain.front
  exact ⟨c, rest, rfl, shown, (plain.letters c List.mem_cons_self).resolve_right (by simp [shown])⟩

theorem lowerFrom (letterBefore : Bool) : lowerFrom letterBefore p = uncased p := by
  have letters := plain.letters
  clear plain
  induction p generalizing letterBefore with
  | nil => rfl
  | cons c rest ih =>
    obtain ⟨here, later⟩ := List.forall_mem_cons.mp letters
    rcases here with letter | blank
    · have ascii := alpha_ascii letter
      have other : c ≠ capitalSigma := by
        rintro rfl
        exact absurd ascii (by decide)
      rw [Text.lowerFrom, if_neg other, lowerForm_ascii ascii, ih _ later]
      rfl
    · have same : c.toLower = c := toLower_of_not_alphanum (isTokenChar_blank blank)
      rw [lowerFrom_blank blank, ih _ later, uncased, uncased, List.map_cons, same]

theorem unhidden : ∀ c ∈ p, isHiddenLetter c = false := by
  intro c member
  rw [Bool.eq_false_iff]
  intro hidden
  rcases plain.letters c member with letter | blank
  · have none := not_alphanum_of_hidden hidden
    simp [Char.isAlphanum, letter] at none
  · have visible : Text.lowerForm c = [c] := lowerForm_blank blank
    rcases lowerForm_hidden hidden with dotted | kelvin
    · rw [visible] at dotted
      cases dotted
    · rw [visible] at kelvin
      cases kelvin
      exact absurd blank (by decide)

theorem not_decimal : ∀ c ∈ p, isDecimal c = false := by
  intro c member
  rcases plain.letters c member with letter | blank
  · exact ascii_all (P := fun c => c.isAlpha = true → isDecimal c = false) (by decide) (alpha_ascii letter) letter
  · exact isDecimal_blank blank

theorem scan_numbers {blank : Char} (isBlank : Text.isBlank blank = true) {back : List Char}
    (numbers : ∀ c ∈ back, Text.isBlank c = true ∨ c.isDigit = true ∨ c = ',') :
    ∀ token ∈ Token.scan (p ++ blank :: back), token.text ∈ wordsOf (String.ofList p) ∨ IsNumberWord token.text := by
  intro token member
  have words := (Token.scan_eq_words_iff (String.ofList p)).mpr (by rw [String.toList_ofList]; exact plain.unhidden)
  have among := List.mem_map_of_mem (f := Token.text) member
  rw [Token.scan_gap isBlank, List.mem_append] at among
  rw [String.toList_ofList] at words
  rcases among with first | second
  · rw [words] at first
    exact Or.inl first
  · obtain ⟨other, inside, same⟩ := List.mem_map.mp second
    rw [← same]
    exact Or.inr (Token.scan_numbers numbers other inside)

end IsPlainPhrase

namespace NumeralForm

theorem chars_cons (f : NumeralForm) : ∃ c rest, f.chars = c :: rest ∧ isDecimal c = true := by
  obtain ⟨c, rest, lead⟩ := List.exists_cons_of_ne_nil f.nonempty
  refine ⟨c, rest ++ (joined f.groups ++ pointed f.fraction), ?_, f.leading c (lead ▸ List.mem_cons_self)⟩
  rw [chars, whole, lead, List.append_assoc, List.cons_append]

theorem startsBlank_chars (f : NumeralForm) : startsBlank f.chars = false := by
  obtain ⟨c, rest, same, digit⟩ := f.chars_cons
  rw [same]
  exact not_blank_of_decimal digit

theorem numeral_chars (f : NumeralForm) : ∀ c ∈ f.chars, ComparisonHit.isNumeralChar c = true := by
  have numeral := ComparisonHit.numeralLength?_numeral (ComparisonHit.numeralLength?_chars f)
  intro c member
  exact numeral c (by rwa [List.take_length])

theorem uncased_chars (f : NumeralForm) : uncased f.chars = f.chars :=
  (List.map_congr_left fun c member => ComparisonHit.isNumeralChar_toLower (f.numeral_chars c member)).trans
    (List.map_id _)

theorem visible_chars (f : NumeralForm) : ∀ c ∈ f.chars, isBlank c = false := by
  intro c member
  have numeral := f.numeral_chars c member
  simp only [ComparisonHit.isNumeralChar, Bool.or_eq_true, beq_iff_eq] at numeral
  rcases numeral with (digit | rfl) | rfl
  · exact not_blank_of_decimal digit
  · decide
  · decide

theorem starts_unique {front front' blanks behind : List Char} {f f' : NumeralForm}
    (undigited : ∀ c ∈ front, isDecimal c = false) (apart : blanks ≠ []) (blank : ∀ c ∈ blanks, isBlank c = true)
    (same : front ++ f.chars = (front' ++ blanks) ++ (f'.chars ++ behind)) :
    front = front' ++ blanks ∧ f.chars = f'.chars ++ behind := by
  rcases List.append_eq_append_iff.mp same with ⟨more, first, rest⟩ | ⟨more, first, rest⟩
  · -- the blanks do not reach into the numeral
    have shown : ∀ c ∈ more, isBlank c = false := fun c member =>
      f.visible_chars c (rest ▸ List.mem_append_left _ member)
    by_cases nothing : more = []
    · rw [nothing, List.append_nil] at first
      rw [nothing] at rest
      exact ⟨first.symm, rest⟩
    · have visible : endsBlank false (front' ++ blanks) = false := by
        rw [first, endsBlank_append]
        exact endsBlank_all_visible shown (Or.inr nothing)
      exact absurd (no_blanks_behind visible blank) apart
  · -- the other one does not start before its first digit
    cases more with
    | nil => exact ⟨by rw [first, List.append_nil], rest.symm⟩
    | cons c more =>
      obtain ⟨d, digits, written, digit⟩ := f'.chars_cons
      rw [written, List.cons_append, List.cons_append] at rest
      rw [(List.cons.inj rest).1, undigited c (by simp [first])] at digit
      cases digit

end NumeralForm

theorem IsPlainPhrase.squeezed_number {p blanks : List Char} (plain : IsPlainPhrase p) (nonempty : blanks ≠ [])
    (blank : ∀ c ∈ blanks, isBlank c = true) (f : NumeralForm) :
    squeezed (uncased (p ++ (blanks ++ f.chars))) = (collapse (lower (String.ofList p))).toList ++ ' ' :: f.chars := by
  have front := (startsBlank_lowerFrom false p).trans plain.front
  have back := (endsBlank_lowerFrom false false p).trans plain.back
  rw [plain.lowerFrom] at front back
  have same : uncased blanks = blanks :=
    (List.map_congr_left fun c member => toLower_of_not_alphanum (isTokenChar_blank (blank c member))).trans
      (List.map_id _)
  have split : uncased (p ++ (blanks ++ f.chars)) = uncased p ++ (uncased blanks ++ uncased f.chars) := by
    rw [uncased, List.map_append, List.map_append]
    rfl
  have numeral : squeezed f.chars = f.chars := squeezeFrom_all_visible f.visible_chars false
  rw [split, same, f.uncased_chars, squeezed_append (Or.inl back),
    squeezed_blanks nonempty blank f.startsBlank_chars, numeral, lower, lowerChars, toList_collapse,
    String.toList_ofList, String.toList_ofList, plain.lowerFrom, joined_fieldsOf back, squeezeFrom_visible front]

namespace ComparisonHit

theorem literal?_front (literal rest : List Char) : literal? literal (literal ++ rest) = some rest := by
  induction literal with
  | nil => cases rest <;> rfl
  | cons c literal ih =>
    have same : alike c c = true := by simp [alike]
    rw [List.cons_append, literal?, if_pos same, ih]

theorem blanks?_front {blanks rest : List Char} (nonempty : blanks ≠ []) (blank : ∀ c ∈ blanks, isBlank c = true)
    (visible : startsBlank rest = false) : blanks? (blanks ++ rest) = some rest := by
  obtain ⟨c, more, rfl⟩ := List.exists_cons_of_ne_nil nonempty
  obtain ⟨here, later⟩ := List.forall_mem_cons.mp blank
  rw [List.cons_append, blanks?, if_pos here, List.dropWhile_append_of_pos later, dropWhile_blank_visible visible]

theorem words?_front {words : List (List Char)} (visible : ∀ word ∈ words, Visible word) (rest : List Char) :
    words? words ([' '].intercalate words ++ rest) = some rest := by
  induction words with
  | nil => cases rest <;> rfl
  | cons word more ih =>
    obtain ⟨here, later⟩ := List.forall_mem_cons.mp visible
    cases more with
    | nil =>
      rw [List.intercalate_singleton]
      exact literal?_front word rest
    | cons other others =>
      have next : startsBlank ([' '].intercalate (other :: others) ++ rest) = false := by
        obtain ⟨nonempty, shown⟩ := later other List.mem_cons_self
        obtain ⟨c, letters, rfl⟩ := List.exists_cons_of_ne_nil nonempty
        have first : isBlank c = false := shown c List.mem_cons_self
        cases others with
        | nil =>
          rw [List.intercalate_singleton]
          exact first
        | cons third others =>
          rw [List.intercalate_cons_cons]
          exact first
      have blank := blanks?_front (List.cons_ne_nil ' ' []) (List.forall_mem_singleton.mpr (by decide)) next
      rw [List.intercalate_cons_cons, List.append_assoc, List.append_assoc, words?, literal?_front]
      · simp only [Option.bind_eq_bind, Option.bind_some, blank]
        exact ih later
      · exact List.cons_ne_nil other others

theorem atFront?_joined {words : List (List Char)} (visible : ∀ word ∈ words, Visible word) (offset : Nat)
    (f : NumeralForm) : (atFront? offset ([' '].intercalate words ++ ' ' :: f.chars) words).isSome = true := by
  have blank := blanks?_front (List.cons_ne_nil ' ' []) (List.forall_mem_singleton.mpr (by decide)) f.startsBlank_chars
  rw [List.singleton_append] at blank
  simp [atFront?, words?_front visible, blank, numeralLength?_chars]

theorem Stands.unique {p blanks blanks' behind : List Char} {f f' : NumeralForm} {hit : ComparisonHit}
    (plain : IsPlainPhrase p) (blank : ∀ c ∈ blanks, isBlank c = true)
    (stands : Stands (p ++ (blanks ++ f.chars)) [] blanks' f' behind hit) :
    hit = ⟨0, (p ++ (blanks ++ f.chars)).length, p, f.chars⟩ := by
  have whole : (p ++ blanks) ++ f.chars = (hit.phrase ++ blanks') ++ (f'.chars ++ behind) := by
    simpa only [List.nil_append, List.append_assoc] using stands.whole
  have undigited : ∀ c ∈ p ++ blanks, isDecimal c = false :=
    List.forall_mem_append.mpr ⟨plain.not_decimal, fun c between => isDecimal_blank (blank c between)⟩
  obtain ⟨spelled, rest⟩ := NumeralForm.starts_unique undigited stands.apart stands.blank whole
  obtain ⟨phrase, _⟩ := blanks_unique plain.back stands.shown blank stands.blank spelled
  have taken := stands.taken
  have complete := numeralLength?_chars f
  rw [rest, taken] at complete
  have numeral : f.chars = f'.chars := by
    have length := Option.some.inj complete
    rw [List.length_append] at length
    rw [rest, List.length_eq_zero_iff.mp (show behind.length = 0 by omega), List.append_nil]
  obtain ⟨start, stop, _, _⟩ := hit
  have first := stands.start
  have last := stands.stop
  have digits := stands.numeral
  dsimp only at phrase first last digits spelled
  rw [ComparisonHit.mk.injEq]
  refine ⟨first, ?_, phrase.symm, digits.trans numeral.symm⟩
  rw [last, numeral, List.length_nil, Nat.zero_add, ← List.append_assoc, ← List.append_assoc, spelled]

theorem scan_plain {comparisons : List (String × Bound)} {entry : String × Bound} (member : entry ∈ comparisons)
    {p : List Char} (plain : IsPlainPhrase p) (named : collapse entry.1 = collapse (lower (String.ofList p)))
    {blanks : List Char} (nonempty : blanks ≠ []) (blank : ∀ c ∈ blanks, isBlank c = true) (f : NumeralForm) :
    scan comparisons (p ++ (blanks ++ f.chars)) = [⟨0, (p ++ (blanks ++ f.chars)).length, p, f.chars⟩] := by
  have single := plain.squeezed_number nonempty blank f
  rw [← named, toList_collapse] at single
  have front : (atFront? 0 (p ++ (blanks ++ f.chars)) (fieldsOf entry.1.toList)).isSome = true := by
    have joined := atFront?_joined (fieldsOf_visible entry.1.toList) 0 f
    rwa [← single, atFront?_squeezed (fieldsOf_visible _) 0 0, Option.isSome_map, atFront?_uncased,
      Option.isSome_map] at joined
  obtain ⟨c, rest, letters, shown, letter⟩ := plain.starts
  have edge : isBoundary none (p ++ (blanks ++ f.chars)).head? = true := by
    have word : isWordChar c = true :=
      ascii_all (P := fun c => c.isAlpha = true → isWordChar c = true) (by decide) (alpha_ascii letter) letter
    simp [isBoundary, letters, word]
  obtain ⟨hit, found⟩ : ∃ hit, foundAt? (comparisons.map fun entry => fieldsOf entry.1.toList)
      (p ++ (blanks ++ f.chars)) 0 = some hit := by
    rw [← Option.isSome_iff_exists, foundAt?, List.take_zero, List.drop_zero, List.getLast?_nil, if_pos edge,
      List.findSome?_isSome_iff]
    exact ⟨_, List.mem_map_of_mem member, front⟩
  obtain ⟨_, words, declared, atFront⟩ := foundAt?_front found
  obtain ⟨blanks', f', behind, stands⟩ := atFront?_stands (phrases_visible comparisons words declared) [] atFront
  rw [List.nil_append, List.drop_zero] at stands
  have inside : 0 < (p ++ (blanks ++ f.chars)).length := by
    rw [letters]
    exact Nat.succ_pos _
  rw [scan_eq_scanAt, scanAt_next _ inside, found, stands.unique plain blank]
  simp only [scanAt_end]

end ComparisonHit

def Bound.operator : Bound → Operator
  | .above => .gt
  | .below => .lt

def Lexicon.Compares (l : Lexicon) (text : String) (bound : Bound) : Prop :=
  ∃ phrases, (bound, phrases) ∈ l.comparisons ∧ ∃ phrase ∈ phrases, collapse (lower phrase) = collapse (lower text)

theorem Lexicon.compares_iff {l : Lexicon} {text : String} {bound : Bound} :
    l.Compares text bound ↔
      ∃ entry ∈ l.comparisonPhrases, collapse entry.1 = collapse (lower text) ∧ entry.2 = bound := by
  simp only [comparisonPhrases, List.mem_mergeSort, List.mem_flatMap, List.mem_map]
  constructor
  · rintro ⟨phrases, declared, phrase, listed, same⟩
    exact ⟨_, ⟨(bound, phrases), declared, phrase, listed, rfl⟩, same, rfl⟩
  · rintro ⟨_, ⟨⟨bound, phrases⟩, declared, phrase, listed, rfl⟩, same, rfl⟩
    exact ⟨phrases, declared, phrase, listed, same⟩

/-- A phrase of letters that is listed for one direction, up to case and spacing, and shares no word with the
vocabulary. -/
structure Lexicon.ComparesOnly (l : Lexicon) (p : List Char) (bound : Bound) : Prop where
  plain : IsPlainPhrase p
  compares : l.Compares (String.ofList p) bound
  only : ∀ other, l.Compares (String.ofList p) other → other = bound
  unknown : ∀ word ∈ wordsOf (String.ofList p), word ∉ l.vocabularyWords

/-- An entity with a phrase, blanks and a numeral for its text, that compares with the number of the numeral in a
direction that the phrase is listed for. -/
structure Lexicon.Reads (l : Lexicon) (phrase blanks : List Char) (f : NumeralForm) (bound : Bound) (e : Entity) :
    Prop where
  text : e.text = String.ofList (phrase ++ (blanks ++ f.chars))
  compares : l.Compares (String.ofList phrase) bound
  apart : blanks ≠ []
  blank : ∀ c ∈ blanks, isBlank c = true
  canonical : e.canonical = .comparison ⟨bound.operator, f.value⟩

namespace ComparisonHit

variable {l : Lexicon} {hit : ComparisonHit} {bound : Bound}

theorem compares_of_bound? (found : hit.bound? l.comparisonPhrases = some bound) :
    l.Compares (String.ofList hit.phrase) bound := by
  obtain ⟨entry, among, direction⟩ := Option.map_eq_some_iff.mp found
  have same := List.find?_some among
  exact Lexicon.compares_iff.mpr ⟨entry, List.mem_reverse.mp (List.mem_of_find?_eq_some among), beq_iff_eq.mp same,
    direction⟩

theorem bound?_of_compares (compares : l.Compares (String.ofList hit.phrase) bound)
    (only : ∀ other, l.Compares (String.ofList hit.phrase) other → other = bound) :
    hit.bound? l.comparisonPhrases = some bound := by
  obtain ⟨entry, listed, same, _⟩ := Lexicon.compares_iff.mp compares
  have some : (hit.bound? l.comparisonPhrases).isSome = true := by
    rw [bound?, Option.isSome_map, List.find?_isSome]
    exact ⟨entry, List.mem_reverse.mpr listed, beq_iff_eq.mpr same⟩
  obtain ⟨other, found⟩ := Option.isSome_iff_exists.mp some
  rw [found, only other (compares_of_bound? found)]

end ComparisonHit

namespace Tagger

theorem comparisonEntity_ok (p : Part) {comparisons : List (String × Bound)} {hit : ComparisonHit} {bound : Bound}
    {value : Value} (direction : hit.bound? comparisons = some bound) (number : hit.number = .ok value) :
    ∃ e, comparisonEntity p comparisons hit = .ok (some e) ∧ e.text = p.text ∧
      e.canonical = .comparison ⟨bound.operator, value⟩ := by
  rw [comparisonEntity, direction]
  dsimp only
  rw [number]
  cases bound <;> exact ⟨_, rfl, rfl, rfl⟩

theorem comparisonEntity_some {p : Part} {comparisons : List (String × Bound)} {hit : ComparisonHit} {e : Entity}
    (made : comparisonEntity p comparisons hit = .ok (some e)) :
    ∃ bound value, hit.bound? comparisons = some bound ∧ hit.number = .ok value ∧ e.text = p.text ∧
      e.canonical = .comparison ⟨bound.operator, value⟩ := by
  cases direction : hit.bound? comparisons with
  | none => simp [comparisonEntity, direction] at made
  | some bound =>
    cases number : hit.number with
    | error fault => simp [comparisonEntity, direction, number] at made
    | ok value =>
      obtain ⟨other, same, text, canonical⟩ := comparisonEntity_ok p direction number
      cases made.symm.trans same
      exact ⟨bound, value, rfl, rfl, text, canonical⟩

theorem comparisonPass_single {v : Vocabulary} {question : List Char} {hit : ComparisonHit} {e : Entity}
    (scan : ComparisonHit.scan v.comparisons question = [hit])
    (made : comparisonEntity (part question hit.start hit.stop) v.comparisons hit = .ok (some e)) :
    (Pass.returned (comparisonPass v question [])).2 = [e] := by
  rw [comparisonPass, scan, Claims.sweep, made]
  rfl

variable {t : Tagger} {l : Lexicon}

theorem numericFilter_reads (serves : t.Serves l) (directory : Option Directory) (asker : Asker) (question : String) :
    ∀ e ∈ (t.tag directory asker question).1, e.kind = .numericFilter →
      ∃ phrase blanks f bound, l.Reads phrase blanks f bound e := by
  intro e member kind
  obtain ⟨hit, among, made⟩ := numericFilter_hit serves directory asker question e member kind
  obtain ⟨front, blanks, f, behind, stands⟩ := ComparisonHit.scan_stands among
  obtain ⟨bound, value, direction, number, text, canonical⟩ := comparisonEntity_some made
  rw [ComparisonHit.number_form stands.numeral] at number
  split at number
  · cases number
  · cases number
    refine ⟨hit.phrase, blanks, f, bound, ?_, ComparisonHit.compares_of_bound? direction, stands.apart, stands.blank,
      canonical⟩
    rw [text, part, slice, stands.start, stands.stop, stands.whole, List.drop_left, Nat.add_sub_cancel_left,
      ← List.append_assoc blanks, ← List.append_assoc hit.phrase (blanks ++ f.chars), List.take_left]

theorem tag_comparison (serves : t.Serves l) (asker : Asker) {p blanks : List Char} {bound : Bound}
    (known : l.ComparesOnly p bound) (nonempty : blanks ≠ []) (blank : ∀ c ∈ blanks, isBlank c = true) (f : NumeralForm)
    (short : f.fraction = [] → f.digits.length ≤ Decimal.maxIntegerDigits) {question : List Char}
    (written : question = p ++ (blanks ++ f.chars))
    (quiet : ∀ token ∈ Token.scan question, token.text ∉ l.vocabularyWords) :
    ∃ e, (t.tag none asker (String.ofList question)).1 = [e] ∧ e.kind = .numericFilter ∧ e.span = ⟨0, question.length⟩ ∧
      l.Reads p blanks f bound e := by
  obtain ⟨plain, compares, only, _⟩ := known
  obtain ⟨entry, listed, named, _⟩ := Lexicon.compares_iff.mp compares
  have scan := ComparisonHit.scan_plain listed plain named nonempty blank f
  rw [← written] at scan
  have direction : (ComparisonHit.mk 0 question.length p f.chars).bound? l.comparisonPhrases = some bound :=
    ComparisonHit.bound?_of_compares compares only
  have number : (ComparisonHit.mk 0 question.length p f.chars).number = .ok f.value := by
    rw [ComparisonHit.number_form rfl, if_neg fun both => Nat.not_lt.mpr (short both.1) both.2]
  obtain ⟨e, made, text, canonical⟩ := comparisonEntity_ok (part question 0 question.length) direction number
  obtain ⟨⟨_, place⟩, kind⟩ := comparisonEntity_isAt made
  have whole : slice question 0 question.length = String.ofList question := by
    rw [slice, List.drop_zero, Nat.sub_zero, List.take_length]
  have visible : isBlankText (String.ofList question) = false := by
    obtain ⟨c, rest, letters, shown, _⟩ := plain.starts
    rw [isBlankText, String.toList_ofList, List.all_eq_false, written]
    exact ⟨c, List.mem_append_left _ (letters ▸ List.mem_cons_self), by simp [shown]⟩
  refine ⟨e, ?_, kind, place, text.trans (whole.trans (congrArg String.ofList written)), compares, nonempty, blank,
    canonical⟩
  rw [tag_quiet serves asker visible (by rwa [String.toList_ofList]), String.toList_ofList,
    comparisonPass_single scan made, Entity.inOrder, List.mergeSort_singleton]

/-- A phrase that is listed for one direction, blanks and a natural number are read as the comparison with that number,
if neither the words of the phrase nor numbers are words of the vocabulary. And whatever is read as a comparison, with
known names or without, is a phrase, blanks and a numeral, compared in a direction that the phrase is listed for and
with the number that the numeral stands for. -/
theorem comparison_reading (serves : t.Serves l) (asker : Asker) :
    ((∀ word ∈ l.vocabularyWords, ¬ IsNumberWord word) → ∀ p bound, l.ComparesOnly p bound →
      ∀ n blanks numeral, (Nat.toDigits 10 n).length ≤ Decimal.maxIntegerDigits → IsWritten n numeral → blanks ≠ [] →
        (∀ c ∈ blanks, isBlank c = true) → let question := String.ofList (p ++ (blanks ++ numeral))
          ∃ e, (t.tag none asker question).1 = [e] ∧ e.kind = .numericFilter ∧ e.text = question ∧
            e.span = ⟨0, question.length⟩ ∧ e.canonical = .comparison ⟨bound.operator, .int n⟩) ∧
      ∀ directory question, ∀ e ∈ (t.tag directory asker question).1, e.kind = .numericFilter →
        ∃ phrase blanks f bound, l.Reads phrase blanks f bound e := by
  refine ⟨?_, fun directory question => numericFilter_reads serves directory asker question⟩
  intro unnumbered p bound known n blanks numeral short written nonempty blank question
  obtain ⟨f, rfl, digits, whole⟩ := NumeralForm.written_form written
  have quiet : ∀ token ∈ Token.scan (p ++ (blanks ++ f.chars)), token.text ∉ l.vocabularyWords := by
    obtain ⟨first, more, rfl⟩ := List.exists_cons_of_ne_nil nonempty
    obtain ⟨here, later⟩ := List.forall_mem_cons.mp blank
    have numbers : ∀ c ∈ more ++ f.chars, isBlank c = true ∨ c.isDigit = true ∨ c = ',' := fun c member =>
      (List.mem_append.mp member).imp (later c) (written.digit_or_comma c)
    intro token member
    rcases known.plain.scan_numbers here numbers token member with word | number
    · exact known.unknown token.text word
    · exact fun listed => unnumbered token.text listed number
  obtain ⟨e, single, kind, place, reads⟩ :=
    tag_comparison serves asker known nonempty blank f (fun _ => digits ▸ short) rfl quiet
  have canonical := reads.canonical
  rw [NumeralForm.value_natural digits whole] at canonical
  exact ⟨e, single, kind, reads.text, by rw [place, String.length_ofList], canonical⟩

theorem comparison_reading_thousand :
    ∃ e, ((ofLexicon aboveLexicon).tag none dayAsker "above 1,000").1 = [e] ∧ e.kind = .numericFilter ∧
      e.span = ⟨0, 11⟩ ∧ e.canonical = .comparison ⟨.gt, .int 1000⟩ ∧
        ∃ phrase blanks f bound, aboveLexicon.Reads phrase blanks f bound e := by
  obtain ⟨forward, backward⟩ := comparison_reading (serves_ofLexicon aboveLexicon) dayAsker
  have known : aboveLexicon.ComparesOnly "above".toList .above := by
    have letters : ("above".toList.all fun c => c.isAlpha || isBlank c) = true := by decide
    refine ⟨⟨by decide, fun c member => ?_, by decide, by decide⟩, ?_, ?_, by decide +kernel⟩
    · exact (Bool.or_eq_true _ _).mp (List.all_eq_true.mp letters c member)
    · exact ⟨["above"], List.mem_singleton_self _, "above", List.mem_singleton_self _, rfl⟩
    · rintro other ⟨phrases, declared, _⟩
      exact congrArg Prod.fst (List.mem_singleton.mp declared)
  obtain ⟨e, single, kind, _, place, canonical⟩ := forward (by decide +kernel) _ _ known 1000 [' '] "1,000".toList
    (by decide) (Or.inr (by decide)) (List.cons_ne_nil ' ' []) (List.forall_mem_singleton.mpr (by decide))
  have question : String.ofList ("above".toList ++ ([' '] ++ "1,000".toList)) = "above 1,000" := by decide
  rw [question] at single place
  have member : e ∈ ((ofLexicon aboveLexicon).tag none dayAsker "above 1,000").1 := by
    rw [single]
    exact List.mem_singleton_self e
  exact ⟨e, single, kind, place, canonical, backward none _ e member kind⟩

end Tagger

end TableTalk
