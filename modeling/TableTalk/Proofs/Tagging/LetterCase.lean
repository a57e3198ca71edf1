import TableTalk.Filter.Compile
import TableTalk.Proofs.Routing
import TableTalk.Proofs.Tagging.Numerals
import TableTalk.Proofs.Tagging.Respelling
import TableTalk.Proofs.Text.LetterCase

namespace TableTalk

namespace ComparisonHit

open Text

theorem literal?_uncased (literal text : List Char) :
    literal? literal (uncased text) = (literal? literal text).map uncased := by
  fun_induction literal? literal text with
  | case1 text => rfl
  | case2 => rfl
  | case3 c literal d text same ih =>
    rw [← alike_toLower] at same
    rw [uncased] at ih
    rw [uncased, List.map_cons, literal?, if_pos same, ih]
  | case4 c literal d text other =>
    rw [← alike_toLower] at other
    rw [uncased, List.map_cons, literal?, if_neg other]
    rfl

theorem blanks?_uncased (text : List Char) : blanks? (uncased text) = (blanks? text).map uncased := by
  cases text with
  | nil => rfl
  | cons c rest =>
    have behind := uncased_dropWhile isBlank_toLower rest
    rw [uncased] at behind
    rw [uncased, List.map_cons, blanks?, blanks?, isBlank_toLower, behind]
    cases isBlank c <;> rfl

theorem words?_uncased (words : List (List Char)) (text : List Char) :
    words? words (uncased text) = (words? words text).map uncased := by
  fun_induction words? words text with
  | case1 text => rfl
  | case2 word text => exact literal?_uncased word text
  | case3 word others text more ih =>
    rw [words?, literal?_uncased]
    · cases literal? word text with
      | none => rfl
      | some behind =>
        simp only [Option.map_some, Option.bind_eq_bind, Option.bind_some, blanks?_uncased]
        cases blanks? behind with
        | none => rfl
        | some next => exact ih next
    · exact more

theorem toLower_comma (c : Char) : c.toLower = ',' ↔ c = ',' :=
  toLower_eq_iff (by decide) c

theorem toLower_point (c : Char) : c.toLower = '.' ↔ c = '.' :=
  toLower_eq_iff (by decide) c

theorem groupEnds_uncased (taken : Nat) (text : List Char) :
    groupEnds taken (uncased text) = groupEnds taken text := by
  induction taken, text using groupEnds.induct with
  | case1 taken a b c rest digits ih =>
    rw [groupEnds_eq, groupEnds_eq taken]
    rw [uncased] at ih
    simp only [uncased, List.map_cons, isDecimal_toLower, toLower_comma, ih]
  | case2 taken a b c rest digits =>
    rw [groupEnds_eq, groupEnds_eq taken]
    simp [uncased, isDecimal_toLower, digits]
  | case3 text taken shape =>
    rw [groupEnds_eq, groupEnds_eq taken]
    rcases text with _ | ⟨comma, _ | ⟨a, _ | ⟨b, _ | ⟨c, rest⟩⟩⟩⟩
    · rfl
    · rfl
    · rfl
    · rfl
    · have other : comma ≠ ',' := fun same => shape a b c rest (by rw [same])
      simp [uncased, toLower_comma, other]

theorem wholeLengths_uncased (text : List Char) : wholeLengths (uncased text) = wholeLengths text := by
  unfold wholeLengths
  simp only [uncased_takeWhile isDecimal_toLower, length_uncased, uncased_drop, groupEnds_uncased]

theorem withFraction_uncased (text : List Char) (whole : Nat) :
    withFraction (uncased text) whole = withFraction text whole := by
  rw [withFraction_eq, withFraction_eq, uncased_drop]
  cases text.drop whole with
  | nil => rfl
  | cons point rest =>
    have digits := uncased_takeWhile isDecimal_toLower rest
    rw [uncased] at digits
    simp only [uncased, List.map_cons, toLower_point, digits, List.length_map]

theorem numeralLength?_uncased (text : List Char) : numeralLength? (uncased text) = numeralLength? text := by
  unfold numeralLength?
  rw [wholeLengths_uncased]
  congr 1
  funext whole
  rw [withFraction_uncased]
  congr 1
  funext n
  rw [uncased_take, uncased_drop, uncased, uncased, List.getLast?_map, List.head?_map, isBoundary_toLower]

theorem isNumeralChar_toLower {c : Char} (part : isNumeralChar c = true) : c.toLower = c := by
  by_cases small : c.toNat < 128
  · exact ascii_all (P := fun c => isNumeralChar c = true → c.toLower = c) (by decide) small part
  · exact toLower_of_not_ascii small

theorem uncased_numeral {text : List Char} {n : Nat} (numeral : Numeral text n) :
    uncased (text.take n) = text.take n := by
  rw [uncased]
  exact (List.map_congr_left fun c member => isNumeralChar_toLower (numeral c member)).trans (List.map_id _)

def uncased (hit : ComparisonHit) : ComparisonHit :=
  { hit with phrase := Text.uncased hit.phrase }

theorem atFront?_uncased (offset : Nat) (text : List Char) (phrase : List (List Char)) :
    atFront? offset (Text.uncased text) phrase = (atFront? offset text phrase).map uncased := by
  unfold atFront?
  rw [words?_uncased]
  cases words? phrase text with
  | none => rfl
  | some behind =>
    simp only [Option.map_some, Option.bind_eq_bind, Option.bind_some, blanks?_uncased]
    cases blanks? behind with
    | none => rfl
    | some number =>
      simp only [Option.map_some, Option.bind_some, numeralLength?_uncased]
      cases found : numeralLength? number with
      | none => rfl
      | some length =>
        have numeral := uncased_numeral (numeralLength?_numeral found)
        simp only [Option.bind_some, Option.pure_def, Option.map_some, uncased, length_uncased, uncased_take,
          numeral]

theorem scanFrom_uncased (phrases : List (List (List Char))) (offset : Nat) (before : Option Char)
    (skip : Nat) (text : List Char) :
    scanFrom phrases offset (before.map Char.toLower) skip (Text.uncased text) =
      (scanFrom phrases offset before skip text).map uncased := by
  induction text generalizing offset before skip with
  | nil => rfl
  | cons c rest ih =>
    have later (skip : Nat) := ih (offset + 1) (some c) skip
    simp only [Option.map_some] at later
    have cons : Text.uncased (c :: rest) = c.toLower :: Text.uncased rest := rfl
    cases skip with
    | succ skip =>
      rw [cons, scanFrom, scanFrom]
      exact later skip
    | zero =>
      have front : phrases.findSome? (atFront? offset (c.toLower :: Text.uncased rest)) =
          (phrases.findSome? (atFront? offset (c :: rest))).map uncased := by
        rw [List.map_findSome?, ← cons]
        congr 1
        funext phrase
        exact atFront?_uncased offset (c :: rest) phrase
      have edge := isBoundary_toLower before (some c)
      rw [Option.map_some] at edge
      rw [cons]
      simp only [scanFrom, edge, front]
      cases isBoundary before (some c) with
      | false => exact later 0
      | true =>
        cases phrases.findSome? (atFront? offset (c :: rest)) with
        | none => exact later 0
        | some hit => exact congrArg (uncased hit :: ·) (later (hit.stop - offset - 1))

theorem scan_uncased (comparisons : List (String × Bound)) (text : List Char) :
    scan comparisons (Text.uncased text) = (scan comparisons text).map uncased :=
  scanFrom_uncased _ 0 none 0 text

end ComparisonHit

namespace Entity

def withoutText (e : Entity) : Entity :=
  { e with text := "" }

theorem putOn_withoutText {e : Entity} {p : Tagger.Part} (here : e.span = p.span) :
    (e.putOn p).withoutText = e.withoutText := by
  unfold putOn withoutText
  rw [← here]

end Entity

def Predicate.withoutSource (p : Predicate) : Predicate :=
  { p with sourceText := "" }

def Respelling.uncased {question other : List Char} (small : other = Text.uncased question) :
    Respelling question other where
  offset := id
  wording := Text.uncased
  fits _ := True
  increasing _ _ _ _ less := less
  blank := by rw [small, Text.all_uncased Text.isBlank_toLower]
  tokens := by
    rw [small, Token.scan_uncased]
    exact (List.map_id _).symm
  tokens_fit _ _ := ⟨trivial, trivial⟩
  comparisons comparisons := by
    rw [small]
    exact ComparisonHit.scan_uncased comparisons question
  comparisons_fit _ _ _ := ⟨trivial, trivial⟩
  phrase text := congrArg Text.collapse (Text.lower_uncased text)

namespace Tagger

theorem carries_phrasePass_uncased {question other : List Char} (small : other = Text.uncased question)
    (v : Vocabulary) (names : Phrasebook PhraseMeaning) (asker : Asker) :
    (Respelling.uncased small).Carries (phrasePass v names asker question (Token.scan question))
      (phrasePass v names asker other (Token.scan other)) := by
  have tokens : Token.scan other = Token.scan question := by rw [small, Token.scan_uncased]
  rw [tokens]
  have moves : (Respelling.uncased small).Moves (phraseCourse asker.now) id
      (Hit.longestFirst (phraseHits v names (Token.scan question))) :=
    ⟨fun hit _ => placeFree_phrase asker.now hit.meaning, fun _ _ => ⟨trivial, trivial⟩, fun _ _ => rfl,
      fun _ _ => rfl, fun _ _ => rfl⟩
  have carried := (Respelling.uncased small).carries_sweep moves
  rw [List.map_id] at carried
  exact carried

theorem tag_uncased (t : Tagger) (directory : Option Directory) (asker : Asker) (question other : String)
    (small : other.toList = Text.uncased question.toList) :
    (t.tag directory asker other).1.map Entity.withoutText =
      (t.tag directory asker question).1.map Entity.withoutText := by
  have moved := (Respelling.uncased small).tag_map t directory asker fun taken' fits same =>
    carries_phrasePass_uncased small t.vocabulary (t.indexed directory).1 asker _ taken' fits same
  rw [moved, List.map_map]
  apply List.map_congr_left
  intro e member
  have placed := t.tag_wellPlaced directory asker question e member
  have first := placed.start
  have length := placed.nonempty
  apply Entity.putOn_withoutText
  simp only [Respelling.uncased, id_eq, part]
  rw [Int.toNat_of_nonneg first, Int.toNat_of_nonneg (by omega)]

end Tagger

namespace Filter

theorem groupOf_withoutText (table : String) (t : Taxonomy) (words : List String)
    (homes : List (String × String)) (group : Int) (e : Entity) :
    groupOf table t words homes group e.withoutText =
      (groupOf table t words homes group e).map Predicate.withoutSource := by
  unfold groupOf
  rw [List.map_map]
  rfl

theorem compileFrom_withoutText (table : String) (t : Taxonomy) (words : List String)
    (homes : List (String × String)) (group : Int) (entities : List Entity) :
    compileFrom table t words homes group (entities.map Entity.withoutText) =
      (compileFrom table t words homes group entities).map Predicate.withoutSource := by
  induction entities generalizing group with
  | nil => rfl
  | cons e rest ih =>
    have filters : e.withoutText.isFilter = e.isFilter := rfl
    rw [List.map_cons, compileFrom, compileFrom, filters, groupOf_withoutText]
    cases e.isFilter with
    | false => exact ih group
    | true =>
      simp only [↓reduceIte]
      cases groupOf table t words homes group e with
      | nil => exact ih group
      | cons first others => simp only [List.map_cons, ih, List.map_append, List.cons_append]

theorem questionWords_uncased {question other : String}
    (small : Text.uncased question.toList = Text.uncased other.toList) :
    questionWords question = questionWords other := by
  unfold questionWords
  rw [← Token.scan_uncased question.toList, small, Token.scan_uncased]

end Filter

/-- Two questions that differ in the case of ASCII letters only: the entities are the same up to their texts, lead
to the same tables by the same method, and come to the same predicates up to the texts they come from. -/
theorem Tagger.tag_letterCase (t : Tagger) (directory : Option Directory) (asker : Asker)
    (question other : String) (same : Text.uncased question.toList = Text.uncased other.toList) :
    let found := (t.tag directory asker question).1
    let found' := (t.tag directory asker other).1
    found.map Entity.withoutText = found'.map Entity.withoutText ∧
      (∀ l, (Routing.route l found).tables = (Routing.route l found').tables ∧
        (Routing.route l found).method = (Routing.route l found').method) ∧
      ∀ table taxonomy homes,
        (Filter.compile table taxonomy found question homes).map Predicate.withoutSource =
          (Filter.compile table taxonomy found' other homes).map Predicate.withoutSource := by
  intro found found'
  -- both are compared with the question in small letters
  have entities : found.map Entity.withoutText = found'.map Entity.withoutText := by
    have first := t.tag_uncased directory asker question _ String.toList_ofList
    have second := t.tag_uncased directory asker other _ String.toList_ofList
    rw [← same] at second
    exact first.symm.trans second
  have clues : found.map Entity.clue = found'.map Entity.clue := by
    have read : Entity.clue = Entity.clue ∘ Entity.withoutText := rfl
    rw [read, ← List.map_map, ← List.map_map, entities]
  refine ⟨entities, fun l => Routing.route_congr l clues, fun table taxonomy homes => ?_⟩
  unfold Filter.compile
  rw [← Filter.compileFrom_withoutText, ← Filter.compileFrom_withoutText, entities,
    Filter.questionWords_uncased same]

theorem Tagger.capitals_tagged :
    let t := Tagger.ofLexicon { tables := [{ table := "sales" }] }
    let asker : Asker := { now := .midnight ⟨2024, 6, 12⟩ }
    let small := (t.tag none asker "all sales").1
    let large := (t.tag none asker "All SALES").1
    large.map (fun e => (e.text, e.span)) = [("SALES", ⟨4, 9⟩)] ∧
      small.map Entity.withoutText = large.map Entity.withoutText := by
  intro t asker small large
  have found : large.map (fun e => (e.text, e.span)) = [("SALES", ⟨4, 9⟩)] := by decide +kernel
  exact ⟨found, (t.tag_letterCase none asker "all sales" "All SALES" (by decide +kernel)).1⟩

end TableTalk
