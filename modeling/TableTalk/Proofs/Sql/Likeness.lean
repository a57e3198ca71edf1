import TableTalk.Proofs.Sql.Comparing
import TableTalk.Text.Substring

namespace TableTalk.Sql

/-- The rules of patterns, where characters that are folded to the same one count as the same. -/
inductive Like (fold : Char → Char) : List Char → List Char → Prop
  | done : Like fold [] []
  | anything {pattern text : List Char} (skipped : List Char) (later : Like fold pattern text) :
      Like fold ('%' :: pattern) (skipped ++ text)
  | anyOne {pattern text : List Char} (d : Char) (later : Like fold pattern text) :
      Like fold ('_' :: pattern) (d :: text)
  | escaped {pattern text : List Char} {c d : Char} (same : fold c = fold d) (later : Like fold pattern text) :
      Like fold (escapeChar :: c :: pattern) (d :: text)
  | letter {pattern text : List Char} {c d : Char} (plain : isPatternMark c = false) (same : fold c = fold d)
      (later : Like fold pattern text) : Like fold (c :: pattern) (d :: text)

section Folding

variable {fold : Char → Char} {pattern text : List Char}

theorem KeepsMarks.eq_of_fold (keeps : KeepsMarks fold) {c mark : Char} (special : isPatternMark mark = true)
    (same : fold c = mark) : c = mark := by
  cases here : isPatternMark c with
  | true => rw [← same, keeps.mark c here]
  | false =>
    have other := keeps.other c here
    rw [same, special] at other
    cases other

theorem KeepsMarks.plain_of_fold (keeps : KeepsMarks fold) {c : Char} (plain : isPatternMark (fold c) = false) :
    isPatternMark c = false := by
  cases here : isPatternMark c with
  | true => rwa [keeps.mark c here, here] at plain
  | false => rfl

theorem Like.folded (keeps : KeepsMarks fold) (like : Like fold pattern text) :
    Like id (pattern.map fold) (text.map fold) := by
  induction like with
  | done => exact .done
  | anything skipped _ ih =>
    rw [List.map_cons, keeps.mark '%' (by decide), List.map_append]
    exact .anything _ ih
  | anyOne d _ ih =>
    rw [List.map_cons, keeps.mark '_' (by decide)]
    exact .anyOne _ ih
  | escaped same _ ih =>
    rw [List.map_cons, keeps.mark escapeChar escapeChar_isPatternMark]
    exact .escaped same ih
  | letter plain same _ ih => exact .letter (keeps.other _ plain) same ih

theorem Like.of_folded (keeps : KeepsMarks fold) (like : Like id (pattern.map fold) (text.map fold)) :
    Like fold pattern text := by
  generalize front : pattern.map fold = read at like
  generalize back : text.map fold = seen at like
  induction like generalizing pattern text with
  | done =>
    rw [List.map_eq_nil_iff.mp front, List.map_eq_nil_iff.mp back]
    exact .done
  | anything skipped _ ih =>
    obtain ⟨c, rest, rfl, mark, later⟩ := List.map_eq_cons_iff.mp front
    obtain ⟨before, after, rfl, _, behind⟩ := List.map_eq_append_iff.mp back
    rw [keeps.eq_of_fold (by decide) mark]
    exact .anything before (ih later behind)
  | anyOne d _ ih =>
    obtain ⟨c, rest, rfl, mark, later⟩ := List.map_eq_cons_iff.mp front
    obtain ⟨d, after, rfl, _, behind⟩ := List.map_eq_cons_iff.mp back
    rw [keeps.eq_of_fold (by decide) mark]
    exact .anyOne d (ih later behind)
  | escaped same _ ih =>
    obtain ⟨e, marked, rfl, mark, ahead⟩ := List.map_eq_cons_iff.mp front
    obtain ⟨c, rest, rfl, rfl, later⟩ := List.map_eq_cons_iff.mp ahead
    obtain ⟨d, after, rfl, rfl, behind⟩ := List.map_eq_cons_iff.mp back
    rw [keeps.eq_of_fold escapeChar_isPatternMark mark]
    exact .escaped same (ih later behind)
  | letter plain same _ ih =>
    obtain ⟨c, rest, rfl, rfl, later⟩ := List.map_eq_cons_iff.mp front
    obtain ⟨d, after, rfl, rfl, behind⟩ := List.map_eq_cons_iff.mp back
    exact .letter (keeps.plain_of_fold plain) same (ih later behind)

/-- It makes no difference whether pattern and text are folded first or compared by their folded characters. -/
theorem like_folded_iff (keeps : KeepsMarks fold) :
    Like id (pattern.map fold) (text.map fold) ↔ Like fold pattern text :=
  ⟨Like.of_folded keeps, Like.folded keeps⟩

end Folding

namespace Piece

theorem mark_cases (c : Char) : c = escapeChar ∨ c = '%' ∨ c = '_' ∨ isPatternMark c = false := by
  cases mark : isPatternMark c with
  | false => exact Or.inr (Or.inr (Or.inr rfl))
  | true =>
    simp only [isPatternMark, Bool.or_eq_true, beq_iff_eq] at mark
    rcases mark with (same | same) | same
    · exact Or.inl same
    · exact Or.inr (Or.inl same)
    · exact Or.inr (Or.inr (Or.inl same))

theorem pattern_induction {P : List Char → Prop} (nil : P []) (lone : P [escapeChar])
    (percent : ∀ rest, P rest → P ('%' :: rest)) (underscore : ∀ rest, P rest → P ('_' :: rest))
    (escape : ∀ c rest, P rest → P (escapeChar :: c :: rest))
    (plain : ∀ c rest, isPatternMark c = false → P rest → P (c :: rest)) : ∀ pattern, P pattern
  | [] => nil
  | [c] => by
    rcases mark_cases c with rfl | rfl | rfl | ordinary
    · exact lone
    · exact percent [] nil
    · exact underscore [] nil
    · exact plain c [] ordinary nil
  | c :: d :: rest => by
    have later := pattern_induction nil lone percent underscore escape plain (d :: rest)
    rcases mark_cases c with rfl | rfl | rfl | ordinary
    · exact escape d rest (pattern_induction nil lone percent underscore escape plain rest)
    · exact percent _ later
    · exact underscore _ later
    · exact plain c _ ordinary later

theorem mem_remainders {rest text : List Char} : rest ∈ remainders text ↔ rest <:+ text := by
  induction text with
  | nil => rw [remainders, List.mem_singleton, List.suffix_nil]
  | cons c later ih => rw [remainders, List.mem_cons, ih, List.suffix_cons_iff]

theorem fits_anything_iff {pieces : List Piece} {text : List Char} :
    fits (.anything :: pieces) text = true ↔ ∃ skipped later, skipped ++ later = text ∧ fits pieces later = true := by
  rw [fits, List.any_eq_true]
  constructor
  · rintro ⟨later, member, fit⟩
    obtain ⟨skipped, same⟩ := mem_remainders.mp member
    exact ⟨skipped, later, same, fit⟩
  · rintro ⟨skipped, later, same, fit⟩
    exact ⟨later, mem_remainders.mpr ⟨skipped, same⟩, fit⟩

theorem fits_letter_iff {c : Char} {pieces : List Piece} {text : List Char} :
    fits (.letter c :: pieces) text = true ↔ ∃ later, text = c :: later ∧ fits pieces later = true := by
  cases text with
  | nil => simp [fits]
  | cons d rest =>
    rw [fits, Bool.and_eq_true, beq_iff_eq]
    constructor
    · rintro ⟨rfl, fit⟩
      exact ⟨rest, rfl, fit⟩
    · rintro ⟨later, same, fit⟩
      cases same
      exact ⟨rfl, fit⟩

theorem like_of_fits {pattern text : List Char} {pieces : List Piece}
    (read : ofPattern (some escapeChar) pattern = some pieces) (fit : fits pieces text = true) :
    Like id pattern text := by
  induction pattern using pattern_induction generalizing pieces text with
  | nil =>
    cases read
    rw [fits, List.isEmpty_iff] at fit
    rw [fit]
    exact .done
  | lone => simp [ofPattern] at read
  | percent rest ih =>
    rw [ofPattern_percent] at read
    obtain ⟨later, known, rfl⟩ := Option.map_eq_some_iff.mp read
    obtain ⟨skipped, behind, rfl, onward⟩ := fits_anything_iff.mp fit
    exact .anything skipped (ih known onward)
  | underscore rest ih =>
    rw [ofPattern_underscore] at read
    obtain ⟨later, known, rfl⟩ := Option.map_eq_some_iff.mp read
    cases text with
    | nil => cases fit
    | cons d behind => exact .anyOne d (ih known fit)
  | escape c rest ih =>
    rw [ofPattern_escape] at read
    obtain ⟨later, known, rfl⟩ := Option.map_eq_some_iff.mp read
    obtain ⟨behind, rfl, onward⟩ := fits_letter_iff.mp fit
    exact .escaped rfl (ih known onward)
  | plain c rest ordinary ih =>
    rw [ofPattern_plain ordinary] at read
    obtain ⟨later, known, rfl⟩ := Option.map_eq_some_iff.mp read
    obtain ⟨behind, rfl, onward⟩ := fits_letter_iff.mp fit
    exact .letter ordinary rfl (ih known onward)

theorem fits_of_like {pattern text : List Char} (like : Like id pattern text) :
    ∃ pieces, ofPattern (some escapeChar) pattern = some pieces ∧ fits pieces text = true := by
  induction like with
  | done => exact ⟨[], rfl, rfl⟩
  | anything skipped _ ih =>
    obtain ⟨pieces, read, fit⟩ := ih
    exact ⟨.anything :: pieces, by rw [ofPattern_percent, read]; rfl, fits_anything_iff.mpr ⟨skipped, _, rfl, fit⟩⟩
  | anyOne d _ ih =>
    obtain ⟨pieces, read, fit⟩ := ih
    exact ⟨.anyOne :: pieces, by rw [ofPattern_underscore, read]; rfl, fit⟩
  | escaped same _ ih =>
    obtain ⟨pieces, read, fit⟩ := ih
    cases same
    exact ⟨.letter _ :: pieces, by rw [ofPattern_escape, read]; rfl, fits_letter_iff.mpr ⟨_, rfl, fit⟩⟩
  | letter plain same _ ih =>
    obtain ⟨pieces, read, fit⟩ := ih
    cases same
    exact ⟨.letter _ :: pieces, by rw [ofPattern_plain plain, read]; rfl, fits_letter_iff.mpr ⟨_, rfl, fit⟩⟩

theorem fits_iff_like {pattern text : List Char} {pieces : List Piece}
    (read : ofPattern (some escapeChar) pattern = some pieces) : fits pieces text = true ↔ Like id pattern text := by
  refine ⟨like_of_fits read, fun like => ?_⟩
  obtain ⟨found, same, fit⟩ := fits_of_like like
  rw [read] at same
  cases same
  exact fit

end Piece

theorem isLike?_iff (text pattern : String) :
    isLike? (some escapeChar) text pattern = some true ↔ Like Text.lowerLetter pattern.toList text.toList := by
  rw [← like_folded_iff keepsMarks_lowerLetter]
  unfold isLike?
  dsimp only
  rw [Option.map_eq_some_iff]
  constructor
  · rintro ⟨pieces, read, fit⟩
    exact Piece.like_of_fits read fit
  · exact Piece.fits_of_like

/-- The marks escaped one after the other. The escape character comes first, so that none that is put in for another
mark is escaped again. -/
def escapedInTurn (text : List Char) : List Char :=
  [escapeChar, '%', '_'].foldl (fun text mark => Text.replaceEach mark [escapeChar, mark] text) text

theorem escapedInTurn_eq (text : List Char) : escapedInTurn text = text.flatMap escaped := by
  simp only [escapedInTurn, List.foldl_cons, List.foldl_nil, Text.replaceEach, List.flatMap_assoc]
  congr 1
  funext c
  rcases Piece.mark_cases c with rfl | rfl | rfl | plain
  · decide
  · decide
  · decide
  · rw [escaped, plain]
    simp only [isPatternMark, Bool.or_eq_false_iff, beq_eq_false_iff_ne] at plain
    simp [plain.1.1, plain.1.2, plain.2]

/-- A text is like the pattern of a value exactly if the value, without its NUL characters, occurs in it. It does not
matter how characters are folded, as long as the marks of patterns stay apart from all others, nor whether they are
folded before the pattern is read. Statements are answered by these rules, with the lower forms of characters. -/
theorem like_containsPattern (value text : String) :
    containsPattern value = String.ofList ('%' :: escapedInTurn (withoutNul value) ++ ['%']) ∧
    (∀ fold, KeepsMarks fold →
      (Like fold (containsPattern value).toList text.toList ↔
        (withoutNul value).map fold <:+: text.toList.map fold) ∧
      (Like id ((containsPattern value).toList.map fold) (text.toList.map fold) ↔
        (withoutNul value).map fold <:+: text.toList.map fold)) ∧
    KeepsMarks Text.lowerLetter ∧
    ∃ answer, isLike? (some escapeChar) text (containsPattern value) = some answer ∧
      (answer = true ↔ Like Text.lowerLetter (containsPattern value).toList text.toList) := by
  refine ⟨?_, fun fold keeps => ?_, keepsMarks_lowerLetter, _, isLike_containsPattern text value, ?_⟩
  · rw [escapedInTurn_eq, ← containsPattern_toList, String.ofList_toList]
  · have within : Like id ((containsPattern value).toList.map fold) (text.toList.map fold) ↔
        (withoutNul value).map fold <:+: text.toList.map fold := by
      have read := Piece.ofPattern_contains ((withoutNul value).map fold)
      rw [map_containsPattern keeps, ← Piece.fits_iff_like read, Piece.fits_contains, occursIn_infix]
    exact ⟨(like_folded_iff keeps).symm.trans within, within⟩
  · rw [← isLike?_iff, isLike_containsPattern, Option.some.injEq]

theorem discount_alike :
    let pattern := (containsPattern "A%\x00_\\").toList
    KeepsMarks Text.lowerLetter ∧ Like Text.lowerLetter pattern "xa%_\\y".toList ∧
      ¬ Like Text.lowerLetter pattern "xab_\\y".toList := by
  intro pattern
  have found (text : String) :=
    ((like_containsPattern "A%\x00_\\" text).2.1 Text.lowerLetter keepsMarks_lowerLetter).1
  refine ⟨keepsMarks_lowerLetter, (found _).mpr <| occursIn_infix.mp (by decide +kernel), fun like => ?_⟩
  have occurs := occursIn_infix.mpr ((found _).mp like)
  exact absurd occurs (by decide +kernel)

end TableTalk.Sql
