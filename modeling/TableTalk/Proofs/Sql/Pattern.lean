import TableTalk.Proofs.Text.Letters
import TableTalk.Sql.Pattern

namespace TableTalk.Sql

def escaped (c : Char) : List Char :=
  if isPatternMark c then [escapeChar, c] else [c]

def folded (text : String) : List Char :=
  text.toList.map Text.lowerLetter

theorem escapeChar_isPatternMark : isPatternMark escapeChar = true := by decide

theorem containsPattern_toList (value : String) :
    (containsPattern value).toList = '%' :: (withoutNul value).flatMap escaped ++ ['%'] := by
  simp only [containsPattern, String.toList_ofList]
  rfl

/-- A way to fold characters before they are compared that leaves the marks of patterns as they are and turns no
other character into one. -/
structure KeepsMarks (fold : Char → Char) : Prop where
  mark : ∀ c, isPatternMark c = true → fold c = c
  other : ∀ c, isPatternMark c = false → isPatternMark (fold c) = false

theorem keepsMarks_lowerLetter : KeepsMarks Text.lowerLetter :=
  ⟨fun _ => Text.lowerLetter_of_mark, fun c plain => (Text.isPatternMark_lowerLetter c).trans plain⟩

section Folding

variable {fold : Char → Char}

theorem map_escaped (keeps : KeepsMarks fold) (c : Char) : (escaped c).map fold = escaped (fold c) := by
  unfold escaped
  cases mark : isPatternMark c with
  | true =>
    rw [keeps.mark c mark, mark]
    simp [keeps.mark c mark, keeps.mark escapeChar escapeChar_isPatternMark]
  | false =>
    rw [keeps.other c mark]
    rfl

theorem map_flatMap_escaped (keeps : KeepsMarks fold) (value : List Char) :
    (value.flatMap escaped).map fold = (value.map fold).flatMap escaped := by
  induction value with
  | nil => rfl
  | cons c rest ih => simp only [List.flatMap_cons, List.map_cons, List.map_append, map_escaped keeps, ih]

theorem map_containsPattern (keeps : KeepsMarks fold) (value : String) :
    (containsPattern value).toList.map fold =
      '%' :: ((withoutNul value).map fold).flatMap escaped ++ ['%'] := by
  have percent : fold '%' = '%' := keeps.mark '%' (by decide)
  rw [containsPattern_toList, List.map_append, List.map_cons, map_flatMap_escaped keeps]
  simp only [List.map_cons, List.map_nil, percent]

end Folding

namespace Piece

theorem ofPattern_percent (rest : List Char) :
    ofPattern (some escapeChar) ('%' :: rest) = (ofPattern (some escapeChar) rest).map (.anything :: ·) := by
  have unescaped : (some '%' = some escapeChar) = False := by decide
  cases rest <;> simp [ofPattern, unescaped]

theorem ofPattern_underscore (rest : List Char) :
    ofPattern (some escapeChar) ('_' :: rest) = (ofPattern (some escapeChar) rest).map (.anyOne :: ·) := by
  have unescaped : (some '_' = some escapeChar) = False := by decide
  cases rest <;> simp [ofPattern, unescaped]

theorem ofPattern_plain {c : Char} (plain : isPatternMark c = false) (rest : List Char) :
    ofPattern (some escapeChar) (c :: rest) = (ofPattern (some escapeChar) rest).map (.letter c :: ·) := by
  simp only [isPatternMark, Bool.or_eq_false_iff, beq_eq_false_iff_ne] at plain
  obtain ⟨⟨notEscape, notPercent⟩, notLine⟩ := plain
  cases rest <;> simp [ofPattern, notEscape, notPercent, notLine]

theorem ofPattern_escape (c : Char) (rest : List Char) :
    ofPattern (some escapeChar) (escapeChar :: c :: rest) =
      (ofPattern (some escapeChar) rest).map (.letter c :: ·) := by
  simp [ofPattern]

theorem ofPattern_escaped (c : Char) (rest : List Char) :
    ofPattern (some escapeChar) (escaped c ++ rest) =
      (ofPattern (some escapeChar) rest).map (.letter c :: ·) := by
  unfold escaped
  split
  · exact ofPattern_escape c rest
  · rename_i plain
    exact ofPattern_plain (Bool.eq_false_iff.mpr plain) rest

theorem ofPattern_escaped_text (value : List Char) :
    ofPattern (some escapeChar) (value.flatMap escaped ++ ['%']) =
      some (value.map .letter ++ [.anything]) := by
  induction value with
  | nil => decide
  | cons c rest ih =>
    rw [List.flatMap_cons, List.append_assoc, ofPattern_escaped, ih]
    rfl

theorem ofPattern_contains (value : List Char) :
    ofPattern (some escapeChar) ('%' :: value.flatMap escaped ++ ['%']) =
      some (.anything :: value.map .letter ++ [.anything]) := by
  rw [List.cons_append, ofPattern_percent, ofPattern_escaped_text]
  rfl

theorem fits_anything (text : List Char) : fits [.anything] text = true := by
  induction text with
  | nil => rfl
  | cons c rest ih =>
    rw [fits] at ih ⊢
    rw [remainders, List.any_cons, ih, Bool.or_true]

theorem fits_letters (value text : List Char) :
    fits (value.map .letter ++ [.anything]) text = value.isPrefixOf text := by
  induction value generalizing text with
  | nil => simpa using fits_anything text
  | cons c rest ih =>
    cases text with
    | nil => rfl
    | cons d later =>
      rw [List.map_cons, List.cons_append, fits, ih]
      rfl

theorem any_remainders_isPrefixOf (value text : List Char) :
    (remainders text).any value.isPrefixOf = Text.occursIn value text := by
  induction text with
  | nil => cases value <;> rfl
  | cons c rest ih => rw [remainders, List.any_cons, ih, Text.occursIn]

theorem fits_contains (value text : List Char) :
    fits (.anything :: value.map .letter ++ [.anything]) text = Text.occursIn value text := by
  rw [List.cons_append, fits, ← any_remainders_isPrefixOf]
  congr 1
  funext text
  exact fits_letters value text

end Piece

/-- A text is like the pattern of another exactly if the other occurs in it, case and NUL characters
ignored. -/
theorem isLike_containsPattern (text value : String) :
    isLike? (some escapeChar) text (containsPattern value) =
      some (Text.occursIn ((withoutNul value).map Text.lowerLetter) (folded text)) := by
  have pattern := Piece.ofPattern_contains ((withoutNul value).map Text.lowerLetter)
  rw [← map_containsPattern keepsMarks_lowerLetter] at pattern
  -- the pattern is folded together with its marks, which folding leaves alone
  change (Piece.ofPattern (some escapeChar) ((containsPattern value).toList.map Text.lowerLetter)).map
    (fun pieces => Piece.fits pieces (folded text)) = _
  rw [pattern, Option.map_some, Piece.fits_contains]

end TableTalk.Sql
