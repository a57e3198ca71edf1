import TableTalk.Proofs.Text.Letters
import TableTalk.Proofs.Text.Runs
import TableTalk.Text.Blank
import TableTalk.Text.Digit
import TableTalk.Text.Token

namespace TableTalk

namespace Text

def uncased (text : List Char) : List Char :=
  text.map Char.toLower

theorem toLower_of_not_ascii {c : Char} (other : ¬ c.toNat < 128) : c.toLower = c := by
  unfold Char.toLower
  split
  · rename_i capital
    have bound := UInt32.le_iff_toNat_le.mp capital.2
    exact absurd (Nat.lt_of_le_of_lt bound (by decide)) other
  · rfl

/-- What does not tell the case of ASCII letters apart on ASCII does not do so anywhere. -/
theorem caseBlind {α : Type} {f : Char → α}
    (ascii : ∀ n : Fin 128, f (Char.ofNat n).toLower = f (Char.ofNat n)) (c : Char) :
    f c.toLower = f c := by
  by_cases small : c.toNat < 128
  · exact ascii_all (P := fun c => f c.toLower = f c) ascii small
  · rw [toLower_of_not_ascii small]

theorem toLower_toLower (c : Char) : c.toLower.toLower = c.toLower :=
  caseBlind (f := Char.toLower) (by decide) c

theorem isBlank_toLower (c : Char) : isBlank c.toLower = isBlank c :=
  caseBlind (f := isBlank) (by decide) c

theorem isWordChar_toLower (c : Char) : isWordChar c.toLower = isWordChar c :=
  caseBlind (f := isWordChar) (by decide) c

theorem isDecimal_toLower (c : Char) : isDecimal c.toLower = isDecimal c :=
  caseBlind (f := isDecimal) (by decide) c

theorem isTokenChar_toLower (c : Char) : Token.isTokenChar c.toLower = Token.isTokenChar c :=
  caseBlind (f := Token.isTokenChar) (by decide) c

theorem isCaseIgnorable_toLower (c : Char) : isCaseIgnorable c.toLower = isCaseIgnorable c :=
  caseBlind (f := isCaseIgnorable) (by decide) c

theorem isCased_toLower (c : Char) : isCased c.toLower = isCased c :=
  caseBlind (f := isCased) (by decide) c

theorem lowerLetter_toLower (c : Char) : lowerLetter c.toLower = lowerLetter c :=
  caseBlind (f := lowerLetter) (by decide) c

theorem lowerForm_toLower (c : Char) : lowerForm c.toLower = lowerForm c :=
  caseBlind (f := lowerForm) (by decide) c

theorem toLower_eq_iff {mark : Char} (unlettered : ∀ n : Fin 128,
    decide ((Char.ofNat n).toLower = mark) = decide (Char.ofNat n = mark)) (c : Char) :
    c.toLower = mark ↔ c = mark := by
  have same := caseBlind (f := fun c => decide (c = mark)) unlettered c
  simpa using same

theorem alike_toLower (a c : Char) : alike a c.toLower = alike a c := by
  simp only [alike, lowerLetter_toLower]

theorem isBoundary_toLower (before after : Option Char) :
    isBoundary (before.map Char.toLower) (after.map Char.toLower) = isBoundary before after := by
  unfold isBoundary
  cases before <;> cases after <;> simp [isWordChar_toLower]

theorem uncased_takeWhile {p : Char → Bool} (blind : ∀ c, p c.toLower = p c) (text : List Char) :
    (uncased text).takeWhile p = uncased (text.takeWhile p) := by
  have same : p ∘ Char.toLower = p := funext blind
  rw [uncased, List.takeWhile_map, same, uncased]

theorem uncased_dropWhile {p : Char → Bool} (blind : ∀ c, p c.toLower = p c) (text : List Char) :
    (uncased text).dropWhile p = uncased (text.dropWhile p) := by
  have same : p ∘ Char.toLower = p := funext blind
  rw [uncased, List.dropWhile_map, same, uncased]

theorem all_uncased {p : Char → Bool} (blind : ∀ c, p c.toLower = p c) (text : List Char) :
    (uncased text).all p = text.all p := by
  have same : p ∘ Char.toLower = p := funext blind
  rw [uncased, List.all_map, same]

theorem length_uncased (text : List Char) : (uncased text).length = text.length :=
  List.length_map _

theorem uncased_take (text : List Char) (n : Nat) : (uncased text).take n = uncased (text.take n) := by
  rw [uncased, ← List.map_take, uncased]

theorem uncased_drop (text : List Char) (n : Nat) : (uncased text).drop n = uncased (text.drop n) := by
  rw [uncased, ← List.map_drop, uncased]

theorem uncased_uncased (text : List Char) : uncased (uncased text) = uncased text := by
  rw [uncased, uncased, List.map_map]
  exact List.map_congr_left fun c _ => toLower_toLower c

def Run.uncased (run : Run) : Run :=
  ⟨run.start, Text.uncased run.chars⟩

theorem runsFrom_uncased {p : Char → Bool} (blind : ∀ c, p c.toLower = p c) (offset : Nat)
    (text : List Char) : runsFrom p offset (uncased text) = (runsFrom p offset text).map Run.uncased :=
  runsFrom_map offset fun c _ => blind c

theorem startsCased_uncased (text : List Char) : startsCased (uncased text) = startsCased text := by
  unfold startsCased
  rw [uncased_dropWhile isCaseIgnorable_toLower]
  cases text.dropWhile isCaseIgnorable with
  | nil => rfl
  | cons c rest => exact isCased_toLower c

theorem toLower_capitalSigma (c : Char) : c.toLower = capitalSigma ↔ c = capitalSigma :=
  toLower_eq_iff (by decide) c

theorem lowerFrom_uncased (letterBefore : Bool) (text : List Char) :
    lowerFrom letterBefore (uncased text) = lowerFrom letterBefore text := by
  induction text generalizing letterBefore with
  | nil => rfl
  | cons c rest ih =>
    have sigma := startsCased_uncased rest
    rw [uncased] at sigma ih
    rw [uncased, List.map_cons, lowerFrom, lowerFrom]
    simp only [toLower_capitalSigma, sigma, lowerForm_toLower, isCaseIgnorable_toLower, isCased_toLower, ih]

theorem lower_uncased (text : List Char) :
    lower (String.ofList (uncased text)) = lower (String.ofList text) := by
  unfold lower lowerChars
  rw [String.toList_ofList, String.toList_ofList, lowerFrom_uncased]

end Text

theorem Token.scan_uncased (text : List Char) : scan (Text.uncased text) = scan text := by
  unfold scan Text.runs
  rw [Text.runsFrom_uncased Text.isTokenChar_toLower, List.map_map]
  apply List.map_congr_left
  intro run _
  have same := Text.uncased_uncased run.chars
  simp only [Text.uncased] at same
  simp only [Function.comp_apply, ofRun, Text.Run.uncased, Text.uncased, Text.Run.stop, List.length_map, same]

end TableTalk
