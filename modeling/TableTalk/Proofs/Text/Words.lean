import TableTalk.Proofs.Text.LetterCase
import TableTalk.Proofs.Text.Spacing

namespace TableTalk

namespace Text

def blotted (text : List Char) : List Char :=
  text.map fun c => if c.isAlphanum then c else ' '

theorem blotted_append (front back : List Char) : blotted (front ++ back) = blotted front ++ blotted back :=
  List.map_append

theorem filter_blotted (text : List Char) : (blotted text).filter Char.isAlphanum = text.filter Char.isAlphanum := by
  induction text with
  | nil => rfl
  | cons c rest ih =>
    rw [blotted] at ih ⊢
    cases letter : c.isAlphanum <;> simp [letter, ih]

theorem runs_blotted (text : List Char) : runs Char.isAlphanum (blotted text) = runs Char.isAlphanum text := by
  have same : ∀ c ∈ text, Char.isAlphanum (if c.isAlphanum then c else ' ') = c.isAlphanum := by
    intro c _
    cases letter : c.isAlphanum <;> simp [letter]
  rw [runs, blotted, runsFrom_map 0 same]
  refine (List.map_congr_left ?_).trans (List.map_id _)
  intro run member
  have letters := (runs_chars member).2.1
  have kept : run.chars.map (fun c => if c.isAlphanum then c else ' ') = run.chars := by
    refine (List.map_congr_left ?_).trans (List.map_id _)
    intro c inside
    rw [letters c inside]
    rfl
  rw [kept]
  rfl

theorem alphanum_bounds {c : Char} (letter : c.isAlphanum = true) : 0x30 ≤ c.toNat ∧ c.toNat < 128 := by
  change ((decide (65 ≤ c.val ∧ c.val ≤ 90) || (decide (97 ≤ c.val) && decide (c.val ≤ 122))) ||
    (decide (48 ≤ c.val) && decide (c.val ≤ 57))) = true at letter
  simp only [Bool.or_eq_true, Bool.and_eq_true, decide_eq_true_eq, UInt32.le_iff_toNat_le] at letter
  change ((65 ≤ c.toNat ∧ c.toNat ≤ 90) ∨ (97 ≤ c.toNat ∧ c.toNat ≤ 122)) ∨ (48 ≤ c.toNat ∧ c.toNat ≤ 57) at letter
  omega

theorem toLower_of_not_alphanum {c : Char} (other : c.isAlphanum = false) : c.toLower = c := by
  by_cases ascii : c.toNat < 128
  · exact ascii_all (P := fun c => c.isAlphanum = false → c.toLower = c) (by decide) ascii other
  · exact toLower_of_not_ascii ascii

/-- The two characters beyond ASCII that have an ASCII letter in their lower form: the capital I with a dot and
the Kelvin sign. -/
def isHiddenLetter (c : Char) : Bool :=
  c.toNat = 0x130 || c.toNat = 0x212A

theorem lowerRuns_beyond : (lowerRuns.all fun run =>
    (run.last < 128 || 128 ≤ run.target || run.last == 0x212A && run.first == 0x212A) &&
      rangesApart [(0x130, 0x130), (0x212A, 0x212A)] [(run.target, run.target + (run.last - run.first))]) = true := by
  decide +kernel

def IsLowered (c : Char) : Prop :=
  isHiddenLetter c = false ∧ c.toLower = c

theorem isLowered_of_not_alphanum {c : Char} (plain : isHiddenLetter c = false) (other : c.isAlphanum = false) :
    IsLowered c :=
  ⟨plain, toLower_of_not_alphanum other⟩

theorem isHiddenLetter_iff {c : Char} : isHiddenLetter c = true ↔ c.toNat = 0x130 ∨ c.toNat = 0x212A := by
  simp [isHiddenLetter]

theorem mapByRuns_lower_beyond {c : Char} (other : ¬ c.toNat < 128) (plain : isHiddenLetter c = false) :
    (mapByRuns lowerRuns c).isAlphanum = false ∧ isHiddenLetter (mapByRuns lowerRuns c) = false := by
  rcases mapByRuns_cases lowerRuns c with same | ⟨run, member, first, last, image⟩
  · rw [same, Bool.eq_false_iff]
    exact ⟨fun letter => other (alphanum_bounds letter).2, plain⟩
  · obtain ⟨ascii, hidden⟩ := (Bool.and_eq_true _ _).mp (List.all_eq_true.mp lowerRuns_beyond run member)
    simp only [isHiddenLetter, Bool.or_eq_false_iff, decide_eq_false_iff_not] at plain
    simp only [Bool.or_eq_true, Bool.and_eq_true, decide_eq_true_eq, beq_iff_eq] at ascii
    simp only [rangesApart, List.all_cons, List.all_nil, Bool.and_true, Bool.and_eq_true, Bool.or_eq_true,
      decide_eq_true_eq] at hidden
    constructor
    · rw [Bool.eq_false_iff]
      intro letter
      have bounds := alphanum_bounds letter
      omega
    · rw [Bool.eq_false_iff]
      intro special
      have codes := isHiddenLetter_iff.mp special
      omega

theorem lowerLetter_beyond {c : Char} (other : ¬ c.toNat < 128) (plain : isHiddenLetter c = false) :
    lowerForm c = [lowerLetter c] ∧ (lowerLetter c).isAlphanum = false ∧ isHiddenLetter (lowerLetter c) = false := by
  have undotted : c.toNat ≠ 0x130 := by
    intro dotted
    rw [isHiddenLetter_iff.mpr (Or.inl dotted)] at plain
    cases plain
  have mapped := mapByRuns_lower_beyond other plain
  rw [lowerForm, if_neg undotted, lowerLetter, if_neg other, if_neg undotted]
  exact ⟨rfl, mapped⟩

theorem lowerForm_ascii {c : Char} (ascii : c.toNat < 128) : lowerForm c = [c.toLower] := by
  have undotted : c.toNat ≠ 0x130 := by omega
  rw [lowerForm, if_neg undotted, lowerLetter, if_pos ascii]

theorem not_alphanum_of_hidden {c : Char} (hidden : isHiddenLetter c = true) : c.isAlphanum = false := by
  rw [Bool.eq_false_iff]
  intro letter
  have bounds := alphanum_bounds letter
  have codes := isHiddenLetter_iff.mp hidden
  omega

theorem lowerForm_hidden {c : Char} (hidden : isHiddenLetter c = true) :
    lowerForm c = ['i', Char.ofNat 0x307] ∨ lowerForm c = ['k'] := by
  have same : c = Char.ofNat c.toNat := (Char.ofNat_toNat c).symm
  rcases isHiddenLetter_iff.mp hidden with dotted | kelvin
  · rw [same, dotted]
    exact Or.inl (by decide)
  · rw [same, kelvin]
    exact Or.inr (by decide)

theorem lowerForm_lowered (c : Char) : ∀ d ∈ lowerForm c, IsLowered d := by
  intro d member
  cases hidden : isHiddenLetter c with
  | true =>
    rcases lowerForm_hidden hidden with dotted | kelvin
    · rw [dotted] at member
      simp only [List.mem_cons, List.not_mem_nil, or_false] at member
      rcases member with rfl | rfl
      · exact ⟨by decide, by decide⟩
      · exact ⟨by decide, by decide⟩
    · rw [kelvin, List.mem_singleton] at member
      subst member
      exact ⟨by decide, by decide⟩
  | false =>
    by_cases ascii : c.toNat < 128
    · rw [lowerForm_ascii ascii, List.mem_singleton] at member
      subst member
      have plain : isHiddenLetter c.toLower = false :=
        ascii_all (P := fun c => isHiddenLetter c.toLower = false) (by decide) ascii
      exact ⟨plain, toLower_toLower c⟩
    · obtain ⟨form, other, plain⟩ := lowerLetter_beyond ascii hidden
      rw [form, List.mem_singleton] at member
      subst member
      exact isLowered_of_not_alphanum plain other

theorem blotted_lowerForm {c : Char} (plain : isHiddenLetter c = false) :
    blotted (lowerForm c) = blotted [c.toLower] := by
  by_cases ascii : c.toNat < 128
  · rw [lowerForm_ascii ascii]
  · obtain ⟨form, other, _⟩ := lowerLetter_beyond ascii plain
    have unlettered : c.isAlphanum = false := by
      rw [Bool.eq_false_iff]
      intro letter
      exact ascii (alphanum_bounds letter).2
    rw [form, toLower_of_not_ascii ascii]
    simp [blotted, other, unlettered]

theorem lowerSigma_isLowered (letterBefore letterAfter : Bool) :
    IsLowered (lowerSigma letterBefore letterAfter) ∧ (lowerSigma letterBefore letterAfter).isAlphanum = false := by
  unfold IsLowered
  cases letterBefore <;> cases letterAfter <;> decide

theorem lowerFrom_lowered (letterBefore : Bool) (text : List Char) :
    ∀ d ∈ lowerFrom letterBefore text, IsLowered d := by
  induction text generalizing letterBefore with
  | nil => nofun
  | cons c rest ih =>
    intro d member
    rw [lowerFrom] at member
    rcases List.mem_append.mp member with here | there
    · split at here
      · cases List.mem_singleton.mp here
        exact (lowerSigma_isLowered _ _).1
      · exact lowerForm_lowered c d here
    · exact ih _ d there

theorem blotted_lowerFrom (letterBefore : Bool) (text : List Char) :
    blotted (lowerFrom letterBefore text) = text.flatMap fun c => blotted (lowerForm c) := by
  induction text generalizing letterBefore with
  | nil => rfl
  | cons c rest ih =>
    rw [lowerFrom, blotted_append, ih, List.flatMap_cons]
    congr 1
    split
    · rename_i sigma
      have form : blotted (lowerForm capitalSigma) = [' '] := by decide
      rw [sigma, form, blotted, List.map_singleton, (lowerSigma_isLowered _ _).2]
      rfl
    · rfl

theorem blotted_lowerFrom_plain (letterBefore : Bool) {text : List Char}
    (plain : ∀ c ∈ text, isHiddenLetter c = false) :
    blotted (lowerFrom letterBefore text) = blotted (uncased text) := by
  have each : blotted (uncased text) = text.flatMap fun c => blotted [c.toLower] := by
    rw [blotted, uncased, List.map_map, List.map_eq_flatMap]
    rfl
  rw [blotted_lowerFrom, each, List.flatMap_def, List.flatMap_def,
    List.map_congr_left fun c member => blotted_lowerForm (plain c member)]

theorem uncased_lowered {text : List Char} (lowered : ∀ c ∈ text, IsLowered c) : uncased text = text :=
  (List.map_congr_left fun c member => (lowered c member).2).trans (List.map_id _)

theorem wordsOf_lower (text : String) : wordsOf (lower text) = wordsOf text := by
  have lowered := lowerFrom_lowered false text.toList
  have again := blotted_lowerFrom_plain false fun d member => (lowered d member).1
  rw [uncased_lowered lowered] at again
  unfold wordsOf lower lowerChars
  rw [String.toList_ofList, ← runs_blotted, again, runs_blotted]

theorem lowerFrom_ascii (letterBefore : Bool) {text : List Char} (ascii : ∀ c ∈ text, c.toNat < 128) :
    lowerFrom letterBefore text = uncased text := by
  induction text generalizing letterBefore with
  | nil => rfl
  | cons c rest ih =>
    obtain ⟨here, there⟩ := List.forall_mem_cons.mp ascii
    have other : c ≠ capitalSigma := by
      rintro rfl
      exact absurd here (by decide)
    rw [lowerFrom, if_neg other, lowerForm_ascii here, ih _ there]
    rfl

theorem lower_ascii {text : List Char} (ascii : ∀ c ∈ text, c.toNat < 128) :
    lower (String.ofList text) = String.ofList (uncased text) := by
  rw [lower, lowerChars, String.toList_ofList, lowerFrom_ascii false ascii]

theorem lower_word {text word : String} (member : word ∈ wordsOf text) : lower word = word := by
  obtain ⟨run, inside, rfl⟩ := List.mem_map.mp member
  obtain ⟨chars, letters, _⟩ := runs_chars inside
  have lowered : ∀ c ∈ run.chars, IsLowered c := by
    intro c among
    rw [← chars] at among
    exact lowerFrom_lowered false text.toList c (List.mem_of_mem_drop (List.mem_of_mem_take among))
  rw [lower_ascii fun c among => (alphanum_bounds (letters c among)).2, uncased_lowered lowered]

theorem runs_letters (p : Char → Bool) (text : List Char) :
    (runs p text).flatMap Run.chars = text.filter p := by
  have run (offset : Nat) : (runsFrom p offset text).flatMap Run.chars = text.filter p := by
    induction text generalizing offset with
    | nil => rfl
    | cons c rest ih =>
      rw [runsFrom]
      cases letter : p c with
      | false =>
        rw [List.filter_cons_of_neg (by simp [letter])]
        exact ih (offset + 1)
      | true =>
        rw [List.filter_cons_of_pos letter, ← ih (offset + 1), if_pos rfl]
        cases runsFrom p (offset + 1) rest with
        | nil => rfl
        | cons first others =>
          rw [Run.cons]
          split <;> rfl
  exact run 0

theorem countP_lowerForm (c : Char) :
    (lowerForm c).countP Char.isAlphanum = [c].countP Char.isAlphanum + [c].countP isHiddenLetter := by
  cases hidden : isHiddenLetter c with
  | true =>
    have unlettered := not_alphanum_of_hidden hidden
    rcases lowerForm_hidden hidden with dotted | kelvin
    · simp [dotted, hidden, unlettered]
    · simp [kelvin, hidden, unlettered]
  | false =>
    have same := congrArg (fun text => (text.filter Char.isAlphanum).length) (blotted_lowerForm hidden)
    simp only [filter_blotted, ← List.countP_eq_length_filter] at same
    have blind := isTokenChar_toLower c
    simp only [Token.isTokenChar] at blind
    rw [same]
    simp [hidden, blind]

/-- Whether a character is part of words: its lower form has an ASCII letter or digit. -/
def inWords (c : Char) : Bool :=
  (lowerForm c).any Char.isAlphanum

theorem inWords_eq (c : Char) : inWords c = (c.isAlphanum || isHiddenLetter c) := by
  have letters : inWords c = true ↔ 0 < (lowerForm c).countP Char.isAlphanum := by
    rw [inWords, List.any_eq_true, List.countP_pos_iff]
  rw [countP_lowerForm] at letters
  rw [Bool.eq_iff_iff, letters]
  cases letter : c.isAlphanum <;> cases hidden : isHiddenLetter c <;> simp [letter, hidden]

theorem runs_inWords {text : List Char} (plain : ∀ c ∈ text, isHiddenLetter c = false) :
    runs inWords text = runs Token.isTokenChar text := by
  refine runs_congr fun c member => ?_
  rw [inWords_eq, plain c member, Bool.or_false, Token.isTokenChar]

theorem countP_lowerFrom (letterBefore : Bool) (text : List Char) :
    (lowerFrom letterBefore text).countP Char.isAlphanum =
      text.countP Char.isAlphanum + text.countP isHiddenLetter := by
  have same := congrArg (fun text => (text.filter Char.isAlphanum).length) (blotted_lowerFrom letterBefore text)
  simp only [filter_blotted, List.filter_flatMap, ← List.countP_eq_length_filter, List.length_flatMap] at same
  rw [same]
  clear same
  induction text with
  | nil => rfl
  | cons c rest ih =>
    have front (p : Char → Bool) : (c :: rest).countP p = [c].countP p + rest.countP p := by
      rw [← List.singleton_append, List.countP_append]
    rw [List.map_cons, List.sum_cons, ih, countP_lowerForm, front, front isHiddenLetter]
    omega

theorem letters_wordsOf (text : String) :
    (wordsOf text).flatMap String.toList = (lowerChars text.toList).filter Char.isAlphanum := by
  rw [wordsOf, List.flatMap_map, ← runs_letters]
  congr 1
  funext run
  exact String.toList_ofList

end Text

theorem Token.lower_text {text : List Char} {token : Token} (member : token ∈ scan text) :
    Text.lower token.text = token.text := by
  obtain ⟨run, inside, rfl⟩ := List.mem_map.mp member
  obtain ⟨_, letters, _⟩ := Text.runs_chars inside
  have ascii : ∀ c ∈ Text.uncased run.chars, c.toNat < 128 := by
    intro c among
    obtain ⟨d, there, rfl⟩ := List.mem_map.mp among
    have letter : isTokenChar d.toLower = true := (Text.isTokenChar_toLower d).trans (letters d there)
    exact (Text.alphanum_bounds letter).2
  exact (Text.lower_ascii ascii).trans (congrArg String.ofList (Text.uncased_uncased run.chars))

def Text.IsToken (word : String) : Prop :=
  word ≠ "" ∧ word.toList.all Char.isAlphanum = true

instance (word : String) : Decidable (Text.IsToken word) :=
  inferInstanceAs (Decidable (_ ∧ _))

theorem Token.scan_single {word : String} (single : Text.IsToken word) :
    scan word.toList = [⟨Text.lower word, 0, word.toList.length⟩] := by
  obtain ⟨nonempty, all⟩ := single
  have letters := List.all_eq_true.mp all
  have lowered : Text.lower word = String.ofList (Text.uncased word.toList) := by
    rw [← Text.lower_ascii fun c member => (Text.alphanum_bounds (letters c member)).2, String.ofList_toList]
  obtain ⟨c, rest, same⟩ := List.exists_cons_of_ne_nil (mt String.toList_eq_nil_iff.mp nonempty)
  rw [same] at letters
  have run : Text.runs isTokenChar (c :: rest) = [⟨0, c :: rest⟩] := Text.runsFrom_all 0 c letters
  rw [lowered, scan, same, run, List.map_singleton, ofRun, Text.Run.stop, Nat.zero_add]
  rfl

theorem Token.single_of_scan {word : String} {token : Token} (member : token ∈ scan word.toList)
    (whole : token.start = 0 ∧ token.stop = word.toList.length) : Text.IsToken word := by
  obtain ⟨start, stop⟩ := whole
  have bounds := scan_bounds member
  refine ⟨?_, List.all_eq_true.mpr fun c inside => ?_⟩
  · rintro rfl
    have length : "".toList.length = 0 := rfl
    omega
  · obtain ⟨i, low, rfl⟩ := List.mem_iff_getElem.mp inside
    obtain ⟨d, here, letter⟩ := scan_getElem? member (start ▸ i.zero_le) (stop ▸ low)
    rw [List.getElem?_eq_getElem low, Option.some_inj] at here
    exact here ▸ letter

theorem Token.letters_scan (text : List Char) :
    ((scan text).map Token.text).flatMap String.toList = Text.uncased (text.filter Char.isAlphanum) := by
  rw [scan, List.map_map, List.flatMap_map, Text.uncased, ← Text.runs_letters, List.map_flatMap]
  congr 1
  funext run
  exact String.toList_ofList

/-- The words of an entry are the tokens of its text if no character of it hides a letter, and only then. -/
theorem Token.scan_eq_words_iff (text : String) :
    (scan text.toList).map Token.text = Text.wordsOf text ↔
      ∀ c ∈ text.toList, Text.isHiddenLetter c = false := by
  constructor
  · intro same
    have letters := congrArg (fun words => (words.flatMap String.toList).length) same
    simp only [letters_scan, Text.letters_wordsOf, Text.length_uncased, ← List.countP_eq_length_filter,
      Text.lowerChars, Text.countP_lowerFrom] at letters
    have none : text.toList.countP Text.isHiddenLetter = 0 := by omega
    intro c member
    exact Bool.eq_false_iff.mpr (List.countP_eq_zero.mp none c member)
  · intro plain
    have lowered := Text.blotted_lowerFrom_plain false plain
    have runs : Text.runs Char.isAlphanum (Text.lowerChars text.toList) =
        (Text.runs Token.isTokenChar text.toList).map Text.Run.uncased := by
      rw [← Text.runs_blotted, Text.lowerChars, lowered, Text.runs_blotted]
      exact Text.runsFrom_uncased Text.isTokenChar_toLower 0 _
    rw [scan, Text.wordsOf, runs, List.map_map, List.map_map]
    rfl

end TableTalk
