import TableTalk.Proofs.Text.Letters
import TableTalk.Sql.Lexeme
import TableTalk.Sql.Identifier

namespace TableTalk

theorem Text.doubled_cons (quote c : Char) (rest : List Char) : replaceEach quote [quote, quote] (c :: rest) =
    if c = quote then quote :: quote :: replaceEach quote [quote, quote] rest
    else c :: replaceEach quote [quote, quote] rest := by
  unfold replaceEach
  rw [List.flatMap_cons]
  split <;> rfl

namespace Sql.Lexeme

def isBreak (c : Char) : Bool :=
  !isWordPart c && c != Text.doubleQuote && c != Text.singleQuote

def Breaks (rest : List Char) : Prop :=
  rest.head?.all isBreak = true

def Spells (text : List Char) (lexemes : List Lexeme) : Prop :=
  ∀ rest, Breaks rest → scan (text ++ rest) = (scan rest).map (lexemes ++ ·)

theorem Breaks.append {front back : List Char} (first : Breaks front) (second : Breaks back) :
    Breaks (front ++ back) := by
  cases front with
  | nil => exact second
  | cons c rest => exact first

theorem Spells.scan_eq {text : List Char} {lexemes : List Lexeme} (spells : Spells text lexemes) :
    scan text = some lexemes := by
  have whole := spells [] rfl
  rw [List.append_nil, scan] at whole
  simpa using whole

theorem Spells.nil : Spells [] [] := by
  intro rest _
  simp

theorem Spells.append {front back : List Char} {first second : List Lexeme}
    (left : Spells front first) (right : Spells back second) (apart : Breaks back) :
    Spells (front ++ back) (first ++ second) := by
  intro rest breaks
  rw [List.append_assoc, left _ (apart.append breaks), right _ breaks, Option.map_map]
  congr 1
  funext lexemes
  simp

theorem Spells.blank {text : List Char} {lexemes : List Lexeme} (spells : Spells text lexemes) :
    Spells (' ' :: text) lexemes := by
  intro rest breaks
  rw [List.cons_append, scan, if_pos (by decide)]
  exact spells rest breaks

theorem Spells.step {c : Char} {lexeme : Lexeme} {text : List Char} {lexemes : List Lexeme}
    (reads : ∀ rest, scan (c :: rest) = (scan rest).map (lexeme :: ·)) (spells : Spells text lexemes) :
    Spells (c :: text) (lexeme :: lexemes) := by
  intro rest breaks
  rw [List.cons_append, reads, spells rest breaks, Option.map_map]
  rfl

theorem scan_open (rest : List Char) : scan ('(' :: rest) = (scan rest).map (.sign ['('] :: ·) := by
  rw [scan]
  rfl

theorem scan_close (rest : List Char) : scan (')' :: rest) = (scan rest).map (.sign [')'] :: ·) := by
  rw [scan]
  rfl

theorem scan_equal (rest : List Char) : scan ('=' :: rest) = (scan rest).map (.sign ['='] :: ·) := by
  rw [scan]
  rfl

theorem scan_placeholder (rest : List Char) :
    scan ('?' :: rest) = (scan rest).map (.placeholder :: ·) := by
  rw [scan]
  rfl

def isWord : List Char → Bool
  | [] => false
  | c :: rest => !Text.isBlank c && isWordStart c && rest.all isWordPart

theorem takeWhile_word {word rest : List Char} (parts : word.all isWordPart = true)
    (breaks : Breaks rest) :
    (word ++ rest).takeWhile isWordPart = word ∧ (word ++ rest).dropWhile isWordPart = rest := by
  have all : ∀ c ∈ word, isWordPart c = true := List.all_eq_true.mp parts
  have stop : rest.takeWhile isWordPart = [] ∧ rest.dropWhile isWordPart = rest := by
    cases rest with
    | nil => exact ⟨rfl, rfl⟩
    | cons c later =>
      have ends : isWordPart c = false := by
        simp only [Breaks, List.head?_cons, Option.all_some, isBreak, Bool.and_eq_true,
          Bool.not_eq_true'] at breaks
        exact breaks.1.1
      simp [ends]
  rw [List.takeWhile_append_of_pos all, List.dropWhile_append_of_pos all, stop.1, stop.2]
  exact ⟨List.append_nil _, rfl⟩

theorem scan_word {word rest : List Char} (isOne : isWord word = true) (breaks : Breaks rest) :
    scan (word ++ rest) = (scan rest).map (.word word :: ·) := by
  cases word with
  | nil => cases isOne
  | cons c later =>
    simp only [isWord, Bool.and_eq_true, Bool.not_eq_true'] at isOne
    obtain ⟨⟨notBlank, start⟩, parts⟩ := isOne
    obtain ⟨taken, left⟩ := takeWhile_word parts breaks
    rw [List.cons_append, scan, if_neg (by simp [notBlank]), if_pos start, taken, left]

theorem Spells.word {word text : List Char} {lexemes : List Lexeme} (isOne : isWord word = true)
    (apart : Breaks text) (spells : Spells text lexemes) :
    Spells (word ++ text) (.word word :: lexemes) := by
  intro rest breaks
  rw [List.append_assoc, scan_word isOne (apart.append breaks), spells rest breaks, Option.map_map]
  rfl

theorem unquote_closing {quote : Char} {rest : List Char} (apart : rest.head? ≠ some quote) :
    unquote quote (quote :: rest) = some ([], rest) := by
  cases rest with
  | nil => simp [unquote]
  | cons c later =>
    have other : c ≠ quote := fun same => apart (by rw [same]; rfl)
    simp [unquote, other]

theorem unquote_other {quote c : Char} (other : c ≠ quote) (rest : List Char) :
    unquote quote (c :: rest) = (unquote quote rest).map fun read => (c :: read.1, read.2) := by
  cases rest with
  | nil => simp [unquote, other]
  | cons d more => rw [unquote, if_neg other]

/-- A text with its quotes written twice is passed over as a whole, whatever comes behind it. -/
theorem unquote_doubled (quote : Char) (text rest : List Char) :
    unquote quote (Text.replaceEach quote [quote, quote] text ++ rest) =
      (unquote quote rest).map fun read => (text ++ read.1, read.2) := by
  induction text with
  | nil => simp [Text.replaceEach]
  | cons c later ih =>
    rw [Text.doubled_cons]
    split
    · rename_i same
      subst same
      simp [unquote, ih, Function.comp_def]
    · rename_i other
      rw [List.cons_append, unquote_other other, ih, Option.map_map]
      rfl

theorem unquote_enclosed {quote : Char} {rest : List Char} (apart : rest.head? ≠ some quote)
    (text : List Char) :
    unquote quote (Text.replaceEach quote [quote, quote] text ++ quote :: rest) =
      some (text, rest) := by
  rw [unquote_doubled, unquote_closing apart]
  simp

theorem breaks_not_quote {quote : Char} {rest : List Char} (breaks : Breaks rest)
    (isQuote : isBreak quote = false) : rest.head? ≠ some quote := by
  intro same
  rw [Breaks, same] at breaks
  simp [isQuote] at breaks

theorem enclosed_toList (quote : Char) (text : String) :
    (enclosed quote text).toList =
      quote :: Text.replaceEach quote [quote, quote] text.toList ++ [quote] := by
  simp [enclosed]

theorem spells_enclosed_name (text : String) :
    Spells (enclosed Text.doubleQuote text).toList [.name text.toList] := by
  intro rest breaks
  have read := unquote_enclosed (breaks_not_quote breaks (by decide : isBreak Text.doubleQuote = false))
    text.toList
  rw [enclosed_toList, List.append_assoc, List.singleton_append, List.cons_append, scan,
    if_neg (by decide), if_neg (by decide), if_neg (by decide), if_pos rfl, read]
  rfl

theorem spells_enclosed_text (text : String) :
    Spells (enclosed Text.singleQuote text).toList [.text text.toList] := by
  intro rest breaks
  have read := unquote_enclosed (breaks_not_quote breaks (by decide : isBreak Text.singleQuote = false))
    text.toList
  rw [enclosed_toList, List.append_assoc, List.singleton_append, List.cons_append, scan,
    if_neg (by decide), if_neg (by decide), if_neg (by decide), if_neg (by decide), if_pos rfl, read]
  rfl

end Sql.Lexeme

end TableTalk
