import TableTalk.Proofs.Sql.Scanning

namespace TableTalk

namespace Text

/-- Quotes occur in a text in pairs only, counted from its start. -/
inductive Paired (quote : Char) : List Char → Prop where
  | nil : Paired quote []
  | other {c : Char} {rest : List Char} (other : c ≠ quote) (paired : Paired quote rest) : Paired quote (c :: rest)
  | pair {rest : List Char} (paired : Paired quote rest) : Paired quote (quote :: quote :: rest)

def undoubled (quote : Char) : List Char → List Char
  | [] => []
  | [c] => [c]
  | c :: d :: rest =>
    if c = quote ∧ d = quote then quote :: undoubled quote rest else c :: undoubled quote (d :: rest)

theorem undoubled_other {quote c : Char} (other : c ≠ quote) (rest : List Char) :
    undoubled quote (c :: rest) = c :: undoubled quote rest := by
  cases rest with
  | nil => rfl
  | cons d more => rw [undoubled, if_neg fun both => other both.1]

theorem paired_doubled (quote : Char) (text : List Char) : Paired quote (replaceEach quote [quote, quote] text) := by
  induction text with
  | nil => exact .nil
  | cons c rest ih =>
    rw [doubled_cons]
    split
    · exact .pair ih
    · rename_i other
      exact .other other ih

theorem undoubled_doubled (quote : Char) (text : List Char) :
    undoubled quote (replaceEach quote [quote, quote] text) = text := by
  induction text with
  | nil => rfl
  | cons c rest ih =>
    rw [doubled_cons]
    split
    · rename_i same
      rw [undoubled, if_pos ⟨rfl, rfl⟩, ih, same]
    · rename_i other
      rw [undoubled_other other, ih]

end Text

namespace Sql

open Text

variable {name : String}

structure StandsPlain (name : String) : Prop where
  nonempty : name ≠ ""
  lowercase : lower name = name
  letters : ∀ c ∈ name.toList, isAlphanumeric c = true ∨ c = '_'
  start : ∀ c ∈ name.toList.head?, isDigit c = false
  unreserved : name ∉ reservedNames

theorem isNameChar_iff {c : Char} : isNameChar c = true ↔ isAlphanumeric c = true ∨ c = '_' := by
  rw [isNameChar, Bool.or_eq_true, beq_iff_eq]

theorem isPlain_iff : isPlain name = true ↔ StandsPlain name := by
  unfold isPlain
  split
  · rename_i empty
    exact ⟨fun holds => absurd holds Bool.false_ne_true,
      fun plain => absurd (String.toList_eq_nil_iff.mp empty) plain.nonempty⟩
  · rename_i c rest chars
    have nonempty : name ≠ "" := fun empty => by simp [empty] at chars
    simp only [Bool.and_eq_true, Bool.not_eq_true', List.all_eq_true, isNameChar_iff, beq_iff_eq,
      List.contains_eq_mem, decide_eq_false_iff_not]
    constructor
    · rintro ⟨⟨⟨start, letters⟩, lowercase⟩, unreserved⟩
      refine ⟨nonempty, lowercase, chars ▸ letters, ?_, unreserved⟩
      rw [chars]
      rintro d ⟨⟩
      exact start
    · rintro ⟨_, lowercase, letters, start, unreserved⟩
      rw [chars] at letters start
      exact ⟨⟨⟨start c rfl, letters⟩, lowercase⟩, unreserved⟩

theorem quoteIdentifier_plain (plain : StandsPlain name) : quoteIdentifier name = name := by
  rw [quoteIdentifier, isPlain_iff.mpr plain, Bool.or_true, if_pos rfl]

theorem quoteIdentifier_enclosed (single : name ≠ "*") (other : ¬ StandsPlain name) :
    quoteIdentifier name = enclosed doubleQuote name := by
  rw [quoteIdentifier, if_neg]
  simp [single, isPlain_iff, other]

/-- The name that is written as a text: behind a quote, what is left without the quotes around it and the second one of
every pair, and else the text itself. -/
def nameWritten (text : String) : String :=
  match text.toList with
  | [] => text
  | c :: rest => if c = doubleQuote then String.ofList (undoubled doubleQuote rest.dropLast) else text

theorem nameWritten_unquoted (unquoted : text.toList.head? ≠ some doubleQuote) : nameWritten text = text := by
  unfold nameWritten
  split
  · rfl
  · rename_i c rest chars
    rw [if_neg]
    rintro rfl
    exact unquoted (by rw [chars]; rfl)

theorem nameWritten_enclosed (name : String) : nameWritten (enclosed doubleQuote name) = name := by
  rw [nameWritten, Lexeme.enclosed_toList, List.cons_append]
  dsimp only
  rw [if_pos rfl, List.dropLast_concat, undoubled_doubled, String.ofList_toList]

theorem nameWritten_quoteIdentifier (name : String) : nameWritten (quoteIdentifier name) = name := by
  by_cases single : name = "*"
  · subst single
    rfl
  · by_cases plain : StandsPlain name
    · rw [quoteIdentifier_plain plain]
      refine nameWritten_unquoted fun quoted => ?_
      have letter := plain.letters _ (List.mem_of_mem_head? quoted)
      exact absurd letter (by decide)
    · rw [quoteIdentifier_enclosed single plain, nameWritten_enclosed]

theorem quoteIdentifier_injective : Function.Injective quoteIdentifier :=
  Function.LeftInverse.injective nameWritten_quoteIdentifier

/-- How a name stands in quotes. Whatever comes behind them, a reader that looks for the closing quote does not find it
before the end of the name, and it stops there if no further quote follows. -/
structure StandsInQuotes (name : String) (inner : List Char) : Prop where
  written : quoteIdentifier name = String.ofList (doubleQuote :: inner ++ [doubleQuote])
  paired : Paired doubleQuote inner
  stripped : undoubled doubleQuote inner = name.toList
  passed : ∀ rest, Lexeme.unquote doubleQuote (inner ++ rest) =
    (Lexeme.unquote doubleQuote rest).map fun read => (name.toList ++ read.1, read.2)
  closed : ∀ rest, rest.head? ≠ some doubleQuote →
    Lexeme.unquote doubleQuote (inner ++ doubleQuote :: rest) = some (name.toList, rest)

theorem standsInQuotes (single : name ≠ "*") (other : ¬ StandsPlain name) :
    StandsInQuotes name (replaceEach doubleQuote [doubleQuote, doubleQuote] name.toList) where
  written := quoteIdentifier_enclosed single other
  paired := paired_doubled doubleQuote name.toList
  stripped := undoubled_doubled doubleQuote name.toList
  passed := Lexeme.unquote_doubled doubleQuote name.toList
  closed := fun _ apart => Lexeme.unquote_enclosed apart name.toList

/-- A name stands as it is or in quotes that it cannot leave, and no two names are written alike. -/
theorem identifier_lossless :
    (∀ name, name ≠ "*" → StandsPlain name ∧ quoteIdentifier name = name ∨
      ¬ StandsPlain name ∧ ∃ inner, StandsInQuotes name inner) ∧
      Function.Injective quoteIdentifier := by
  refine ⟨fun name single => ?_, quoteIdentifier_injective⟩
  by_cases plain : StandsPlain name
  · exact .inl ⟨plain, quoteIdentifier_plain plain⟩
  · exact .inr ⟨plain, _, standsInQuotes single plain⟩

theorem two_quotes_enclosed :
    "odd\"\"name" ≠ "*" ∧ quoteIdentifier "odd\"\"name" = "\"odd\"\"\"\"name\"" ∧
      ∃ inner, StandsInQuotes "odd\"\"name" inner := by
  have single : "odd\"\"name" ≠ "*" := by decide
  rcases identifier_lossless.1 _ single with ⟨plain, _⟩ | ⟨_, quoted⟩
  · exact absurd (isPlain_iff.mpr plain) (by decide +kernel)
  · exact ⟨single, by decide +kernel, quoted⟩

end Sql

end TableTalk
