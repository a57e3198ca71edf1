import TableTalk.Value
import TableTalk.Text.Blank
import TableTalk.Text.Quoted

namespace TableTalk.Sql

/-- A word or sign of a statement. A placeholder becomes a value when the parameters are put in. -/
inductive Lexeme where
  | word (chars : List Char)
  | name (chars : List Char)
  | text (chars : List Char)
  | number (chars : List Char)
  | sign (chars : List Char)
  | placeholder
  | value (v : Value)

namespace Lexeme

def isWordStart (c : Char) : Bool :=
  c.isAlpha || c == '_' || 128 ≤ c.toNat

def isWordPart (c : Char) : Bool :=
  isWordStart c || c.isDigit || c == '$'

/-- Splits off what stands before the closing quote, a quote written twice standing for itself. -/
def unquote (quote : Char) : List Char → Option (List Char × List Char)
  | [] => none
  | [c] => if c = quote then some ([], []) else none
  | c :: d :: rest =>
    if c = quote then
      if d = quote then (unquote quote rest).map fun inner => (c :: inner.1, inner.2)
      else some ([], d :: rest)
    else (unquote quote (d :: rest)).map fun inner => (c :: inner.1, inner.2)

theorem length_of_unquote {quote : Char} {text inner rest : List Char}
    (h : unquote quote text = some (inner, rest)) : rest.length < text.length := by
  fun_induction unquote quote text generalizing inner rest with
  | case1 => simp at h
  | case2 => simp_all
  | case3 => simp_all
  | case4 more ih =>
    simp only [Option.map_eq_some_iff, Prod.exists, Prod.mk.injEq] at h
    obtain ⟨x, y, found, -, rfl⟩ := h
    have := ih found
    simp only [List.length_cons]
    omega
  | case5 => simp only [Option.some.injEq, Prod.mk.injEq] at h; simp [← h.2]
  | case6 c d more _ ih =>
    simp only [Option.map_eq_some_iff, Prod.exists, Prod.mk.injEq] at h
    obtain ⟨x, y, found, -, rfl⟩ := h
    have := ih found
    simp only [List.length_cons] at this ⊢
    omega

theorem length_dropWhile_le (p : Char → Bool) (text : List Char) :
    (text.dropWhile p).length ≤ text.length :=
  (List.dropWhile_sublist p).length_le

def isSign (c : Char) : Bool :=
  c == '(' || c == ')' || c == '*' || c == '=' || c == '<' || c == '>'

def scan (text : List Char) : Option (List Lexeme) :=
  match text with
  | [] => some []
  | c :: rest =>
    if Text.isBlank c then scan rest
    else if isWordStart c then
      (scan (rest.dropWhile isWordPart)).map (.word (c :: rest.takeWhile isWordPart) :: ·)
    else if c.isDigit then
      (scan (rest.dropWhile Char.isDigit)).map (.number (c :: rest.takeWhile Char.isDigit) :: ·)
    else if c = Text.doubleQuote then
      match _closed : unquote c rest with
      | some (inner, after) => (scan after).map (.name inner :: ·)
      | none => none
    else if c = Text.singleQuote then
      match _closed : unquote c rest with
      | some (inner, after) => (scan after).map (.text inner :: ·)
      | none => none
    else if c = '?' then (scan rest).map (.placeholder :: ·)
    else if (c = '<' || c = '>') && rest.head? = some '=' then
      (scan rest.tail).map (.sign [c, '='] :: ·)
    else if isSign c then (scan rest).map (.sign [c] :: ·)
    else none
termination_by text.length
decreasing_by
  · simp only [List.length_cons]; omega
  · have := length_dropWhile_le isWordPart rest
    simp only [List.length_cons]; omega
  · have := length_dropWhile_le Char.isDigit rest
    simp only [List.length_cons]; omega
  · have := length_of_unquote _closed
    simp only [List.length_cons]; omega
  · have := length_of_unquote _closed
    simp only [List.length_cons]; omega
  · simp only [List.length_cons]; omega
  · simp only [List.length_cons, List.length_tail]; omega
  · simp only [List.length_cons]; omega

def bind : List Lexeme → List Value → Option (List Lexeme)
  | [], [] => some []
  | [], _ :: _ => none
  | .placeholder :: _, [] => none
  | .placeholder :: rest, v :: values => (bind rest values).map (.value v :: ·)
  | lexeme :: rest, values => (bind rest values).map (lexeme :: ·)

def isKeyword (keyword : String) : Lexeme → Bool
  | .word chars => chars.map Char.toUpper == keyword.toList
  | _ => false

def isSignOf (sign : String) : Lexeme → Bool
  | .sign chars => chars == sign.toList
  | _ => false

end Lexeme

end TableTalk.Sql
