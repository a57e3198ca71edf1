import TableTalk.Value
import TableTalk.Text.Quoted

namespace TableTalk.Json

/-- Why a text is no JSON. The number is that of the characters left where reading stopped. -/
inductive Fault where
  | stopped (left : Nat)
  | integerTooLong
deriving Repr, DecidableEq

abbrev Step (α : Type) := Except Fault (α × List Char)

def stop {α : Type} (rest : List Char) : Step α :=
  .error (.stopped rest.length)

def isSpace (c : Char) : Bool :=
  c = ' ' || c = '\t' || c = '\n' || c = '\r'

def skipSpaces (text : List Char) : List Char :=
  text.dropWhile isSpace

def readUnit? (text : List Char) : Option (Nat × List Char) :=
  match text with
  | a :: b :: c :: d :: next :: rest => do
    let digits ← [a, b, c, d].mapM Text.hexValue?
    return (digits.foldl (fun n digit => 16 * n + digit) 0, next :: rest)
  | _ => none

def shortEscape? (c : Char) : Option Char :=
  if c = Text.doubleQuote ∨ c = Text.backslash ∨ c = '/' then some c
  else if c = 'b' then some (Char.ofNat 8)
  else if c = 'f' then some (Char.ofNat 12)
  else if c = 'n' then some '\n'
  else if c = 'r' then some '\r'
  else if c = 't' then some '\t'
  else none

def isHighSurrogate (unit : Nat) : Bool := 0xD800 ≤ unit && unit < 0xDC00

def isLowSurrogate (unit : Nat) : Bool := 0xDC00 ≤ unit && unit < 0xE000

def ofUnit (unit : Nat) : Char :=
  if 0xD800 ≤ unit ∧ unit < 0xE000 then Char.ofNat 0xFFFD else Char.ofNat unit

def readUnitEscape (text : List Char) : Step Char :=
  match readUnit? text with
  | none => .error (.stopped (text.length + 1))
  | some (unit, rest) =>
    match isHighSurrogate unit, rest with
    | true, slash :: 'u' :: more =>
      if slash = Text.backslash then
        match readUnit? more with
        | some (low, rest) =>
          if isLowSurrogate low then
            .ok (Char.ofNat (0x10000 + (unit - 0xD800) * 1024 + (low - 0xDC00)), rest)
          else .ok (ofUnit unit, slash :: 'u' :: more)
        | none => .ok (ofUnit unit, slash :: 'u' :: more)
      else .ok (ofUnit unit, rest)
    | _, rest => .ok (ofUnit unit, rest)

/-- Reads a text up to its closing quote. A text that is never closed is refused at its opening quote, from
where `opened` is what is left; `fuel` bounds the number of characters. -/
def readText (opened : List Char) (read : List Char) (fuel : Nat) (text : List Char) :
    Except Fault (String × List Char) :=
  match fuel, text with
  | 0, _ | _, [] => stop opened
  | fuel + 1, c :: rest =>
    if c = Text.doubleQuote then .ok (String.ofList read.reverse, rest)
    else if c = Text.backslash then
      match rest with
      | [] => stop opened
      | 'u' :: rest => do
        let (unit, rest) ← readUnitEscape rest
        readText opened (unit :: read) fuel rest
      | e :: rest => match shortEscape? e with
        | some c => readText opened (c :: read) fuel rest
        | none => stop text
    else if c.toNat < 32 then stop text
    else readText opened (c :: read) fuel rest

def splitDigits (text : List Char) : List Char × List Char :=
  (text.takeWhile Char.isDigit, text.dropWhile Char.isDigit)

def splitFraction (text : List Char) : List Char × List Char :=
  match text with
  | '.' :: rest => match splitDigits rest with
    | ([], _) => ([], text)
    | found => found
  | _ => ([], text)

def splitExponent (text : List Char) : Option Int × List Char :=
  match text with
  | mark :: rest =>
    if mark = 'e' ∨ mark = 'E' then
      let (negative, rest) := Decimal.splitSign rest
      match splitDigits rest with
      | ([], _) => (none, text)
      | (digits, rest) =>
        let n : Int := Decimal.ofDigits (Decimal.digitValues digits)
        (some (if negative then -n else n), rest)
    else (none, text)
  | [] => (none, text)

def readNumber (text : List Char) : Except Fault (Value × List Char) :=
  let (negative, body) := match text with
    | '-' :: rest => (true, rest)
    | _ => (false, text)
  let (whole, rest) := match body with
    | '0' :: rest => (['0'], rest)
    | _ => splitDigits body
  if whole.isEmpty then stop text
  else
    let (fraction, rest) := splitFraction rest
    let (exponent, rest) := splitExponent rest
    match fraction, exponent with
    | [], none =>
      match Decimal.readDigits whole with
      | .ok n => .ok (.int (if negative then -(n : Int) else n), rest)
      | .error _ => .error .integerTooLong
    | _, _ =>
      let digits := Decimal.ofDigits (Decimal.digitValues (whole ++ fraction))
      let shift : Int := exponent.getD 0 - fraction.length
      .ok (.float (Decimal.ofDecimal negative digits shift), rest)

def words : List (String × Value) := [
  ("null", .null), ("true", .bool true), ("false", .bool false),
  ("NaN", .float Decimal.notANumber), ("Infinity", .float Decimal.infinity),
  ("-Infinity", .float Decimal.negativeInfinity)]

def readWord? (text : List Char) : Option (Value × List Char) :=
  words.findSome? fun (word, value) =>
    if word.toList.isPrefixOf text then some (value, text.drop word.length) else none

mutual

/-- Reads a value that starts at the front of a text; `fuel` bounds the depth and the length of its
collections and texts. Twice the length of the text is enough, as no level takes more than two steps before
its first character. -/
def readValue (fuel : Nat) (text : List Char) : Except Fault (Value × List Char) :=
  match fuel with
  | 0 => stop text
  | fuel + 1 =>
    match text with
    | [] => stop text
    | '{' :: rest =>
      let rest := skipSpaces rest
      match rest with
      | '}' :: rest => .ok (.mapping [], rest)
      | rest => do
        let (entries, rest) ← readEntries fuel [] rest
        return (.mapping entries, rest)
    | '[' :: rest =>
      let rest := skipSpaces rest
      match rest with
      | ']' :: rest => .ok (.list [], rest)
      | rest => do
        let (items, rest) ← readItems fuel [] rest
        return (.list items, rest)
    | c :: rest =>
      if c = Text.doubleQuote then do
        let (s, rest) ← readText (c :: rest) [] fuel rest
        return (.text s, rest)
      else match readWord? (c :: rest) with
        | some found => .ok found
        | none => readNumber (c :: rest)

def readItems (fuel : Nat) (read : List Value) (text : List Char) :
    Except Fault (List Value × List Char) :=
  match fuel with
  | 0 => stop text
  | fuel + 1 => do
    let (item, rest) ← readValue fuel text
    match skipSpaces rest with
    | ']' :: rest => return ((item :: read).reverse, rest)
    | ',' :: rest => readItems fuel (item :: read) (skipSpaces rest)
    | rest => stop rest

def readEntries (fuel : Nat) (read : List (Value × Value)) (text : List Char) :
    Except Fault (List (Value × Value) × List Char) :=
  match fuel with
  | 0 => stop text
  | fuel + 1 =>
    match text with
    | [] => stop text
    | c :: rest =>
      if c = Text.doubleQuote then do
        let (key, rest) ← readText text [] fuel rest
        match skipSpaces rest with
        | ':' :: rest => do
          let (value, rest) ← readValue fuel (skipSpaces rest)
          let read := Value.putEntry (.text key) value read
          match skipSpaces rest with
          | '}' :: rest => return (read, rest)
          | ',' :: rest => readEntries fuel read (skipSpaces rest)
          | rest => stop rest
        | rest => stop rest
      else stop text

end

inductive ReadError where
  | invalidAt (offset : Nat)
  | integerTooLong
deriving Repr, DecidableEq

def read (source : String) : Except ReadError Value :=
  let text := source.toList
  let offset (left : Nat) : Nat := text.length - left
  match readValue (2 * text.length + 1) (skipSpaces text) with
  | .error (.stopped left) => .error (.invalidAt (offset left))
  | .error .integerTooLong => .error .integerTooLong
  | .ok (value, rest) =>
    match skipSpaces rest with
    | [] => .ok value
    | rest => .error (.invalidAt (offset rest.length))

end TableTalk.Json
