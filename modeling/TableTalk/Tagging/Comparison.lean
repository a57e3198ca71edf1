import TableTalk.Lexicon.Basic
import TableTalk.Text.Substring
import TableTalk.Text.Blank
import TableTalk.Text.Word
import TableTalk.Value

namespace TableTalk

structure ComparisonHit where
  start : Nat
  stop : Nat
  phrase : List Char
  numeral : List Char
deriving Repr, DecidableEq

namespace ComparisonHit

def literal? : List Char → List Char → Option (List Char)
  | [], text => some text
  | _ :: _, [] => none
  | c :: literal, d :: text => if Text.alike c d then literal? literal text else none

def blanks? (text : List Char) : Option (List Char) :=
  match text with
  | [] => none
  | c :: rest => if Text.isBlank c then some (rest.dropWhile Text.isBlank) else none

def words? : List (List Char) → List Char → Option (List Char)
  | [], text => some text
  | [word], text => literal? word text
  | word :: rest, text => do words? rest (← blanks? (← literal? word text))

/-- The beginnings of a text that are groups of a comma and three digits, longest first; only those with
a group are counted. -/
def groupEnds (taken : Nat) : (text : List Char) → List Nat
  | ',' :: a :: b :: c :: rest =>
    if Text.isDecimal a && Text.isDecimal b && Text.isDecimal c then
      groupEnds (taken + 4) rest ++ [taken + 4]
    else []
  | _ => []

def wholeLengths (text : List Char) : List Nat :=
  let digits := (text.takeWhile Text.isDecimal).length
  let leads := (List.range (min digits 3)).reverse.map (· + 1)
  let grouped := leads.flatMap fun n => groupEnds n (text.drop n)
  grouped ++ (List.range digits).reverse.map (· + 1)

def withFraction (text : List Char) (whole : Nat) : List Nat :=
  match text.drop whole with
  | '.' :: rest =>
    let digits := (rest.takeWhile Text.isDecimal).length
    (List.range digits).reverse.map (fun n => whole + 1 + (n + 1)) ++ [whole]
  | _ => [whole]

/-- The length of the numeral at the front of a text: the first candidate behind which a word ends. -/
def numeralLength? (text : List Char) : Option Nat :=
  (wholeLengths text).findSome? fun whole => (withFraction text whole).find? fun n =>
    Text.isBoundary (text.take n).getLast? (text.drop n).head?

def atFront? (offset : Nat) (text : List Char) (phrase : List (List Char)) : Option ComparisonHit := do
  let behind ← words? phrase text
  let number ← blanks? behind
  let length ← numeralLength? number
  let stop := offset + (text.length - number.length) + length
  return ⟨offset, stop, text.take (text.length - behind.length), number.take length⟩

/-- The comparisons in a text. `before` is the character before the text, and the first `skip` characters
belong to the comparison found last. -/
def scanFrom (phrases : List (List (List Char))) (offset : Nat) (before : Option Char) (skip : Nat) :
    List Char → List ComparisonHit
  | [] => []
  | c :: rest =>
    match skip with
    | skip + 1 => scanFrom phrases (offset + 1) (some c) skip rest
    | 0 =>
      let found :=
        if Text.isBoundary before (some c) then phrases.findSome? (atFront? offset (c :: rest))
        else none
      match found with
      | some hit => hit :: scanFrom phrases (offset + 1) (some c) (hit.stop - offset - 1) rest
      | none => scanFrom phrases (offset + 1) (some c) 0 rest

def scan (comparisons : List (String × Bound)) (text : List Char) : List ComparisonHit :=
  let phrases := comparisons.map fun entry => Text.fieldsOf entry.1.toList
  scanFrom phrases 0 none 0 text

/-- The direction of a comparison. Of two declarations of a phrase the later one counts. -/
def bound? (comparisons : List (String × Bound)) (hit : ComparisonHit) : Option Bound :=
  let phrase := Text.collapse (Text.lower (String.ofList hit.phrase))
  (comparisons.reverse.find? fun entry => Text.collapse entry.1 == phrase).map Prod.snd

def number (hit : ComparisonHit) : Except Decimal.IntegerFault Value :=
  let digits := hit.numeral.filter (· != ',')
  if digits.contains '.' then
    match Decimal.readFloat? (String.ofList digits) with
    | some x => .ok (.float x)
    | none => .error .malformed
  else (Decimal.readInteger (String.ofList digits)).map .int

end ComparisonHit

end TableTalk
