import TableTalk.Decimal.Fixed
import TableTalk.Text.Blank
import TableTalk.Text.Digit
import TableTalk.Text.Case

namespace TableTalk.Decimal

def ofDigits (digits : List Nat) : Nat :=
  digits.foldl (fun n d => 10 * n + d) 0

/-- The floating point number nearest to `digits * 10 ^ exponent`. Sizes far outside of the range of
floating point numbers are settled without computing the power. -/
def ofDecimal (negative : Bool) (digits : Nat) (exponent : Int) : Float :=
  let lead : Int := exponent + width digits
  if digits = 0 ∨ lead < -400 then nearest negative ⟨0, 1⟩
  else if 400 < lead then (if negative then negativeInfinity else infinity)
  else nearest negative (.decimal digits exponent)

inductive IntegerFault where
  | malformed
  | tooLong (digits : Nat)
deriving Repr, DecidableEq

def maxIntegerDigits : Nat := 4300

def readDigits (digits : List Char) : Except IntegerFault Nat :=
  if maxIntegerDigits < digits.length then .error (.tooLong digits.length)
  else match digits.mapM Text.digitValue? with
    | some values => .ok (ofDigits values)
    | none => .error .malformed

def withoutUnderscores? : List Char → Option (List Char)
  | [] => some []
  | c :: '_' :: d :: rest =>
    if Text.isDecimal c ∧ Text.isDecimal d then (withoutUnderscores? (d :: rest)).map (c :: ·)
    else none
  | c :: rest => if c = '_' then none else (withoutUnderscores? rest).map (c :: ·)

def splitSign : List Char → Bool × List Char
  | '-' :: rest => (true, rest)
  | '+' :: rest => (false, rest)
  | text => (false, text)

def readInteger (text : String) : Except IntegerFault Int :=
  let (negative, body) := splitSign (Text.trimmed text.toList)
  match withoutUnderscores? body with
  | none | some [] => .error .malformed
  | some digits =>
    if digits.all Text.isDecimal then
      (readDigits digits).map fun n => if negative then -(n : Int) else n
    else .error .malformed

def digitValues (digits : List Char) : List Nat :=
  digits.filterMap Text.digitValue?

def readUnsigned? (negative : Bool) (text : List Char) : Option Float :=
  let whole := text.takeWhile Text.isDecimal
  let rest := text.dropWhile Text.isDecimal
  let (fraction, rest) := match rest with
    | '.' :: rest => (rest.takeWhile Text.isDecimal, rest.dropWhile Text.isDecimal)
    | _ => ([], rest)
  let digits := whole ++ fraction
  if digits.isEmpty then none
  else
    let value (exponent : Int) : Float :=
      ofDecimal negative (ofDigits (digitValues digits)) (exponent - fraction.length)
    match rest with
    | [] => some (value 0)
    | mark :: rest =>
      let (down, exponent) := splitSign rest
      if (mark = 'e' ∨ mark = 'E') ∧ exponent ≠ [] ∧ exponent.all Text.isDecimal then
        let n : Int := ofDigits (digitValues exponent)
        some (value (if down then -n else n))
      else none

def readFloat? (text : String) : Option Float :=
  let (negative, body) := splitSign (Text.trimmed text.toList)
  let word := String.ofList (body.map Char.toLower)
  if word = "inf" ∨ word = "infinity" then some (if negative then negativeInfinity else infinity)
  else if word = "nan" then some notANumber
  else (withoutUnderscores? body).bind (readUnsigned? negative)

end TableTalk.Decimal
