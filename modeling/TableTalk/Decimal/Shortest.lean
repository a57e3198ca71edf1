import TableTalk.Decimal.Binary

namespace TableTalk.Decimal

structure Digits where
  digits : Nat
  exponent : Int
deriving Repr, DecidableEq

def width (n : Nat) : Nat :=
  (Nat.toDigits 10 n).length

/-- The interval of fractions that round to a number, all three times four so that the halfway points
are whole multiples of the last place. -/
structure Rounding where
  low : Fraction
  value : Fraction
  high : Fraction
  closed : Bool

/-- The fractions that round to `significand * 2 ^ exponent`. Below a power of two the numbers lie
twice as dense, so the lower end is nearer there. -/
def Rounding.of (significand : Nat) (exponent : Int) : Rounding :=
  let below := if significand = Nat.pow 2 52 ∧ -1074 < exponent then 1 else 2
  { low := .scaled (4 * significand - below) (exponent - 2)
    value := .scaled (4 * significand) (exponent - 2)
    high := .scaled (4 * significand + 2) (exponent - 2)
    closed := significand % 2 = 0 }

def Rounding.holds (r : Rounding) (f : Fraction) : Bool :=
  match r.low.cmp f, f.cmp r.high with
  | .lt, .lt => true
  | .gt, _ | _, .gt => false
  | _, _ => r.closed

def leadingExponent (f : Fraction) : Int :=
  let guess : Int := (width f.num : Int) - (width f.den : Int)
  if (Fraction.decimal 1 guess).cmp f = .gt then guess - 1 else guess

def gap (small large : Fraction) : Nat :=
  large.num * small.den - small.num * large.den

/-- The neighbours of the value on the grid of multiples of `10 ^ exponent` that round to it, the
nearer one if both do; an exact tie goes to the even neighbour. -/
def Rounding.onGrid? (r : Rounding) (exponent : Int) : Option Nat :=
  let down := match exponent with
    | .ofNat n => r.value.num / (r.value.den * Nat.pow 10 n)
    | .negSucc n => r.value.num * Nat.pow 10 (n + 1) / r.value.den
  let lower := Fraction.decimal down exponent
  let upper := Fraction.decimal (down + 1) exponent
  match r.holds lower, r.holds upper with
  | true, true =>
    let left := gap lower r.value * upper.den
    let right := gap r.value upper * lower.den
    if left < right then some down
    else if right < left then some (down + 1)
    else some (if down % 2 = 0 then down else down + 1)
  | true, false => some down
  | false, true => some (down + 1)
  | false, false => none

def dropZeros (fuel : Nat) (d : Digits) : Digits :=
  match fuel with
  | 0 => d
  | fuel + 1 =>
    if d.digits ≠ 0 ∧ d.digits % 10 = 0 then dropZeros fuel ⟨d.digits / 10, d.exponent + 1⟩ else d

/-- The shortest decimal that reads back as the positive number `significand * 2 ^ exponent`: grids of
one to seventeen digits are tried in turn, and seventeen always suffice. -/
def shortest (significand : Nat) (exponent : Int) : Digits :=
  let r := Rounding.of significand exponent
  let lead := leadingExponent r.value
  let grids := (List.range 17).map fun n : Nat => lead - n
  match grids.findSome? fun e => (r.onGrid? e).map (Digits.mk · e) with
  | some d => dropZeros 20 d
  | none => ⟨significand, 0⟩

end TableTalk.Decimal
