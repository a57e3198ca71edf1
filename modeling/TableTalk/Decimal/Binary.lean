namespace TableTalk.Decimal

structure Fraction where
  num : Nat
  den : Nat
deriving Repr, DecidableEq

def Fraction.scaled (num : Nat) (exponent : Int) : Fraction :=
  match exponent with
  | .ofNat n => ⟨num * Nat.pow 2 n, 1⟩
  | .negSucc n => ⟨num, Nat.pow 2 (n + 1)⟩

def Fraction.decimal (digits : Nat) (exponent : Int) : Fraction :=
  match exponent with
  | .ofNat n => ⟨digits * Nat.pow 10 n, 1⟩
  | .negSucc n => ⟨digits, Nat.pow 10 (n + 1)⟩

def Fraction.cmp (a b : Fraction) : Ordering :=
  compare (a.num * b.den) (b.num * a.den)

/-- What a floating point number stands for; a finite one is `significand * 2 ^ exponent`. -/
inductive Parts where
  | finite (negative : Bool) (significand : Nat) (exponent : Int)
  | infinite (negative : Bool)
  | notANumber
deriving Repr, DecidableEq

def parts (x : Float) : Parts :=
  let bits := x.toBits.toNat
  let negative := bits / Nat.pow 2 63 = 1
  let field : Nat := bits / Nat.pow 2 52 % Nat.pow 2 11
  let fraction : Nat := bits % Nat.pow 2 52
  if field = 2047 then
    if fraction = 0 then .infinite negative else .notANumber
  else if field = 0 then .finite negative fraction (-1074)
  else .finite negative (Nat.pow 2 52 + fraction) ((field : Int) - 1075)

def isFinite (x : Float) : Bool :=
  match parts x with
  | .finite .. => true
  | _ => false

def roundDiv (num den : Nat) : Nat :=
  let q := num / den
  let r := num % den
  if 2 * r < den then q
  else if den < 2 * r then q + 1
  else if q % 2 = 0 then q else q + 1

def exponentFor (f : Fraction) : Int :=
  let guess : Int := f.num.log2 - f.den.log2 - 53
  let scaledDown (e : Int) : Nat := match e with
    | .ofNat n => f.num / (f.den * Nat.pow 2 n)
    | .negSucc n => f.num * Nat.pow 2 (n + 1) / f.den
  let e := if Nat.pow 2 53 ≤ scaledDown guess then guess + 1 else guess
  max e (-1074)

def packed (negative : Bool) (significand : Nat) (exponent : Int) : Nat :=
  let (significand, exponent) :=
    if significand = Nat.pow 2 53 then (Nat.pow 2 52, exponent + 1) else (significand, exponent)
  let magnitude :=
    if 971 < exponent then 2047 * Nat.pow 2 52
    else if significand < Nat.pow 2 52 then significand
    else (exponent + 1075).toNat * Nat.pow 2 52 + (significand - Nat.pow 2 52)
  (if negative then Nat.pow 2 63 else 0) + magnitude

/-- The floating point number nearest to a fraction, the even one of two that are equally near. -/
def nearest (negative : Bool) (f : Fraction) : Float :=
  if f.num = 0 then Float.ofBits (UInt64.ofNat (packed negative 0 (-1074)))
  else
    let e := exponentFor f
    let significand := match e with
      | .ofNat n => roundDiv f.num (f.den * Nat.pow 2 n)
      | .negSucc n => roundDiv (f.num * Nat.pow 2 (n + 1)) f.den
    Float.ofBits (UInt64.ofNat (packed negative significand e))

def ofInt (n : Int) : Float :=
  nearest (n < 0) ⟨n.natAbs, 1⟩

def truncate? (x : Float) : Option Int :=
  match parts x with
  | .finite negative significand exponent =>
    let f := Fraction.scaled significand exponent
    let n : Int := (f.num / f.den : Nat)
    some (if negative then -n else n)
  | _ => none

def notANumber : Float := Float.ofBits 0x7FF8000000000000

def infinity : Float := Float.ofBits 0x7FF0000000000000

def negativeInfinity : Float := Float.ofBits 0xFFF0000000000000

def isNaN (x : Float) : Bool :=
  parts x = .notANumber

/-- The exact order of a floating point number and an integer; nothing is comparable with a missing
number. -/
def compareInt? (x : Float) (n : Int) : Option Ordering :=
  match parts x with
  | .finite negative significand exponent =>
    let f := Fraction.scaled significand exponent
    let value : Int := if negative then -(f.num : Int) else f.num
    some (compare value (n * f.den))
  | .infinite negative => some (if negative then .lt else .gt)
  | .notANumber => none

end TableTalk.Decimal
