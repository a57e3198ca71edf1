import TableTalk.Decimal.Shortest

namespace TableTalk.Decimal

structure Layout where
  positionalFrom : Int
  positionalBelow : Int
  keepsPoint : Bool
  exponentWidth : Nat
  infinite : String
  notANumber : String

def padded (width n : Nat) : String :=
  let digits := Nat.toDigits 10 n
  String.ofList (List.replicate (width - digits.length) '0' ++ digits)

def positional (layout : Layout) (d : Digits) : String :=
  match d.exponent with
  | .ofNat n =>
    toString (d.digits * Nat.pow 10 n) ++ (if layout.keepsPoint then ".0" else "")
  | .negSucc n =>
    let scale := Nat.pow 10 (n + 1)
    toString (d.digits / scale) ++ "." ++ padded (n + 1) (d.digits % scale)

def scientific (layout : Layout) (d : Digits) : String :=
  let digits := Nat.toDigits 10 d.digits
  let lead : Int := d.exponent + digits.length - 1
  let significand := match digits with
    | [] => ""
    | [c] => String.ofList [c]
    | c :: rest => String.ofList (c :: '.' :: rest)
  significand ++ (if lead < 0 then "e-" else "e+") ++ padded layout.exponentWidth lead.natAbs

def Layout.write (layout : Layout) (d : Digits) : String :=
  let lead : Int := d.exponent + width d.digits - 1
  if layout.positionalFrom ≤ lead ∧ lead < layout.positionalBelow then positional layout d
  else scientific layout d

def Layout.render (layout : Layout) (x : Float) : String :=
  match parts x with
  | .notANumber => layout.notANumber
  | .infinite negative => (if negative then "-" else "") ++ layout.infinite
  | .finite negative significand exponent =>
    let magnitude :=
      if significand = 0 then positional layout ⟨0, 0⟩
      else layout.write (shortest significand exponent)
    (if negative then "-" else "") ++ magnitude

/-- Numbers in answers: positional from a ten thousandth up to below ten to the sixteenth, always with
a point or an exponent, an exponent of at least two digits. -/
def answerLayout : Layout :=
  { positionalFrom := -4
    positionalBelow := 16
    keepsPoint := true
    exponentWidth := 2
    infinite := "inf"
    notANumber := "nan" }

end TableTalk.Decimal
