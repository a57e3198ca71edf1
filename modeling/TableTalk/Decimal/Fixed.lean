import TableTalk.Decimal.Layout

namespace TableTalk.Decimal

def roundedUnits (places significand : Nat) (exponent : Int) : Nat :=
  let f := Fraction.scaled significand exponent
  roundDiv (f.num * Nat.pow 10 places) f.den

def fixed (places : Nat) (x : Float) : String :=
  match parts x with
  | .notANumber => "nan"
  | .infinite negative => if negative then "-inf" else "inf"
  | .finite negative significand exponent =>
    let units := roundedUnits places significand exponent
    let scale := Nat.pow 10 places
    let sign := if negative then "-" else ""
    if places = 0 then sign ++ toString units
    else sign ++ toString (units / scale) ++ "." ++ padded places (units % scale)

def quotient (num den : Nat) : Float :=
  nearest false ⟨num, den⟩

def roundTo (places : Nat) (x : Float) : Float :=
  match parts x with
  | .finite negative significand exponent =>
    nearest negative ⟨roundedUnits places significand exponent, Nat.pow 10 places⟩
  | _ => x

end TableTalk.Decimal
