import TableTalk.Store.Frame
import TableTalk.Decimal.Fixed

namespace TableTalk

namespace Decimal

def rowPlaces : Nat := 10

/-- The units of the last place that a part below one comes to. The product with the power of ten is
itself rounded first; a half goes up from an odd number of units and from zero. -/
def fractionUnits (rest : Fraction) : Nat :=
  match parts (nearest false ⟨rest.num * Nat.pow 10 rowPlaces, rest.den⟩) with
  | .finite _ significand exponent =>
    let scaled := Fraction.scaled significand exponent
    let units := scaled.num / scaled.den
    let left := 2 * (scaled.num % scaled.den)
    if scaled.den < left || (left == scaled.den && (units == 0 || units % 2 == 1)) then units + 1
    else units
  | _ => 0

def significantDigits (negative : Bool) (f : Fraction) : Float :=
  let shift : Int := rowPlaces - 1 - leadingExponent f
  match shift with
  | .ofNat n => nearest negative ⟨roundDiv (f.num * Nat.pow 10 n) f.den, Nat.pow 10 n⟩
  | .negSucc n => nearest negative ⟨roundDiv f.num (f.den * Nat.pow 10 (n + 1)) * Nat.pow 10 (n + 1), 1⟩

def rowNumber (x : Float) : Option Float :=
  match parts x with
  | .finite negative significand exponent =>
    let f := Fraction.scaled significand exponent
    if significand = 0 then some (nearest false ⟨0, 1⟩)
    else if Nat.pow 10 16 - 1 < f.num / f.den || f.num * Nat.pow 10 15 < f.den then
      some (significantDigits negative f)
    else
      let units := fractionUnits ⟨f.num % f.den, f.den⟩
      some (nearest negative ⟨f.num / f.den * Nat.pow 10 rowPlaces + units, Nat.pow 10 rowPlaces⟩)
  | _ => none

end Decimal

mutual

def Value.inRow : Value → Value
  | .float x => (Decimal.rowNumber x).elim .null .float
  | .moment m => .text m.isoMillis
  | .list items => .list (Value.inRows items)
  | .mapping entries => .mapping (Value.entriesInRows entries)
  | value => value

def Value.inRows : List Value → List Value
  | [] => []
  | item :: rest => item.inRow :: Value.inRows rest

def Value.entriesInRows : List (Value × Value) → List (Value × Value)
  | [] => []
  | (key, value) :: rest => (key, value.inRow) :: Value.entriesInRows rest

end

def Frame.toRecords (f : Frame) : List (List (String × Value)) :=
  if f.isEmpty then []
  else f.records.map fun record => record.map fun entry => (entry.1, entry.2.inRow)

end TableTalk
