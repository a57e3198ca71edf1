import Mathlib
import TableTalk.Decimal.Binary

namespace TableTalk.Decimal

open Float.Model Float.Model.UnpackedFloat

/-- What a floating point number stands for: a number, one of the two infinite ones, or none. -/
inductive Amount where
  | number (q : ℚ)
  | infinite (negative : Bool)
  | missing

def signed (negative : Bool) (significand : Nat) (exponent : Int) : ℚ :=
  (if negative then -1 else 1) * (significand * 2 ^ exponent)

def Parts.amount : Parts → Amount
  | .finite negative significand exponent => .number (signed negative significand exponent)
  | .infinite negative => .infinite negative
  | .notANumber => .missing

def amount (x : Float) : Amount :=
  (parts x).amount

def Parts.ofUnpacked : UnpackedFloat → Parts
  | .infinity sign => .infinite (sign == .negative)
  | .notANumber => .notANumber
  | .zero sign => .finite (sign == .negative) 0 (-1074)
  | .finite sign significand exponent _ => .finite (sign == .negative) significand exponent

theorem isNegative_ofBitVec (b : BitVec 1) : (Sign.ofBitVec b == .negative) = decide (b.toNat = 1) := by
  revert b
  decide

section Fields

variable (b : BitVec Format.binary64.numBits)

theorem toNat_mantissa : (unpackMantissa b).toNat = b.toNat % Nat.pow 2 52 := by
  simp [unpackMantissa]

theorem toNat_exponent : (unpackExponent b).toNat = b.toNat / Nat.pow 2 52 % Nat.pow 2 11 := by
  simp [unpackExponent, Nat.shiftRight_eq_div_pow]

theorem toNat_sign : (unpackSign b).toNat = b.toNat / Nat.pow 2 63 := by
  have bound : b.toNat < 2 ^ 64 := b.isLt
  simp [unpackSign, Nat.shiftRight_eq_div_pow]
  omega

theorem exponent_top : unpackExponent b = -1#_ ↔ b.toNat / Nat.pow 2 52 % Nat.pow 2 11 = 2047 := by
  rw [← toNat_exponent, ← BitVec.toNat_inj]
  rfl

theorem exponent_bottom : unpackExponent b = 0#_ ↔ b.toNat / Nat.pow 2 52 % Nat.pow 2 11 = 0 := by
  rw [← toNat_exponent, ← BitVec.toNat_inj]
  rfl

theorem mantissa_zero : unpackMantissa b = 0#_ ↔ b.toNat % Nat.pow 2 52 = 0 := by
  rw [← toNat_mantissa, ← BitVec.toNat_inj]
  rfl

theorem toNat_leading : (1#1 ++ unpackMantissa b).toNat = Nat.pow 2 52 + b.toNat % Nat.pow 2 52 := by
  rw [← toNat_mantissa]
  change 2 ^ 52 ||| (unpackMantissa b).toNat = _
  rw [Nat.or_comm, Nat.or_two_pow_eq_add_of_lt (unpackMantissa b).isLt, Nat.add_comm]
  rfl

theorem isNegative_sign : (Sign.ofBitVec (unpackSign b) == .negative) = decide (b.toNat / Nat.pow 2 63 = 1) := by
  rw [isNegative_ofBitVec, toNat_sign]

theorem ofUnpacked_unpack : Parts.ofUnpacked (UnpackedFloat.unpack .binary64 b) =
    if b.toNat / Nat.pow 2 52 % Nat.pow 2 11 = 2047 then
      if b.toNat % Nat.pow 2 52 = 0 then .infinite (b.toNat / Nat.pow 2 63 = 1) else .notANumber
    else if b.toNat / Nat.pow 2 52 % Nat.pow 2 11 = 0 then
      .finite (b.toNat / Nat.pow 2 63 = 1) (b.toNat % Nat.pow 2 52) (-1074)
    else
      .finite (b.toNat / Nat.pow 2 63 = 1) (Nat.pow 2 52 + b.toNat % Nat.pow 2 52)
        ((b.toNat / Nat.pow 2 52 % Nat.pow 2 11 : Nat) - 1075) := by
  unfold UnpackedFloat.unpack
  dsimp only
  by_cases top : unpackExponent b = -1#_
  · rw [if_pos top, if_pos ((exponent_top b).mp top)]
    by_cases empty : unpackMantissa b = 0#_
    · rw [if_pos empty, if_pos ((mantissa_zero b).mp empty), Parts.ofUnpacked, isNegative_sign]
    · rw [if_neg empty, if_neg fun none => empty ((mantissa_zero b).mpr none), Parts.ofUnpacked]
  rw [if_neg top, if_neg fun full => top ((exponent_top b).mpr full)]
  by_cases bottom : unpackExponent b = 0#_
  · rw [if_pos bottom, if_pos ((exponent_bottom b).mp bottom)]
    by_cases empty : unpackMantissa b = 0#_
    · rw [dif_pos empty, Parts.ofUnpacked, isNegative_sign, (mantissa_zero b).mp empty]
    · rw [dif_neg empty, Parts.ofUnpacked, isNegative_sign, toNat_mantissa, bottom]
      rfl
  · rw [if_neg bottom, if_neg fun none => bottom ((exponent_bottom b).mpr none), Parts.ofUnpacked, isNegative_sign,
      toNat_leading, toNat_exponent]
    rfl

end Fields

theorem parts_eq (x : Float) : parts x = .ofUnpacked x.toModel.unpack :=
  (ofUnpacked_unpack x.toModel.toBits.toBitVec).symm

structure Canonical (significand : Nat) (exponent : Int) : Prop where
  small : significand < 2 ^ 53
  least : -1074 ≤ exponent
  leading : 2 ^ 52 ≤ significand ∨ exponent = -1074

theorem canonical_parts {x : Float} {negative : Bool} {significand : Nat} {exponent : Int}
    (read : parts x = .finite negative significand exponent) : Canonical significand exponent := by
  have rest := Nat.mod_lt x.toBits.toNat (show 0 < Nat.pow 2 52 by decide)
  have powers : Nat.pow 2 52 = 2 ^ 52 := rfl
  unfold parts at read
  dsimp only at read
  split_ifs at read
  · cases read
    exact ⟨by omega, le_refl _, Or.inr rfl⟩
  · cases read
    exact ⟨by omega, by omega, Or.inl (by omega)⟩

theorem Canonical.le_of_eq {m n : Nat} {e f : Int} (one : Canonical m e) (other : Canonical n f)
    (same : (m * 2 ^ e : ℚ) = n * 2 ^ f) : f ≤ e := by
  by_contra less
  obtain ⟨d, rfl⟩ := Int.le.dest (show e + 1 ≤ f by omega)
  -- a higher exponent would need a smaller significand than there is
  have high : 2 ^ 52 ≤ n := other.leading.resolve_right (by have := one.least; omega)
  have scaled : (m : ℚ) = n * 2 ^ (d + 1) := by
    have positive : (2 : ℚ) ^ e ≠ 0 := zpow_ne_zero _ two_ne_zero
    apply mul_right_cancel₀ positive
    rw [same, add_assoc, zpow_add₀ two_ne_zero, mul_assoc, mul_comm ((2 : ℚ) ^ e)]
    norm_cast
    rw [Nat.add_comm]
  have whole : m = n * 2 ^ (d + 1) := by exact_mod_cast scaled
  have small := one.small
  have twice : 2 ≤ 2 ^ (d + 1) := by
    rw [pow_succ]
    exact Nat.le_mul_of_pos_left 2 (Nat.two_pow_pos d)
  have large := Nat.mul_le_mul high twice
  omega

theorem Canonical.unique {m n : Nat} {e f : Int} (one : Canonical m e) (other : Canonical n f)
    (same : (m * 2 ^ e : ℚ) = n * 2 ^ f) : m = n ∧ e = f := by
  have exponents := le_antisymm (other.le_of_eq one same.symm) (one.le_of_eq other same)
  subst exponents
  have positive : (2 : ℚ) ^ e ≠ 0 := zpow_ne_zero _ two_ne_zero
  exact ⟨by exact_mod_cast mul_right_cancel₀ positive same, rfl⟩

theorem signed_pos {m : Nat} (positive : 0 < m) (e : Int) : 0 < (m * 2 ^ e : ℚ) :=
  mul_pos (by exact_mod_cast positive) (zpow_pos two_pos e)

theorem signed_inj {s t : Bool} {m n : Nat} {e f : Int} (one : Canonical m e) (other : Canonical n f)
    (positive : 0 < m) (same : signed s m e = signed t n f) : s = t ∧ m = n ∧ e = f := by
  have up := signed_pos positive e
  have down : 0 ≤ (n * 2 ^ f : ℚ) := mul_nonneg (Nat.cast_nonneg n) (zpow_pos two_pos f).le
  cases s <;> cases t <;> simp only [signed, Bool.false_eq_true, if_true, if_false, one_mul, neg_one_mul] at same
  · exact ⟨rfl, one.unique other same⟩
  · exact absurd same (by linarith)
  · exact absurd same (by linarith)
  · exact ⟨rfl, one.unique other (neg_injective same)⟩

theorem signed_zero (negative : Bool) (e : Int) : signed negative 0 e = 0 := by
  simp [signed]

theorem amount_eq (x : Float) : amount x = (Parts.ofUnpacked x.toModel.unpack).amount := by
  rw [amount, parts_eq]

theorem isNaN_iff (x : Float) : isNaN x = true ↔ amount x = .missing := by
  rw [isNaN, decide_eq_true_eq, amount]
  cases parts x <;> simp [Parts.amount]

theorem isNegative_inj {s t : Sign} : (s == .negative) = (t == .negative) ↔ s = t := by
  cases s <;> cases t <;> simp

theorem canonical_unpacked {x : Float} {s : Sign} {m : Nat} {e : Int} {positive : 0 < m}
    (read : x.toModel.unpack = .finite s m e positive) : Canonical m e :=
  canonical_parts (show parts x = .finite (s == .negative) m e by rw [parts_eq, read, Parts.ofUnpacked])

theorem amount_zero_ne (s t : Sign) {m : Nat} (positive : 0 < m) (e : Int) :
    (Parts.ofUnpacked (.zero s)).amount ≠ (Parts.ofUnpacked (.finite t m e positive)).amount := by
  have up := signed_pos positive e
  simp only [Parts.ofUnpacked, Parts.amount, signed_zero, ne_eq, Amount.number.injEq]
  intro same
  unfold signed at same
  split at same <;> linarith

theorem amount_finite_iff {s t : Sign} {m n : Nat} {e f : Int} {up : 0 < m} {down : 0 < n} (one : Canonical m e)
    (other : Canonical n f) :
    (Parts.ofUnpacked (.finite s m e up)).amount = (Parts.ofUnpacked (.finite t n f down)).amount ↔
      s = t ∧ m = n ∧ e = f := by
  simp only [Parts.ofUnpacked, Parts.amount, Amount.number.injEq]
  constructor
  · intro same
    obtain ⟨signs, rest⟩ := signed_inj one other up same
    exact ⟨isNegative_inj.mp signs, rest⟩
  · rintro ⟨rfl, rfl, rfl⟩
    rfl

/-- Two floating point numbers are equal, or both of them no numbers, exactly if they stand for the same. -/
theorem amount_eq_iff (x y : Float) : (x == y || (isNaN x && isNaN y)) = true ↔ amount x = amount y := by
  have equal : (x == y) = true ↔ _ := beq_iff_ne_notANumber_and_eq x.toModel.unpack y.toModel.unpack
  rw [Bool.or_eq_true, Bool.and_eq_true, equal, isNaN_iff, isNaN_iff, amount_eq, amount_eq]
  cases u : x.toModel.unpack with
  | notANumber => cases v : y.toModel.unpack <;> simp [Parts.ofUnpacked, Parts.amount]
  | infinity s =>
    cases v : y.toModel.unpack with
    | infinity t =>
      simp only [Parts.ofUnpacked, Parts.amount, Amount.infinite.injEq, isNegative_inj]
      simp
    | _ => simp [Parts.ofUnpacked, Parts.amount]
  | zero s =>
    cases v : y.toModel.unpack with
    | zero t => cases s <;> cases t <;> simp [Parts.ofUnpacked, Parts.amount, signed_zero]
    | finite t n f down =>
      exact iff_of_false (by simp [Parts.ofUnpacked, Parts.amount]) (amount_zero_ne s t down f)
    | _ => simp [Parts.ofUnpacked, Parts.amount]
  | finite s m e up =>
    cases v : y.toModel.unpack with
    | zero t =>
      exact iff_of_false (by simp [Parts.ofUnpacked, Parts.amount]) (amount_zero_ne t s up e).symm
    | finite t n f down =>
      rw [amount_finite_iff (canonical_unpacked u) (canonical_unpacked v)]
      simp [Parts.ofUnpacked, Parts.amount]
    | _ => simp [Parts.ofUnpacked, Parts.amount]

theorem scaled_eq (significand : Nat) (exponent : Int) :
    ((Fraction.scaled significand exponent).num : ℚ) =
      significand * 2 ^ exponent * (Fraction.scaled significand exponent).den := by
  cases exponent with
  | ofNat k =>
    change ((significand * 2 ^ k : Nat) : ℚ) = significand * 2 ^ (k : Int) * (1 : Nat)
    rw [zpow_natCast]
    push_cast
    rw [mul_one]
  | negSucc k =>
    change (significand : ℚ) = significand * 2 ^ (Int.negSucc k) * (2 ^ (k + 1) : Nat)
    rw [zpow_negSucc]
    push_cast
    rw [mul_assoc, inv_mul_cancel₀ (by positivity), mul_one]

theorem scaled_den (significand : Nat) (exponent : Int) : 0 < (Fraction.scaled significand exponent).den := by
  cases exponent with
  | ofNat k => exact Nat.one_pos
  | negSucc k => exact Nat.two_pow_pos (k + 1)

theorem compareInt?_eq_iff (x : Float) (n : Int) : compareInt? x n = some .eq ↔ amount x = .number n := by
  rw [compareInt?, amount]
  cases parts x with
  | notANumber => simp [Parts.amount]
  | infinite negative => cases negative <;> simp [Parts.amount]
  | finite negative significand exponent =>
    have value := scaled_eq significand exponent
    have positive : ((Fraction.scaled significand exponent).den : ℚ) ≠ 0 := by
      exact_mod_cast (scaled_den significand exponent).ne'
    simp only [Parts.amount, Option.some.injEq, compare_eq_iff_eq, Amount.number.injEq, signed]
    rw [← mul_left_inj' positive, mul_assoc, ← value, ← Int.cast_inj (α := ℚ)]
    split <;> push_cast <;> simp

end TableTalk.Decimal
