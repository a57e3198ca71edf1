import Mathlib.Data.List.TakeWhile
import TableTalk.Proofs.Sql.Statements
import TableTalk.Proofs.Tagging.NumeralForms
import TableTalk.Proofs.Text.LetterCase

namespace TableTalk

open Text

namespace Decimal

theorem trimmed_visible {text : List Char} (shown : ∀ c ∈ text, isBlank c = false) : trimmed text = text := by
  have other {text : List Char} (shown : ∀ c ∈ text, isBlank c = false) : text.dropWhile isSpace = text := by
    cases text with
    | nil => rfl
    | cons c rest =>
      have plain : isSpace c = false := by rw [isSpace, shown c List.mem_cons_self, Bool.false_and]
      rw [List.dropWhile_cons, plain, if_neg Bool.false_ne_true]
  rw [trimmed, other shown, other fun c member => shown c (List.mem_reverse.mp member), List.reverse_reverse]

theorem withoutUnderscores?_plain {text : List Char} (plain : '_' ∉ text) : withoutUnderscores? text = some text := by
  fun_induction withoutUnderscores? text with
  | case1 => rfl
  | case2 c d rest both ih => simp at plain
  | case3 c d rest other => simp at plain
  | case4 rest shape => simp at plain
  | case5 c rest shape other ih =>
    rw [List.mem_cons, not_or] at plain
    rw [ih plain.2]
    rfl

theorem mapM_decimal {digits : List Char} (decimal : AllDecimal digits) :
    digits.mapM digitValue? = some (digitValues digits) := by
  induction digits with
  | nil => rfl
  | cons c rest ih =>
    obtain ⟨digit, later⟩ := List.forall_mem_cons.mp decimal
    obtain ⟨value, found⟩ := Option.isSome_iff_exists.mp digit
    rw [List.mapM_cons, found, ih later, digitValues, digitValues, List.filterMap_cons_some found]
    rfl

theorem splitSign_decimal {digits : List Char} (decimal : AllDecimal digits) (nonempty : digits ≠ [])
    (rest : List Char) : splitSign (digits ++ rest) = (false, digits ++ rest) := by
  obtain ⟨c, more, rfl⟩ := List.exists_cons_of_ne_nil nonempty
  have digit := decimal c List.mem_cons_self
  have minus := ne_of_decimal digit (by decide : isDecimal '-' = false)
  have plus := ne_of_decimal digit (by decide : isDecimal '+' = false)
  rw [List.cons_append]
  unfold splitSign
  split
  · rename_i same
    exact absurd (List.cons.inj same).1 minus
  · rename_i same
    exact absurd (List.cons.inj same).1 plus
  · rfl

theorem readInteger_decimal {digits : List Char} (decimal : AllDecimal digits) (nonempty : digits ≠ []) :
    readInteger (String.ofList digits) =
      if maxIntegerDigits < digits.length then .error (.tooLong digits.length)
      else .ok (ofDigits (digitValues digits)) := by
  have shown : ∀ c ∈ digits, isBlank c = false := fun c member => not_blank_of_decimal (decimal c member)
  have plain : '_' ∉ digits := fun member => absurd (decimal '_' member) (by decide)
  have sign := splitSign_decimal decimal nonempty []
  rw [List.append_nil] at sign
  have all : digits.all isDecimal = true := List.all_eq_true.mpr decimal
  have read : readDigits digits = if maxIntegerDigits < digits.length then .error (.tooLong digits.length)
      else .ok (ofDigits (digitValues digits)) := by rw [readDigits, mapM_decimal decimal]
  unfold readInteger
  rw [String.toList_ofList, trimmed_visible shown, sign]
  dsimp only
  rw [withoutUnderscores?_plain plain]
  split
  · contradiction
  · rename_i same
    exact absurd (Option.some.inj same) nonempty
  · rename_i other same
    cases same
    rw [if_pos all, read]
    by_cases long : maxIntegerDigits < digits.length
    · rw [if_pos long, if_pos long]
      rfl
    · rw [if_neg long, if_neg long]
      rfl

theorem readUnsigned?_decimal {whole fraction : List Char} (decimal : AllDecimal whole) (nonempty : whole ≠ [])
    (fractional : AllDecimal fraction) : readUnsigned? false (whole ++ '.' :: fraction) =
      some (ofDecimal false (ofDigits (digitValues (whole ++ fraction))) (-fraction.length)) := by
  have front : (whole ++ '.' :: fraction).takeWhile isDecimal = whole := by
    rw [List.takeWhile_append_of_pos decimal, List.takeWhile_cons_of_neg (by decide), List.append_nil]
  have back : (whole ++ '.' :: fraction).dropWhile isDecimal = '.' :: fraction := by
    rw [List.dropWhile_append_of_pos decimal, List.dropWhile_cons_of_neg (by decide)]
  have taken : fraction.takeWhile isDecimal = fraction := List.takeWhile_eq_self_iff.mpr fractional
  have left : fraction.dropWhile isDecimal = [] := List.dropWhile_eq_nil_iff.mpr fractional
  have digits : (whole ++ fraction).isEmpty = false := by simp [nonempty]
  rw [readUnsigned?, front, back]
  simp only [taken, left, digits, Bool.false_eq_true, if_false, Int.zero_sub]

theorem readFloat?_decimal {whole fraction : List Char} (decimal : AllDecimal whole) (nonempty : whole ≠ [])
    (fractional : AllDecimal fraction) : readFloat? (String.ofList (whole ++ '.' :: fraction)) =
      some (ofDecimal false (ofDigits (digitValues (whole ++ fraction))) (-fraction.length)) := by
  have all : ∀ c ∈ whole ++ '.' :: fraction, isDecimal c = true ∨ c = '.' := by
    intro c member
    rcases List.mem_append.mp member with front | back
    · exact Or.inl (decimal c front)
    · rcases List.mem_cons.mp back with point | behind
      · exact Or.inr point
      · exact Or.inl (fractional c behind)
  have shown : ∀ c ∈ whole ++ '.' :: fraction, isBlank c = false := by
    intro c member
    rcases all c member with digit | rfl
    · exact not_blank_of_decimal digit
    · decide
  have plain : '_' ∉ whole ++ '.' :: fraction := by
    intro member
    rcases all _ member with digit | point
    · exact absurd digit (by decide)
    · exact absurd point (by decide)
  have word {first : Char} (letter : isDecimal first = false) (rest : List Char) :
      String.ofList ((whole ++ '.' :: fraction).map Char.toLower) ≠ String.ofList (first :: rest) := by
    obtain ⟨c, more, rfl⟩ := List.exists_cons_of_ne_nil nonempty
    intro same
    have chars := String.ofList_inj.mp same
    have digit := (isDecimal_toLower c).trans (decimal c List.mem_cons_self)
    exact ne_of_decimal digit letter (List.cons.inj chars).1
  have inf := word (by decide : isDecimal 'i' = false) ['n', 'f']
  have infinity := word (by decide : isDecimal 'i' = false) ['n', 'f', 'i', 'n', 'i', 't', 'y']
  have nan := word (by decide : isDecimal 'n' = false) ['a', 'n']
  unfold readFloat?
  rw [String.toList_ofList, trimmed_visible shown, splitSign_decimal decimal nonempty]
  dsimp only
  rw [if_neg (not_or.mpr ⟨inf, infinity⟩), if_neg nan, withoutUnderscores?_plain plain, Option.bind_some]
  exact readUnsigned?_decimal decimal nonempty fractional

end Decimal

namespace NumeralForm

def value (f : NumeralForm) : Value :=
  if f.fraction = [] then .int (Decimal.ofDigits (Decimal.digitValues f.digits))
  else .float (Decimal.ofDecimal false (Decimal.ofDigits (Decimal.digitValues (f.digits ++ f.fraction)))
    (-f.fraction.length))

theorem without_commas (f : NumeralForm) : f.chars.filter (· != ',') = f.digits ++ pointed f.fraction := by
  have plain {text : List Char} (decimal : AllDecimal text) : text.filter (· != ',') = text := by
    rw [List.filter_eq_self]
    exact fun c member => bne_iff_ne.mpr (ne_of_decimal (decimal c member) (by decide))
  have groups : (joined f.groups).filter (· != ',') = f.groups.flatten := by
    have triples := f.triples
    generalize f.groups = groups at triples
    induction groups with
    | nil => rfl
    | cons group rest ih =>
      obtain ⟨first, later⟩ := List.forall_mem_cons.mp triples
      rw [joined_cons, List.filter_cons_of_neg (by decide), List.filter_append, plain first.2, ih later,
        List.flatten_cons]
  have fraction : (pointed f.fraction).filter (· != ',') = pointed f.fraction := by
    have decimal := f.fractional
    cases more : f.fraction with
    | nil => rfl
    | cons c rest =>
      rw [more] at decimal
      exact congrArg ('.' :: ·) (plain decimal)
  rw [chars, whole, List.filter_append, List.filter_append, plain f.leading, groups, fraction, digits]

end NumeralForm

namespace ComparisonHit

open NumeralForm

theorem number_form {hit : ComparisonHit} {f : NumeralForm} (numeral : hit.numeral = f.chars) :
    hit.number = if f.fraction = [] ∧ Decimal.maxIntegerDigits < f.digits.length then .error (.tooLong f.digits.length)
      else .ok f.value := by
  have nonempty : f.digits ≠ [] := List.append_ne_nil_of_left_ne_nil f.nonempty _
  have noPoint : '.' ∉ f.digits := fun member => absurd (f.digits_decimal '.' member) (by decide)
  rw [number, numeral, f.without_commas, value]
  by_cases whole : f.fraction = []
  · have plain : f.digits.contains '.' = false := by simpa using noPoint
    rw [whole, pointed, List.append_nil, plain, if_neg Bool.false_ne_true, if_pos rfl,
      Decimal.readInteger_decimal f.digits_decimal nonempty]
    by_cases long : Decimal.maxIntegerDigits < f.digits.length
    · rw [if_pos long, if_pos ⟨rfl, long⟩]
      rfl
    · rw [if_neg long, if_neg fun both => long both.2]
      rfl
  · have point : (f.digits ++ '.' :: f.fraction).contains '.' = true := by simp
    rw [pointed_of_ne_nil whole, point, if_pos rfl, if_neg whole, if_neg fun both => whole both.1,
      Decimal.readFloat?_decimal f.digits_decimal nonempty f.fractional]

end ComparisonHit

def withCommas : List Char → List Char
  | [] => []
  | c :: rest => if rest ≠ [] ∧ rest.length % 3 = 0 then c :: ',' :: withCommas rest else c :: withCommas rest

def IsWritten (n : Nat) (numeral : List Char) : Prop :=
  numeral = Nat.toDigits 10 n ∨ numeral = withCommas (Nat.toDigits 10 n)

theorem IsWritten.digit_or_comma {n : Nat} {numeral : List Char} (written : IsWritten n numeral) :
    ∀ c ∈ numeral, c.isDigit = true ∨ c = ',' := by
  have digits : ∀ c ∈ Nat.toDigits 10 n, c.isDigit = true := Sql.isDigit_toDigits
  rcases written with rfl | rfl
  · exact fun c member => Or.inl (digits c member)
  · generalize Nat.toDigits 10 n = text at digits
    induction text with
    | nil => nofun
    | cons c rest ih =>
      obtain ⟨here, later⟩ := List.forall_mem_cons.mp digits
      rw [withCommas]
      split
      · exact List.forall_mem_cons.mpr ⟨Or.inl here, List.forall_mem_cons.mpr ⟨Or.inr rfl, ih later⟩⟩
      · exact List.forall_mem_cons.mpr ⟨Or.inl here, ih later⟩

namespace NumeralForm

theorem withCommas_form {digits : List Char} (decimal : AllDecimal digits) (nonempty : digits ≠ []) :
    ∃ f : NumeralForm, f.chars = withCommas digits ∧ f.digits = digits ∧ f.fraction = [] ∧
      f.lead.length = (digits.length - 1) % 3 + 1 := by
  induction digits with
  | nil => exact absurd rfl nonempty
  | cons c rest ih =>
    obtain ⟨digit, later⟩ := List.forall_mem_cons.mp decimal
    by_cases last : rest = []
    · subst last
      exact ⟨⟨[c], [], [], List.cons_ne_nil _ _, decimal, nofun, absurd rfl, nofun⟩, rfl, rfl, rfl, rfl⟩
    · obtain ⟨f, written, plain, whole, length⟩ := ih later last
      have positive := List.length_pos_iff.mpr last
      by_cases full : rest.length % 3 = 0
      · have triple : IsTriple f.lead := ⟨by omega, f.leading⟩
        refine ⟨⟨[c], f.lead :: f.groups, [], List.cons_ne_nil _ _, List.forall_mem_singleton.mpr digit,
          List.forall_mem_cons.mpr ⟨triple, f.triples⟩, fun _ => by simp, nofun⟩, ?_, ?_, rfl, ?_⟩
        · rw [withCommas, if_pos ⟨last, full⟩, ← written]
          simp [chars, NumeralForm.whole, joined_cons, whole]
        · exact congrArg (c :: ·) plain
        · simp only [List.length_cons, List.length_nil]
          omega
      · refine ⟨⟨c :: f.lead, f.groups, [], List.cons_ne_nil _ _, List.forall_mem_cons.mpr ⟨digit, f.leading⟩,
          f.triples, fun _ => ?_, nofun⟩, ?_, ?_, rfl, ?_⟩
        · simp only [List.length_cons]
          omega
        · rw [withCommas, if_neg fun both => full both.2, ← written]
          simp [chars, NumeralForm.whole, whole]
        · exact congrArg (c :: ·) plain
        · simp only [List.length_cons]
          omega

theorem isDecimal_digit {c : Char} (digit : c.isDigit = true) : isDecimal c = true := by
  have ascii := (alphanum_bounds (c := c) (by simp [Char.isAlphanum, digit])).2
  simp [isDecimal, digitValue?, ascii, digit]

theorem decimal_toDigits (n : Nat) : AllDecimal (Nat.toDigits 10 n) :=
  fun c member => isDecimal_digit (Sql.isDigit_toDigits c member)

theorem written_form {n : Nat} {numeral : List Char} (written : IsWritten n numeral) :
    ∃ f : NumeralForm, f.chars = numeral ∧ f.digits = Nat.toDigits 10 n ∧ f.fraction = [] := by
  rcases written with rfl | rfl
  · refine ⟨⟨Nat.toDigits 10 n, [], [], Nat.toDigits_ne_nil, decimal_toDigits n, nofun, absurd rfl, nofun⟩, ?_, ?_, rfl⟩
    · simp [chars, whole, joined, pointed]
    · simp [digits]
  · obtain ⟨f, same, plain, whole, _⟩ := withCommas_form (decimal_toDigits n) Nat.toDigits_ne_nil
    exact ⟨f, same, plain, whole⟩

theorem value_natural {f : NumeralForm} {n : Nat} (plain : f.digits = Nat.toDigits 10 n) (whole : f.fraction = []) :
    f.value = .int n := by
  rw [value, if_pos whole, plain, Sql.ofDigits_toDigits]

end NumeralForm

end TableTalk
