import TableTalk.Proofs.Tagging.Candidates
import TableTalk.Proofs.Text.Spacing

namespace TableTalk.ComparisonHit

theorem groupEnds_eq (taken : Nat) (text : List Char) :
    groupEnds taken text = match text with
      | comma :: a :: b :: c :: rest =>
        if comma = ',' ∧ (Text.isDecimal a && Text.isDecimal b && Text.isDecimal c) = true then
          groupEnds (taken + 4) rest ++ [taken + 4]
        else []
      | _ => [] := by
  fun_cases groupEnds taken text with
  | case1 a b c rest digits => simp [digits]
  | case2 a b c rest digits => simp [digits]
  | case3 =>
    rename_i shape
    split
    · rename_i comma a b c rest
      rw [if_neg fun both => shape a b c rest (by rw [both.1])]
    · rfl

theorem withFraction_eq (text : List Char) (whole : Nat) :
    withFraction text whole = match text.drop whole with
      | [] => [whole]
      | point :: rest =>
        if point = '.' then
          (List.range (rest.takeWhile Text.isDecimal).length).reverse.map (fun n => whole + 1 + (n + 1)) ++ [whole]
        else [whole] := by
  unfold withFraction
  split
  · rename_i rest behind
    rw [behind]
    simp
  · rename_i shape
    split
    · rfl
    · rename_i point rest behind
      rw [if_neg fun same => shape rest (by rw [behind, same])]

def isNumeralChar (c : Char) : Bool :=
  Text.isDecimal c || c == ',' || c == '.'

def Numeral (text : List Char) (n : Nat) : Prop :=
  ∀ c ∈ text.take n, isNumeralChar c = true

theorem numeral_add {text : List Char} {m n : Nat} (front : Numeral text m)
    (back : Numeral (text.drop m) n) : Numeral text (m + n) := by
  intro c member
  rw [List.take_add, List.mem_append] at member
  exact member.elim (front c) (back c)

theorem numeral_cons {c : Char} {text : List Char} {n : Nat} (first : isNumeralChar c = true)
    (later : Numeral text n) : Numeral (c :: text) (n + 1) := by
  intro d member
  rw [List.take_succ_cons, List.mem_cons] at member
  rcases member with rfl | inside
  · exact first
  · exact later d inside

theorem numeral_digits {text : List Char} {n : Nat}
    (bound : n ≤ (text.takeWhile Text.isDecimal).length) : Numeral text n := by
  intro c member
  rw [← List.takeWhile_append_dropWhile (p := Text.isDecimal) (l := text),
    List.take_append_of_le_length bound] at member
  have digit : Text.isDecimal c = true :=
    List.all_eq_true.mp List.all_takeWhile c (List.mem_of_mem_take member)
  simp [isNumeralChar, digit]

theorem groupEnds_numeral {taken n : Nat} {text : List Char} (member : n ∈ groupEnds taken text) :
    ∃ m, n = taken + m ∧ Numeral text m := by
  fun_induction groupEnds taken text with
  | case1 taken a b c rest digits ih =>
    simp only [Bool.and_eq_true] at digits
    have group : Numeral (',' :: a :: b :: c :: rest) 4 := by
      have one : isNumeralChar a = true := by simp [isNumeralChar, digits.1.1]
      have two : isNumeralChar b = true := by simp [isNumeralChar, digits.1.2]
      have three : isNumeralChar c = true := by simp [isNumeralChar, digits.2]
      have nothing : Numeral rest 0 := by simp [Numeral]
      exact numeral_cons rfl (numeral_cons one (numeral_cons two (numeral_cons three nothing)))
    rcases List.mem_append.mp member with later | last
    · obtain ⟨m, rfl, rest⟩ := ih later
      exact ⟨4 + m, by omega, numeral_add group rest⟩
    · cases List.mem_singleton.mp last
      exact ⟨4, rfl, group⟩
  | case2 => cases member
  | case3 => cases member

theorem wholeLengths_numeral {text : List Char} {n : Nat} (member : n ∈ wholeLengths text) :
    Numeral text n := by
  unfold wholeLengths at member
  rcases List.mem_append.mp member with grouped | plain
  · obtain ⟨lead, among, ends⟩ := List.mem_flatMap.mp grouped
    obtain ⟨k, below, rfl⟩ := List.mem_map.mp among
    rw [List.mem_reverse, List.mem_range] at below
    obtain ⟨m, rfl, groups⟩ := groupEnds_numeral ends
    exact numeral_add (numeral_digits (by omega)) groups
  · obtain ⟨k, below, rfl⟩ := List.mem_map.mp plain
    rw [List.mem_reverse, List.mem_range] at below
    exact numeral_digits (by omega)

theorem withFraction_numeral {text : List Char} {whole n : Nat} (front : Numeral text whole)
    (member : n ∈ withFraction text whole) : Numeral text n := by
  unfold withFraction at member
  split at member
  · rename_i rest behind
    rcases List.mem_append.mp member with fraction | plain
    · obtain ⟨k, below, rfl⟩ := List.mem_map.mp fraction
      rw [List.mem_reverse, List.mem_range] at below
      have digits : Numeral (text.drop whole) (1 + (k + 1)) := by
        rw [behind, Nat.add_comm]
        exact numeral_cons rfl (numeral_digits (by omega))
      rw [Nat.add_assoc]
      exact numeral_add front digits
    · cases List.mem_singleton.mp plain
      exact front
  · cases List.mem_singleton.mp member
    exact front

theorem numeralLength?_numeral {text : List Char} {n : Nat} (found : numeralLength? text = some n) :
    Numeral text n := by
  obtain ⟨whole, among, tried⟩ := List.exists_of_findSome?_eq_some found
  exact withFraction_numeral (wholeLengths_numeral among) (List.mem_of_find?_eq_some tried)

theorem numeralLength?_boundary {text : List Char} {n : Nat} (found : numeralLength? text = some n) :
    Text.isBoundary (text.take n).getLast? (text.drop n).head? = true := by
  obtain ⟨whole, _, tried⟩ := List.exists_of_findSome?_eq_some found
  have ends := List.find?_some tried
  exact ends

theorem find?_same {α : Type} {p q : α → Bool} {items : List α} (same : ∀ a ∈ items, p a = q a) :
    items.find? p = items.find? q := by
  induction items with
  | nil => rfl
  | cons a rest ih =>
    obtain ⟨here, later⟩ := List.forall_mem_cons.mp same
    rw [List.find?_cons, List.find?_cons, here, ih later]

theorem findSome?_same {α β : Type} {f g : α → Option β} {items : List α} (same : ∀ a ∈ items, f a = g a) :
    items.findSome? f = items.findSome? g := by
  induction items with
  | nil => rfl
  | cons a rest ih =>
    obtain ⟨here, later⟩ := List.forall_mem_cons.mp same
    rw [List.findSome?_cons, List.findSome?_cons, here, ih later]

def Closing (behind : List Char) : Prop :=
  ∀ c, behind.head? = some c → Text.isBlank c = true

theorem takeWhile_closing {p : Char → Bool} (visible : ∀ c, Text.isBlank c = true → p c = false)
    {behind : List Char} (closing : Closing behind) (text : List Char) :
    (text ++ behind).takeWhile p = text.takeWhile p := by
  have none : behind.takeWhile p = [] := by
    cases behind with
    | nil => rfl
    | cons c rest => rw [List.takeWhile_cons, visible c (closing c rfl), if_neg Bool.false_ne_true]
  rw [List.takeWhile_append]
  split
  · rename_i whole
    rw [none, List.append_nil]
    exact ((List.takeWhile_sublist _).eq_of_length whole).symm
  · rfl

theorem groupEnds_blank {taken : Nat} {text : List Char} {c : Char} (among : c ∈ text.take 4)
    (blank : Text.isBlank c = true) : groupEnds taken text = [] := by
  fun_cases groupEnds taken text with
  | case1 x y z rest digits =>
    have other := Text.isDecimal_blank blank
    simp only [Bool.and_eq_true] at digits
    simp only [List.take_succ_cons, List.take_zero, List.mem_cons, List.not_mem_nil, or_false] at among
    rcases among with rfl | rfl | rfl | rfl
    · exact absurd blank (by decide)
    · simp [other] at digits
    · simp [other] at digits
    · simp [other] at digits
  | case2 => rfl
  | case3 => rfl

theorem groupEnds_closing {behind : List Char} (closing : Closing behind) (taken : Nat) (text : List Char) :
    groupEnds taken (text ++ behind) = groupEnds taken text := by
  induction taken, text using groupEnds.induct with
  | case1 taken a b c rest digits ih =>
    simp only [List.cons_append, groupEnds, digits, ↓reduceIte, ih]
  | case2 taken a b c rest digits => simp [groupEnds, digits]
  | case3 text taken shape =>
    have none : groupEnds taken text = [] := by
      unfold groupEnds
      split
      · exact absurd rfl (shape _ _ _ _)
      · rfl
    rw [none]
    cases behind with
    | nil => rw [List.append_nil, none]
    | cons d others =>
      by_cases short : text.length < 4
      · refine groupEnds_blank (c := d) ?_ (closing d rfl)
        rw [List.take_append, List.take_of_length_le (by omega)]
        have more : 4 - text.length = 3 - text.length + 1 := by omega
        rw [more, List.take_succ_cons]
        simp
      · rcases text with _ | ⟨comma, _ | ⟨a, _ | ⟨b, _ | ⟨c, rest⟩⟩⟩⟩
        · simp at short
        · simp at short
        · simp at short
        · simp at short
        · have other : comma ≠ ',' := fun same => shape a b c rest (by rw [same])
          rw [groupEnds_eq]
          simp [other]

theorem wholeLengths_closing {behind : List Char} (closing : Closing behind) (text : List Char) :
    wholeLengths (text ++ behind) = wholeLengths text := by
  have digits := takeWhile_closing (fun _ => Text.isDecimal_blank) closing text
  have inside : (text.takeWhile Text.isDecimal).length ≤ text.length := (List.takeWhile_sublist _).length_le
  unfold wholeLengths
  simp only [digits]
  congr 1
  rw [List.flatMap, List.flatMap]
  congr 1
  apply List.map_congr_left
  intro lead among
  obtain ⟨k, below, rfl⟩ := List.mem_map.mp among
  rw [List.mem_reverse, List.mem_range] at below
  rw [List.drop_append_of_le_length (by omega), groupEnds_closing closing]

theorem withFraction_closing {behind : List Char} (closing : Closing behind) {text : List Char} {whole : Nat}
    (inside : whole ≤ text.length) : withFraction (text ++ behind) whole = withFraction text whole := by
  rw [withFraction_eq, withFraction_eq, List.drop_append_of_le_length inside]
  cases text.drop whole with
  | nil =>
    cases behind with
    | nil => rfl
    | cons d others =>
      have other : d ≠ '.' := by
        intro same
        have blank := closing d rfl
        rw [same] at blank
        exact absurd blank (by decide)
      simp [other]
  | cons point rest => simp [takeWhile_closing (fun _ => Text.isDecimal_blank) closing rest]

theorem isBoundary_closing {behind : List Char} (closing : Closing behind) {text : List Char} {n : Nat}
    (inside : n ≤ text.length) :
    Text.isBoundary ((text ++ behind).take n).getLast? ((text ++ behind).drop n).head? =
      Text.isBoundary (text.take n).getLast? (text.drop n).head? := by
  rw [List.take_append_of_le_length inside, List.drop_append_of_le_length inside]
  cases text.drop n with
  | nil =>
    cases behind with
    | nil => rfl
    | cons d others => simp [Text.isBoundary, Text.isWordChar_blank (closing d rfl)]
  | cons c rest => rfl

/-- What stands behind a blank has no part in where a numeral ends. -/
theorem numeralLength?_closing {behind : List Char} (closing : Closing behind) (text : List Char) :
    numeralLength? (text ++ behind) = numeralLength? text := by
  unfold numeralLength?
  rw [wholeLengths_closing closing]
  apply findSome?_same
  intro whole among
  have inside := wholeLengths_le among
  rw [withFraction_closing closing inside]
  apply find?_same
  intro n tried
  exact isBoundary_closing closing (withFraction_le inside tried)

end TableTalk.ComparisonHit
