import TableTalk.Proofs.Tagging.Numerals

namespace TableTalk

namespace Text

def spanned : List (Nat × Nat) → Nat × Nat → Bool
  | [], _ => false
  | (low, high) :: rest, span => Nat.ble low span.1 && (Nat.ble span.2 high || spanned rest span)

theorem inRanges_spanned {ranges : List (Nat × Nat)} {span : Nat × Nat} (spans : spanned ranges span = true) {c : Char}
    (low : span.1 ≤ c.toNat) (high : c.toNat ≤ span.2) : inRanges ranges c = true := by
  induction ranges with
  | nil => cases spans
  | cons range rest ih =>
    simp only [spanned, Bool.and_eq_true, Bool.or_eq_true, Nat.ble_eq] at spans
    obtain ⟨begins, ends⟩ := spans
    simp only [inRanges, Bool.and_eq_true, Bool.or_eq_true, decide_eq_true_eq]
    exact ⟨by omega, ends.imp (fun inside => by omega) ih⟩

theorem decimal_spanned : (decimalRanges.tail.all (spanned alphanumericRanges)) = true := by
  decide +kernel

theorem isWordChar_decimal {c : Char} (digit : isDecimal c = true) : isWordChar c = true := by
  rw [isDecimal, digitValue?] at digit
  rw [isWordChar, Bool.or_eq_true, isAlphanumeric]
  split at digit
  · rename_i ascii
    rw [if_pos ascii]
    split at digit
    · rename_i number
      exact Or.inr (by simp [Char.isAlphanum, number])
    · cases digit
  · rename_i other
    rw [if_neg other]
    rw [Option.isSome_map, Option.isSome_iff_exists] at digit
    obtain ⟨range, found⟩ := digit
    have fits := List.find?_some found
    simp only [Bool.and_eq_true, decide_eq_true_eq] at fits
    have member : range ∈ (0x30, 0x39) :: decimalRanges.tail := List.mem_of_find?_eq_some found
    rcases List.mem_cons.mp member with rfl | later
    · exact absurd fits.2 (by simp only; omega)
    · exact Or.inr (inRanges_spanned (List.all_eq_true.mp decimal_spanned range later) fits.1 fits.2)

theorem ne_of_decimal {c mark : Char} (digit : isDecimal c = true) (other : isDecimal mark = false) : c ≠ mark := by
  rintro rfl
  rw [other] at digit
  cases digit

theorem not_blank_of_decimal {c : Char} (digit : isDecimal c = true) : isBlank c = false := by
  rw [Bool.eq_false_iff]
  intro blank
  rw [isDecimal_blank blank] at digit
  cases digit

end Text

open Text

def AllDecimal (text : List Char) : Prop :=
  ∀ c ∈ text, isDecimal c = true

def LastDecimal (text : List Char) : Prop :=
  ∀ c, text.getLast? = some c → isDecimal c = true

theorem AllDecimal.last {text : List Char} (decimal : AllDecimal text) : LastDecimal text :=
  fun c last => decimal c (List.mem_of_getLast? last)

theorem LastDecimal.append {front back : List Char} (first : LastDecimal front) (second : LastDecimal back) :
    LastDecimal (front ++ back) := by
  intro c last
  rw [List.getLast?_append, Option.or_eq_some_iff] at last
  exact last.elim (second c) fun given => first c given.2

theorem LastDecimal.cons {rest : List Char} (later : LastDecimal rest) (nonempty : rest ≠ []) (c : Char) :
    LastDecimal (c :: rest) := by
  obtain ⟨d, more, rfl⟩ := List.exists_cons_of_ne_nil nonempty
  intro e last
  rw [List.getLast?_cons_cons] at last
  exact later e last

def IsTriple (group : List Char) : Prop :=
  group.length = 3 ∧ AllDecimal group

/-- The parts of a numeral: its first digits, the groups behind commas, and the digits behind the point. -/
structure NumeralForm where
  lead : List Char
  groups : List (List Char)
  fraction : List Char
  nonempty : lead ≠ []
  leading : AllDecimal lead
  triples : ∀ group ∈ groups, IsTriple group
  short : groups ≠ [] → lead.length ≤ 3
  fractional : AllDecimal fraction

namespace NumeralForm

def joined (groups : List (List Char)) : List Char :=
  groups.flatMap fun group => ',' :: group

def pointed : List Char → List Char
  | [] => []
  | digits => '.' :: digits

def whole (f : NumeralForm) : List Char :=
  f.lead ++ joined f.groups

def chars (f : NumeralForm) : List Char :=
  f.whole ++ pointed f.fraction

def digits (f : NumeralForm) : List Char :=
  f.lead ++ f.groups.flatten

theorem pointed_of_ne_nil {digits : List Char} (nonempty : digits ≠ []) : pointed digits = '.' :: digits := by
  cases digits with
  | nil => exact absurd rfl nonempty
  | cons c rest => rfl

theorem joined_cons (group : List Char) (groups : List (List Char)) :
    joined (group :: groups) = ',' :: (group ++ joined groups) :=
  rfl

theorem digits_decimal (f : NumeralForm) : AllDecimal f.digits := by
  intro c member
  rcases List.mem_append.mp member with lead | later
  · exact f.leading c lead
  · obtain ⟨group, among, inside⟩ := List.mem_flatten.mp later
    exact (f.triples group among).2 c inside

theorem chars_append (f : NumeralForm) (behind : List Char) :
    f.chars ++ behind = f.lead ++ (joined f.groups ++ (pointed f.fraction ++ behind)) := by
  simp only [chars, whole, List.append_assoc]

theorem chars_ne_nil (f : NumeralForm) : f.chars ≠ [] := by
  simp [chars, whole, f.nonempty]

theorem lastDecimal_chars (f : NumeralForm) : LastDecimal f.chars := by
  have groups : LastDecimal (joined f.groups) := by
    have triples := f.triples
    generalize f.groups = groups at triples
    induction groups with
    | nil => exact nofun
    | cons group rest ih =>
      obtain ⟨⟨length, decimal⟩, later⟩ := List.forall_mem_cons.mp triples
      have nonempty : group ++ joined rest ≠ [] :=
        List.append_ne_nil_of_left_ne_nil (List.ne_nil_of_length_pos (by omega)) _
      exact (decimal.last.append (ih later)).cons nonempty ','
  have fraction : LastDecimal (pointed f.fraction) := by
    have decimal := f.fractional
    cases more : f.fraction with
    | nil => exact nofun
    | cons c rest =>
      rw [more] at decimal
      exact decimal.last.cons (List.cons_ne_nil c rest) '.'
  exact (f.leading.last.append groups).append fraction

end NumeralForm

def IsNumeral (text : List Char) : Prop :=
  ∃ f : NumeralForm, f.chars = text

namespace ComparisonHit

open NumeralForm

theorem groupEnds_sound {taken n : Nat} {text : List Char} (member : n ∈ groupEnds taken text) :
    ∃ groups behind, groups ≠ [] ∧ (∀ group ∈ groups, IsTriple group) ∧ text = joined groups ++ behind ∧
      n = taken + (joined groups).length := by
  fun_induction groupEnds taken text with
  | case1 taken a b c rest digits ih =>
    simp only [Bool.and_eq_true] at digits
    have triple : IsTriple [a, b, c] := ⟨rfl, by simp [AllDecimal, digits]⟩
    rcases List.mem_append.mp member with later | last
    · obtain ⟨groups, behind, _, triples, rfl, rfl⟩ := ih later
      refine ⟨[a, b, c] :: groups, behind, List.cons_ne_nil _ _, List.forall_mem_cons.mpr ⟨triple, triples⟩, rfl, ?_⟩
      simp only [joined_cons, List.length_cons, List.length_append, List.length_nil]
      omega
    · rw [List.mem_singleton.mp last]
      exact ⟨[[a, b, c]], rest, List.cons_ne_nil _ _, List.forall_mem_singleton.mpr triple, rfl, rfl⟩
  | case2 => cases member
  | case3 => cases member

theorem take_decimal {text : List Char} {n : Nat} (bound : n ≤ (text.takeWhile isDecimal).length) :
    AllDecimal (text.take n) ∧ (text.take n).length = n := by
  have inside := (List.takeWhile_sublist isDecimal (l := text)).length_le
  refine ⟨fun c member => ?_, by rw [List.length_take, Nat.min_eq_left (by omega)]⟩
  rw [← List.takeWhile_append_dropWhile (p := isDecimal) (l := text), List.take_append_of_le_length bound] at member
  exact List.all_eq_true.mp List.all_takeWhile c (List.mem_of_mem_take member)

theorem wholeLengths_sound {text : List Char} {n : Nat} (member : n ∈ wholeLengths text) :
    ∃ f : NumeralForm, f.fraction = [] ∧ ∃ behind, text = f.whole ++ behind ∧ n = f.whole.length := by
  unfold wholeLengths at member
  rcases List.mem_append.mp member with grouped | plain
  · obtain ⟨lead, among, ends⟩ := List.mem_flatMap.mp grouped
    obtain ⟨k, below, rfl⟩ := List.mem_map.mp among
    rw [List.mem_reverse, List.mem_range] at below
    obtain ⟨decimal, length⟩ := take_decimal (by omega : k + 1 ≤ (text.takeWhile isDecimal).length)
    obtain ⟨groups, behind, _, triples, rest, rfl⟩ := groupEnds_sound ends
    have nonempty : text.take (k + 1) ≠ [] := List.ne_nil_of_length_pos (by omega)
    refine ⟨⟨text.take (k + 1), groups, [], nonempty, decimal, triples, fun _ => by omega, nofun⟩, rfl, behind, ?_, ?_⟩
    · rw [whole, List.append_assoc, ← rest, List.take_append_drop]
    · exact (List.length_append.trans (congrArg (· + _) length)).symm
  · obtain ⟨k, below, rfl⟩ := List.mem_map.mp plain
    rw [List.mem_reverse, List.mem_range] at below
    obtain ⟨decimal, length⟩ := take_decimal (by omega : k + 1 ≤ (text.takeWhile isDecimal).length)
    have nonempty : text.take (k + 1) ≠ [] := List.ne_nil_of_length_pos (by omega)
    refine ⟨⟨text.take (k + 1), [], [], nonempty, decimal, nofun, absurd rfl, nofun⟩, rfl, text.drop (k + 1), ?_, ?_⟩
    · rw [whole, joined, List.flatMap_nil, List.append_nil, List.take_append_drop]
    · rw [whole, joined, List.flatMap_nil, List.append_nil, length]

theorem withFraction_sound {text : List Char} {whole n : Nat} (member : n ∈ withFraction text whole) :
    ∃ fraction behind, AllDecimal fraction ∧ text.drop whole = pointed fraction ++ behind ∧
      n = whole + (pointed fraction).length := by
  unfold withFraction at member
  split at member
  · rename_i rest point
    rcases List.mem_append.mp member with fraction | plain
    · obtain ⟨k, below, rfl⟩ := List.mem_map.mp fraction
      rw [List.mem_reverse, List.mem_range] at below
      obtain ⟨decimal, length⟩ := take_decimal (by omega : k + 1 ≤ (rest.takeWhile isDecimal).length)
      have written := pointed_of_ne_nil (List.ne_nil_of_length_pos (by omega : 0 < (rest.take (k + 1)).length))
      refine ⟨rest.take (k + 1), rest.drop (k + 1), decimal, ?_, ?_⟩
      · rw [point, written, List.cons_append, List.take_append_drop]
      · rw [written, List.length_cons, length]
        omega
    · exact ⟨[], text.drop whole, nofun, rfl, List.mem_singleton.mp plain⟩
  · exact ⟨[], text.drop whole, nofun, rfl, List.mem_singleton.mp member⟩

theorem numeralLength?_sound {text : List Char} {n : Nat} (found : numeralLength? text = some n) :
    ∃ f : NumeralForm, ∃ behind, text = f.chars ++ behind ∧ n = f.chars.length := by
  obtain ⟨whole, among, tried⟩ := List.exists_of_findSome?_eq_some found
  obtain ⟨f, _, behind, rfl, rfl⟩ := wholeLengths_sound among
  obtain ⟨fraction, rest, decimal, point, rfl⟩ := withFraction_sound (List.mem_of_find?_eq_some tried)
  rw [List.drop_left] at point
  refine ⟨⟨f.lead, f.groups, fraction, f.nonempty, f.leading, f.triples, f.short, decimal⟩, rest, ?_, ?_⟩
  · rw [chars, List.append_assoc, ← point]
    rfl
  · rw [chars, List.length_append]
    rfl

/-- Whether a number goes on with a comma or a point, that is, whether a digit stands behind it. -/
def goesOn : List Char → Bool
  | mark :: digit :: _ => (mark == ',' || mark == '.') && isDecimal digit
  | _ => false

def Ends (behind : List Char) : Prop :=
  behind.head?.any isWordChar = false ∧ goesOn behind = false

theorem Ends.not_decimal {c : Char} {rest : List Char} (ends : Ends (c :: rest)) : isDecimal c = false := by
  rw [Bool.eq_false_iff]
  intro digit
  have edge := ends.1
  simp [isWordChar_decimal digit] at edge

theorem Ends.takeWhile_decimal {behind : List Char} (ends : Ends behind) : behind.takeWhile isDecimal = [] := by
  cases behind with
  | nil => rfl
  | cons c rest => rw [List.takeWhile_cons, ends.not_decimal, if_neg Bool.false_ne_true]

def Ungrouped (text : List Char) : Prop :=
  ∀ rest, text = ',' :: rest → rest.head?.any isDecimal = false

theorem groupEnds_ungrouped {text : List Char} (ungrouped : Ungrouped text) (taken : Nat) :
    groupEnds taken text = [] := by
  fun_cases groupEnds taken text with
  | case1 a b c rest digits =>
    have other := ungrouped _ rfl
    simp_all
  | case2 => rfl
  | case3 => rfl

theorem ungrouped_decimal {text : List Char} (digit : text.head?.any isDecimal = true) : Ungrouped text := by
  rintro rest rfl
  have comma : isDecimal ',' = true := digit
  exact absurd comma (by decide)

theorem Ends.ungrouped {behind : List Char} (ends : Ends behind) (fraction : List Char) :
    Ungrouped (pointed fraction ++ behind) := by
  cases fraction with
  | nil =>
    rintro rest rfl
    have stops := ends.2
    cases rest with
    | nil => rfl
    | cons digit more => simpa [goesOn, pointed] using stops
  | cons c more =>
    intro rest same
    cases same

theorem groupEnds_head {groups : List (List Char)} (triples : ∀ group ∈ groups, IsTriple group) {behind : List Char}
    (ungrouped : Ungrouped behind) (taken : Nat) (grouped : groups ≠ []) :
    (groupEnds taken (joined groups ++ behind)).head? = some (taken + (joined groups).length) := by
  induction groups generalizing taken with
  | nil => exact absurd rfl grouped
  | cons group rest ih =>
    obtain ⟨⟨length, decimal⟩, later⟩ := List.forall_mem_cons.mp triples
    match group, length with
    | [a, b, c], _ =>
      have digits : (isDecimal a && isDecimal b && isDecimal c) = true := by simpa [AllDecimal, and_assoc] using decimal
      have here : groupEnds taken (joined ([a, b, c] :: rest) ++ behind) =
          groupEnds (taken + 4) (joined rest ++ behind) ++ [taken + 4] := by
        simp only [joined_cons, List.cons_append, List.nil_append, groupEnds, digits, if_pos]
      rw [here]
      by_cases last : rest = []
      · subst last
        rw [joined, List.flatMap_nil, List.nil_append, groupEnds_ungrouped ungrouped]
        rfl
      · rw [List.head?_append, ih later (taken + 4) last]
        simp only [joined_cons, Option.some_or, List.length_cons, List.length_append, List.length_nil]
        congr 1
        omega

theorem head?_flatMap {α β : Type} {f : α → List β} {items : List α} {a : α} {b : β} (first : items.head? = some a)
    (found : (f a).head? = some b) : (items.flatMap f).head? = some b := by
  cases items with
  | nil => cases first
  | cons c rest =>
    cases first
    rw [List.flatMap_cons, List.head?_append, found, Option.some_or]

theorem head?_descending {α : Type} (f : Nat → α) (n : Nat) :
    ((List.range (n + 1)).reverse.map f).head? = some (f n) := by
  rw [List.range_succ, List.reverse_append]
  rfl

theorem head?_leads {n : Nat} (positive : 0 < n) : ((List.range n).reverse.map (· + 1)).head? = some n := by
  obtain ⟨m, rfl⟩ := Nat.exists_eq_succ_of_ne_zero (Nat.ne_of_gt positive)
  exact head?_descending (· + 1) m

theorem groupEnds_plain {f : NumeralForm} (plain : f.groups = []) {behind : List Char} (ends : Ends behind) {n : Nat}
    (inside : n ≤ f.lead.length) : groupEnds n ((f.chars ++ behind).drop n) = [] := by
  apply groupEnds_ungrouped
  rw [f.chars_append, plain, joined, List.flatMap_nil, List.nil_append, List.drop_append_of_le_length inside]
  cases more : f.lead.drop n with
  | nil => exact ends.ungrouped f.fraction
  | cons c rest =>
    have member : c ∈ f.lead := List.mem_of_mem_drop (more ▸ List.mem_cons_self)
    exact ungrouped_decimal (by simp [f.leading c member])

theorem wholeLengths_head (f : NumeralForm) {behind : List Char} (ends : Ends behind) :
    (wholeLengths (f.chars ++ behind)).head? = some f.whole.length := by
  have text := f.chars_append behind
  have positive := List.length_pos_iff.mpr f.nonempty
  have stop : (joined f.groups ++ (pointed f.fraction ++ behind)).takeWhile isDecimal = [] := by
    cases f.groups with
    | nil =>
      cases f.fraction with
      | nil => exact ends.takeWhile_decimal
      | cons c rest => rfl
    | cons group rest => rfl
  have digits : ((f.chars ++ behind).takeWhile isDecimal).length = f.lead.length := by
    rw [text, List.takeWhile_append_of_pos f.leading, stop, List.append_nil]
  unfold wholeLengths
  simp only [digits]
  by_cases grouped : f.groups = []
  · have none : (((List.range (min f.lead.length 3)).reverse.map (· + 1)).flatMap
        fun n => groupEnds n ((f.chars ++ behind).drop n)) = [] := by
      rw [List.flatMap_eq_nil_iff]
      intro n among
      obtain ⟨k, below, rfl⟩ := List.mem_map.mp among
      rw [List.mem_reverse, List.mem_range] at below
      exact groupEnds_plain grouped ends (by omega)
    rw [none, List.nil_append, head?_leads positive, whole, grouped, joined, List.flatMap_nil, List.append_nil]
  · have short := f.short grouped
    have first := groupEnds_head f.triples (ends.ungrouped f.fraction) f.lead.length grouped
    have leads := head?_leads positive
    rw [Nat.min_eq_left short, List.head?_append, head?_flatMap leads (by rw [text, List.drop_left]; exact first),
      Option.some_or, whole, List.length_append]

theorem withFraction_head (f : NumeralForm) {behind : List Char} (ends : Ends behind) :
    (withFraction (f.chars ++ behind) f.whole.length).head? = some f.chars.length := by
  rw [withFraction_eq, chars, List.append_assoc, List.drop_left]
  cases same : f.fraction with
  | nil =>
    have plain : (f.whole ++ pointed []).length = f.whole.length := by rw [pointed, List.append_nil]
    rw [plain, pointed, List.nil_append]
    cases behind with
    | nil => rfl
    | cons mark rest =>
      dsimp only
      split
      · rename_i point
        have stops := ends.2
        cases rest with
        | nil => rfl
        | cons digit more =>
          have other : isDecimal digit = false := by simpa [goesOn, point] using stops
          rw [List.takeWhile_cons, other, if_neg Bool.false_ne_true]
          rfl
      · rfl
  | cons c rest =>
    have decimal : AllDecimal (c :: rest) := same ▸ f.fractional
    have digits : ((c :: rest) ++ behind).takeWhile isDecimal = c :: rest := by
      rw [List.takeWhile_append_of_pos decimal, ends.takeWhile_decimal, List.append_nil]
    have tried : ((List.range (c :: rest).length).reverse.map fun n => f.whole.length + 1 + (n + 1)).head? =
        some (f.whole.length + 1 + (c :: rest).length) := head?_descending _ rest.length
    rw [pointed_of_ne_nil (List.cons_ne_nil c rest), List.cons_append]
    dsimp only
    rw [if_pos rfl, digits, List.head?_append, tried, Option.some_or, List.length_append, List.length_cons]
    simp only [List.length_cons, Option.some.injEq]
    omega

/-- All of a numeral is taken if nothing of a word or a number stands behind it. -/
theorem numeralLength?_complete (f : NumeralForm) {behind : List Char} (ends : Ends behind) :
    numeralLength? (f.chars ++ behind) = some f.chars.length := by
  obtain ⟨rest, lengths⟩ := List.head?_eq_some_iff.mp (wholeLengths_head f ends)
  obtain ⟨others, tried⟩ := List.head?_eq_some_iff.mp (withFraction_head f ends)
  have edge : isBoundary ((f.chars ++ behind).take f.chars.length).getLast?
      ((f.chars ++ behind).drop f.chars.length).head? = true := by
    rw [List.take_left, List.drop_left, isBoundary, ends.1]
    have last := List.getLast?_eq_some_getLast f.chars_ne_nil
    simp [last, isWordChar_decimal (f.lastDecimal_chars _ last)]
  rw [numeralLength?, lengths, List.findSome?_cons, tried, List.find?_cons, edge]

theorem numeralLength?_chars (f : NumeralForm) : numeralLength? f.chars = some f.chars.length := by
  have nothing : Ends [] := ⟨rfl, rfl⟩
  have complete := numeralLength?_complete f nothing
  rwa [List.append_nil] at complete

/-- The number at the front of a text: digits, and commas and points with a digit behind them. -/
def numberRun : List Char → List Char
  | [] => []
  | c :: rest => if isDecimal c || goesOn (c :: rest) then c :: numberRun rest else []

theorem numberRun_split (text : List Char) : ∃ rest, text = numberRun text ++ rest ∧ goesOn rest = false := by
  induction text with
  | nil => exact ⟨[], rfl, rfl⟩
  | cons c rest ih =>
    rw [numberRun]
    split
    · obtain ⟨behind, same, stops⟩ := ih
      exact ⟨behind, congrArg (c :: ·) same, stops⟩
    · rename_i other
      rw [Bool.or_eq_true, not_or, Bool.not_eq_true, Bool.not_eq_true] at other
      exact ⟨c :: rest, rfl, other.2⟩

theorem numberRun_decimal {front : List Char} (decimal : AllDecimal front) (back : List Char) :
    numberRun (front ++ back) = front ++ numberRun back := by
  induction front with
  | nil => rfl
  | cons c rest ih =>
    obtain ⟨digit, later⟩ := List.forall_mem_cons.mp decimal
    rw [List.cons_append, numberRun, digit, Bool.true_or, if_pos rfl, ih later, List.cons_append]

theorem numberRun_marked {mark : Char} (marks : (mark == ',' || mark == '.') = true) {digits : List Char}
    (decimal : AllDecimal digits) (nonempty : digits ≠ []) (back : List Char) :
    numberRun (mark :: (digits ++ back)) = mark :: (digits ++ numberRun back) := by
  have more : goesOn (mark :: (digits ++ back)) = true := by
    obtain ⟨digit, rest, rfl⟩ := List.exists_cons_of_ne_nil nonempty
    rw [List.cons_append, goesOn, marks, decimal digit List.mem_cons_self]
    rfl
  rw [numberRun, more, Bool.or_true, if_pos rfl, numberRun_decimal decimal]

theorem numberRun_chars (f : NumeralForm) {behind : List Char} (ends : Ends behind) :
    numberRun (f.chars ++ behind) = f.chars := by
  have nothing : numberRun behind = [] := by
    cases behind with
    | nil => rfl
    | cons c rest => rw [numberRun, ends.not_decimal, ends.2, Bool.or_false, if_neg Bool.false_ne_true]
  have fraction : numberRun (pointed f.fraction ++ behind) = pointed f.fraction := by
    have decimal := f.fractional
    cases more : f.fraction with
    | nil => exact nothing
    | cons c rest =>
      rw [more] at decimal
      rw [pointed_of_ne_nil (List.cons_ne_nil c rest), List.cons_append,
        numberRun_marked rfl decimal (List.cons_ne_nil c rest), nothing, List.append_nil]
  have groups : numberRun (joined f.groups ++ (pointed f.fraction ++ behind)) =
      joined f.groups ++ pointed f.fraction := by
    have triples := f.triples
    generalize f.groups = groups at triples
    induction groups with
    | nil => exact fraction
    | cons group rest ih =>
      obtain ⟨⟨length, decimal⟩, later⟩ := List.forall_mem_cons.mp triples
      rw [joined_cons, List.cons_append, List.append_assoc,
        numberRun_marked rfl decimal (List.ne_nil_of_length_pos (by omega)), ih later, List.cons_append,
        List.append_assoc]
  rw [f.chars_append, numberRun_decimal f.leading, groups, chars, whole, List.append_assoc]

/-- A number goes on behind what is taken of it, unless it is a numeral and no word goes on behind it. -/
theorem goesOn_iff {text : List Char} {n : Nat} (found : numeralLength? text = some n) :
    goesOn (text.drop n) = false ↔
      IsNumeral (numberRun text) ∧ (text.drop (numberRun text).length).head?.any isWordChar = false := by
  constructor
  · intro stops
    have edge := numeralLength?_boundary found
    obtain ⟨f, behind, rfl, rfl⟩ := numeralLength?_sound found
    rw [List.drop_left] at stops
    have last := List.getLast?_eq_some_getLast f.chars_ne_nil
    rw [List.take_left, List.drop_left, isBoundary, last, Option.any_some,
      isWordChar_decimal (f.lastDecimal_chars _ last)] at edge
    have ends : Ends behind := ⟨by simpa using edge, stops⟩
    rw [numberRun_chars f ends, List.drop_left]
    exact ⟨⟨f, rfl⟩, ends.1⟩
  · rintro ⟨⟨f, same⟩, edge⟩
    obtain ⟨rest, whole, stops⟩ := numberRun_split text
    rw [← same] at whole edge
    rw [whole, List.drop_left] at edge
    rw [whole, numeralLength?_complete f ⟨edge, stops⟩] at found
    rw [← Option.some.inj found, whole, List.drop_left]
    exact stops

end ComparisonHit

end TableTalk
