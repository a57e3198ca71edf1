import TableTalk.Proofs.Text.Letters
import TableTalk.Proofs.Text.Runs
import TableTalk.Text.Blank
import TableTalk.Text.Digit

namespace TableTalk

namespace Text

theorem inRanges_all {ranges : List (Nat × Nat)} {P : Char → Prop}
    (all : ∀ range ∈ ranges, ∀ i < range.2 + 1 - range.1, P (Char.ofNat (range.1 + i))) {c : Char}
    (inside : inRanges ranges c = true) : P c := by
  obtain ⟨range, member, low, high⟩ := inRanges_bounds inside
  have settled := all range member (c.toNat - range.1) (by omega)
  rwa [Nat.add_sub_cancel' low, Char.ofNat_toNat] at settled

theorem blank_plain {c : Char} (blank : isBlank c = true) :
    c ≠ '_' ∧ isDecimal c = false ∧ Token.isTokenChar c = false ∧ isCaseIgnorable c = false ∧ isCased c = false ∧
      lowerLetter c = c ∧ c.toNat ≠ 0x130 ∧ c ≠ capitalSigma ∧
        alikeGroups.all (fun group => !group.contains c.toNat) = true :=
  inRanges_all (P := fun c => c ≠ '_' ∧ isDecimal c = false ∧ Token.isTokenChar c = false ∧
    isCaseIgnorable c = false ∧ isCased c = false ∧ lowerLetter c = c ∧ c.toNat ≠ 0x130 ∧ c ≠ capitalSigma ∧
      alikeGroups.all (fun group => !group.contains c.toNat) = true) (by decide +kernel) blank

theorem isWordChar_blank {c : Char} (blank : isBlank c = true) : isWordChar c = false := by
  rw [isWordChar, beq_false_of_ne (blank_plain blank).1, blank_not_alphanumeric blank]
  rfl

theorem isDecimal_blank {c : Char} (blank : isBlank c = true) : isDecimal c = false :=
  (blank_plain blank).2.1

theorem isTokenChar_blank {c : Char} (blank : isBlank c = true) : Token.isTokenChar c = false :=
  (blank_plain blank).2.2.1

theorem isCaseIgnorable_blank {c : Char} (blank : isBlank c = true) : isCaseIgnorable c = false :=
  (blank_plain blank).2.2.2.1

theorem isCased_blank {c : Char} (blank : isBlank c = true) : isCased c = false :=
  (blank_plain blank).2.2.2.2.1

theorem lowerLetter_blank {c : Char} (blank : isBlank c = true) : lowerLetter c = c :=
  (blank_plain blank).2.2.2.2.2.1

theorem lowerForm_blank {c : Char} (blank : isBlank c = true) : lowerForm c = [c] := by
  rw [lowerForm, if_neg (blank_plain blank).2.2.2.2.2.2.1, lowerLetter_blank blank]

theorem blank_ne_capitalSigma {c : Char} (blank : isBlank c = true) : c ≠ capitalSigma :=
  (blank_plain blank).2.2.2.2.2.2.2.1

theorem alikeGroups_blank {c : Char} (blank : isBlank c = true) :
    alikeGroups.all (fun group => !group.contains c.toNat) = true :=
  (blank_plain blank).2.2.2.2.2.2.2.2

theorem lowerRuns_apart_blank : (lowerRuns.all fun run =>
    rangesApart blankRanges [(run.target, run.target + (run.last - run.first))]) = true := by
  decide +kernel

theorem mapByRuns_lower_not_blank {c : Char} (visible : isBlank c = false) :
    isBlank (mapByRuns lowerRuns c) = false := by
  rcases mapByRuns_cases lowerRuns c with same | ⟨run, member, _, _, image⟩
  · rw [same, visible]
  · rw [Bool.eq_false_iff]
    intro blank
    have outside := inRanges_apart (List.all_eq_true.mp lowerRuns_apart_blank run member) blank
    obtain ⟨range, among, bound, _⟩ := inRanges_bounds blank
    have positive : ∀ range ∈ blankRanges, 0 < range.1 := by decide
    have above := positive range among
    rcases image with none | ⟨low, high⟩
    · omega
    · simp [inRanges, low, high] at outside

theorem lowerLetter_not_blank {c : Char} (visible : isBlank c = false) : isBlank (lowerLetter c) = false := by
  unfold lowerLetter
  split
  · rename_i ascii
    exact ascii_all (P := fun c => isBlank c = false → isBlank c.toLower = false) (by decide) ascii visible
  · split
    · rfl
    · exact mapByRuns_lower_not_blank visible

theorem lowerForm_not_blank {c : Char} (visible : isBlank c = false) : ∀ d ∈ lowerForm c, isBlank d = false := by
  intro d member
  unfold lowerForm at member
  split at member
  · simp only [List.mem_cons, List.not_mem_nil, or_false] at member
    rcases member with rfl | rfl <;> decide
  · cases List.mem_singleton.mp member
    exact lowerLetter_not_blank visible

theorem lowerSigma_not_blank (letterBefore letterAfter : Bool) :
    isBlank (lowerSigma letterBefore letterAfter) = false := by
  cases letterBefore <;> cases letterAfter <;> decide

theorem alike_not_blank {a c : Char} (visible : isBlank a = false) (same : alike a c = true) :
    isBlank c = false := by
  rw [Bool.eq_false_iff]
  intro blank
  simp only [alike, lowerLetter_blank blank, Bool.or_eq_true, beq_iff_eq] at same
  rcases same with same | grouped
  · have lowered := lowerLetter_not_blank visible
    rw [same, blank] at lowered
    cases lowered
  · obtain ⟨group, member, both⟩ := List.any_eq_true.mp grouped
    have outside := List.all_eq_true.mp (alikeGroups_blank blank) group member
    rw [Bool.and_eq_true] at both
    rw [both.2] at outside
    cases outside

def squeezeFrom (behindBlank : Bool) : List Char → List Char
  | [] => []
  | c :: rest =>
    if isBlank c then
      if behindBlank then squeezeFrom true rest else ' ' :: squeezeFrom true rest
    else c :: squeezeFrom false rest

def squeezed (text : List Char) : List Char :=
  squeezeFrom false text

def endsBlank (behindBlank : Bool) : List Char → Bool
  | [] => behindBlank
  | c :: rest => endsBlank (isBlank c) rest

theorem squeezeFrom_append (behindBlank : Bool) (front back : List Char) :
    squeezeFrom behindBlank (front ++ back) =
      squeezeFrom behindBlank front ++ squeezeFrom (endsBlank behindBlank front) back := by
  induction front generalizing behindBlank with
  | nil => rfl
  | cons c rest ih =>
    rw [List.cons_append, squeezeFrom, squeezeFrom, endsBlank, ih, ih]
    cases isBlank c <;> cases behindBlank <;> simp

theorem endsBlank_append (behindBlank : Bool) (front back : List Char) :
    endsBlank behindBlank (front ++ back) = endsBlank (endsBlank behindBlank front) back := by
  induction front generalizing behindBlank with
  | nil => rfl
  | cons c rest ih => exact ih (isBlank c)

def startsBlank (text : List Char) : Bool :=
  text.head?.any isBlank

theorem squeezeFrom_visible {text : List Char} (visible : startsBlank text = false) (behindBlank : Bool) :
    squeezeFrom behindBlank text = squeezed text := by
  cases text with
  | nil => rfl
  | cons c rest =>
    have here : isBlank c = false := visible
    simp [squeezed, squeezeFrom, here]

theorem squeezed_append {front back : List Char}
    (apart : endsBlank false front = false ∨ startsBlank back = false) :
    squeezed (front ++ back) = squeezed front ++ squeezed back := by
  rw [squeezed, squeezeFrom_append]
  rcases apart with visible | visible
  · rw [visible]
    rfl
  · rw [squeezeFrom_visible visible]
    rfl

theorem squeezeFrom_all_visible {text : List Char} (visible : ∀ c ∈ text, isBlank c = false)
    (behindBlank : Bool) : squeezeFrom behindBlank text = text := by
  induction text generalizing behindBlank with
  | nil => rfl
  | cons c rest ih =>
    obtain ⟨here, later⟩ := List.forall_mem_cons.mp visible
    rw [squeezeFrom, here, if_neg Bool.false_ne_true, ih later]

theorem endsBlank_all_visible {text : List Char} (visible : ∀ c ∈ text, isBlank c = false)
    {behindBlank : Bool} (apart : behindBlank = false ∨ text ≠ []) : endsBlank behindBlank text = false := by
  induction text generalizing behindBlank with
  | nil => exact apart.resolve_right fun nonempty => nonempty rfl
  | cons c rest ih =>
    obtain ⟨here, later⟩ := List.forall_mem_cons.mp visible
    rw [endsBlank, here]
    exact ih later (Or.inl rfl)

theorem squeezeFrom_true (text : List Char) :
    squeezeFrom true text = squeezed (text.dropWhile isBlank) := by
  induction text with
  | nil => rfl
  | cons c rest ih =>
    rw [squeezeFrom, List.dropWhile_cons]
    cases blank : isBlank c with
    | true => simpa using ih
    | false => simp [squeezed, squeezeFrom, blank]

theorem dropWhile_blank_visible {text : List Char} (visible : startsBlank text = false) :
    text.dropWhile isBlank = text := by
  cases text with
  | nil => rfl
  | cons c rest =>
    have here : isBlank c = false := visible
    rw [List.dropWhile_cons, here, if_neg Bool.false_ne_true]

theorem squeezed_blanks {blanks rest : List Char} (nonempty : blanks ≠ []) (blank : ∀ c ∈ blanks, isBlank c = true)
    (visible : startsBlank rest = false) : squeezed (blanks ++ rest) = ' ' :: squeezed rest := by
  obtain ⟨c, more, rfl⟩ := List.exists_cons_of_ne_nil nonempty
  obtain ⟨here, later⟩ := List.forall_mem_cons.mp blank
  rw [List.cons_append, squeezed, squeezeFrom, if_pos here, if_neg Bool.false_ne_true, squeezeFrom_true,
    List.dropWhile_append_of_pos later, dropWhile_blank_visible visible]

theorem no_blanks_behind {front blanks : List Char} (visible : endsBlank false (front ++ blanks) = false)
    (blank : ∀ c ∈ blanks, isBlank c = true) : blanks = [] := by
  rcases List.eq_nil_or_concat blanks with none | ⟨rest, c, rfl⟩
  · exact none
  · have last := blank c (by simp)
    rw [List.concat_eq_append, endsBlank_append, endsBlank_append, endsBlank, endsBlank, last] at visible
    cases visible

theorem blanks_unique {front front' blanks blanks' : List Char} (visible : endsBlank false front = false)
    (visible' : endsBlank false front' = false) (blank : ∀ c ∈ blanks, isBlank c = true)
    (blank' : ∀ c ∈ blanks', isBlank c = true) (same : front ++ blanks = front' ++ blanks') :
    front = front' ∧ blanks = blanks' := by
  rcases List.append_eq_append_iff.mp same with ⟨more, rfl, rfl⟩ | ⟨more, rfl, rfl⟩
  · have none := no_blanks_behind visible' (List.forall_mem_append.mp blank).1
    simp [none]
  · have none := no_blanks_behind visible (List.forall_mem_append.mp blank').1
    simp [none]

theorem squeezed_ne_nil {text : List Char} (nonempty : text ≠ []) : squeezed text ≠ [] := by
  cases text with
  | nil => exact absurd rfl nonempty
  | cons c rest =>
    rw [squeezed, squeezeFrom]
    cases isBlank c <;> simp

theorem mem_squeezeFrom {behindBlank : Bool} {text : List Char} {c : Char} (member : c ∈ squeezeFrom behindBlank text) :
    c ∈ text ∨ c = ' ' := by
  induction text generalizing behindBlank with
  | nil => cases member
  | cons d rest ih =>
    rw [squeezeFrom] at member
    split at member
    · split at member
      · exact (ih member).imp_left (List.mem_cons_of_mem d)
      · rcases List.mem_cons.mp member with space | later
        · exact Or.inr space
        · exact (ih later).imp_left (List.mem_cons_of_mem d)
    · rcases List.mem_cons.mp member with rfl | later
      · exact Or.inl List.mem_cons_self
      · exact (ih later).imp_left (List.mem_cons_of_mem d)

theorem all_blank_squeezeFrom (behindBlank : Bool) (text : List Char) :
    (squeezeFrom behindBlank text).all isBlank = text.all isBlank := by
  have space : isBlank ' ' = true := by decide
  induction text generalizing behindBlank with
  | nil => rfl
  | cons c rest ih =>
    rw [squeezeFrom, List.all_cons]
    cases blank : isBlank c with
    | true => cases behindBlank <;> simp [ih, space]
    | false => simp [blank]

def squeezedOffset (text : List Char) (i : Nat) : Nat :=
  (squeezed (text.take i)).length

/-- An offset that is not inside of a run of blanks. -/
def Edge (text : List Char) (i : Nat) : Prop :=
  i ≤ text.length ∧ (endsBlank false (text.take i) = false ∨ startsBlank (text.drop i) = false)

theorem squeezed_split {text : List Char} {i : Nat} (edge : Edge text i) :
    squeezed text = squeezed (text.take i) ++ squeezed (text.drop i) := by
  rw [← squeezed_append edge.2, List.take_append_drop]

theorem squeezed_drop {text : List Char} {i : Nat} (edge : Edge text i) :
    (squeezed text).drop (squeezedOffset text i) = squeezed (text.drop i) := by
  rw [squeezed_split edge, squeezedOffset, List.drop_left]

theorem startsBlank_take {text : List Char} (visible : startsBlank text = false) (n : Nat) :
    startsBlank (text.take n) = false := by
  cases n with
  | zero => rfl
  | succ n =>
    cases text with
    | nil => rfl
    | cons c rest => exact visible

theorem squeezedOffset_add {text : List Char} {i : Nat} (edge : Edge text i) (n : Nat) :
    squeezedOffset text (i + n) = squeezedOffset text i + (squeezed ((text.drop i).take n)).length := by
  have apart : endsBlank false (text.take i) = false ∨ startsBlank ((text.drop i).take n) = false :=
    edge.2.imp_right fun visible => startsBlank_take visible n
  rw [squeezedOffset, List.take_add, squeezed_append apart, List.length_append, squeezedOffset]

theorem squeezedOffset_lt {text : List Char} {i j : Nat} (edge : Edge text i) (inside : j ≤ text.length)
    (less : i < j) : squeezedOffset text i < squeezedOffset text j := by
  obtain ⟨n, rfl⟩ := Nat.exists_eq_add_of_lt less
  rw [Nat.add_assoc, squeezedOffset_add edge]
  have nonempty : (text.drop i).take (n + 1) ≠ [] := by
    rw [← List.length_pos_iff, List.length_take, List.length_drop]
    omega
  have positive := List.length_pos_iff.mpr (squeezed_ne_nil nonempty)
  omega

def Run.moved (offset : Nat → Nat) (run : Run) : Run :=
  ⟨offset run.start, run.chars⟩

theorem Run.cons_moved (offset : Nat → Nat) {i : Nat} (next : offset (i + 1) = offset i + 1) {later : List Run}
    (apart : ∀ run ∈ later, offset run.start = offset (i + 1) → run.start = i + 1) (c : Char) :
    Run.cons (offset i) c (later.map (Run.moved offset)) = (Run.cons i c later).map (Run.moved offset) := by
  cases later with
  | nil => rfl
  | cons run others =>
    have start : (run.moved offset).start = offset run.start := rfl
    rw [List.map_cons, Run.cons, Run.cons, start, ← next]
    by_cases adjacent : run.start = i + 1
    · rw [if_pos adjacent, if_pos (by rw [adjacent])]
      rfl
    · rw [if_neg adjacent, if_neg fun same => adjacent (apart run List.mem_cons_self same)]
      rfl

theorem runsFrom_squeezed {p : Char → Bool} (visible : ∀ c, isBlank c = true → p c = false)
    (front rest : List Char) :
    runsFrom p (squeezed front).length (squeezeFrom (endsBlank false front) rest) =
      (runsFrom p front.length rest).map (Run.moved (squeezedOffset (front ++ rest))) := by
  induction rest generalizing front with
  | nil => rfl
  | cons c rest ih =>
    have later := ih (front ++ [c])
    rw [List.append_assoc, List.singleton_append, List.length_append, List.length_singleton, squeezed,
      squeezeFrom_append, endsBlank_append] at later
    rw [squeezeFrom, runsFrom]
    cases blank : isBlank c with
    | true =>
      have outside := visible c blank
      have space := visible ' ' (by decide)
      cases behind : endsBlank false front with
      | true => simpa [squeezeFrom, endsBlank, blank, behind, outside, squeezed] using later
      | false => simpa [squeezeFrom, endsBlank, blank, behind, outside, squeezed, runsFrom, space] using later
    | false =>
      have whole : (front ++ c :: rest).drop front.length = c :: rest := List.drop_left
      have here : squeezedOffset (front ++ c :: rest) front.length = (squeezed front).length := by
        rw [squeezedOffset, List.take_left]
      have edge : Edge (front ++ c :: rest) front.length := by
        refine ⟨by simp, Or.inr ?_⟩
        rw [whole]
        exact blank
      have next : squeezedOffset (front ++ c :: rest) (front.length + 1) =
          squeezedOffset (front ++ c :: rest) front.length + 1 := by
        rw [squeezedOffset_add edge, whole]
        simp [squeezed, squeezeFrom, blank]
      have edge' : Edge (front ++ c :: rest) (front.length + 1) := by
        refine ⟨by simp, Or.inl ?_⟩
        rw [List.take_append, List.take_of_length_le (by omega), Nat.add_sub_cancel_left, endsBlank_append]
        exact blank
      have tail : runsFrom p ((squeezed front).length + 1) (squeezeFrom false rest) =
          (runsFrom p (front.length + 1) rest).map (Run.moved (squeezedOffset (front ++ c :: rest))) := by
        simpa [squeezeFrom, endsBlank, blank, squeezed] using later
      rw [if_neg Bool.false_ne_true, runsFrom, tail]
      cases p c with
      | false => rfl
      | true =>
        -- runs further on stay behind the next offset, so what extends a run and what does not is the same
        have apart : ∀ run ∈ runsFrom p (front.length + 1) rest,
            squeezedOffset (front ++ c :: rest) run.start =
              squeezedOffset (front ++ c :: rest) (front.length + 1) → run.start = front.length + 1 := by
          intro run member same
          obtain ⟨behind, nonempty, bound⟩ := (laid_runsFrom p (front.length + 1) rest).bounds run member
          apply Classical.byContradiction
          intro other
          have inside : run.start ≤ (front ++ c :: rest).length := by
            rw [List.length_append, List.length_cons]
            omega
          have less := squeezedOffset_lt edge' inside (by omega)
          omega
        have moved := Run.cons_moved _ next apart c
        rw [here] at moved
        exact moved

theorem runs_squeezed {p : Char → Bool} (visible : ∀ c, isBlank c = true → p c = false) (text : List Char) :
    runs p (squeezed text) = (runs p text).map (Run.moved (squeezedOffset text)) :=
  runsFrom_squeezed visible [] text

theorem runs_edges {p : Char → Bool} (visible : ∀ c, isBlank c = true → p c = false) {text : List Char} {run : Run}
    (member : run ∈ runs p text) : Edge text run.start ∧ Edge text run.stop ∧
      squeezedOffset text run.stop = squeezedOffset text run.start + run.chars.length := by
  obtain ⟨chars, fits, nonempty⟩ := runs_chars member
  obtain ⟨_, _, inside⟩ := (laid_runsFrom p 0 text).bounds run member
  rw [Nat.zero_add] at inside
  have clear : ∀ c ∈ run.chars, isBlank c = false := by
    intro c among
    rw [Bool.eq_false_iff]
    intro blank
    have outside := visible c blank
    rw [fits c among] at outside
    cases outside
  have start : Edge text run.start := by
    refine ⟨by rw [Run.stop] at inside; omega, Or.inr ?_⟩
    cases behind : text.drop run.start with
    | nil => rfl
    | cons c rest =>
      obtain ⟨n, length⟩ := Nat.exists_eq_succ_of_ne_zero (Nat.ne_of_gt (List.length_pos_iff.mpr nonempty))
      rw [behind, length, List.take_succ_cons] at chars
      exact clear c (chars ▸ List.mem_cons_self)
  refine ⟨start, ⟨inside, Or.inl ?_⟩, ?_⟩
  · rw [Run.stop, List.take_add, chars, endsBlank_append]
    exact endsBlank_all_visible clear (Or.inr nonempty)
  · rw [Run.stop, squeezedOffset_add start, chars, squeezed, squeezeFrom_all_visible clear]

theorem fieldsOf_squeezed (text : List Char) : fieldsOf (squeezed text) = fieldsOf text := by
  have visible : ∀ c, isBlank c = true → (!isBlank c) = false := fun c blank => by rw [blank]; rfl
  unfold fieldsOf
  rw [runs_squeezed visible, List.map_map]
  rfl

theorem startsCased_squeezed (text : List Char) : startsCased (squeezed text) = startsCased text := by
  unfold startsCased squeezed
  induction text with
  | nil => rfl
  | cons c rest ih =>
    have space : isCaseIgnorable ' ' = false := by decide
    have spaceCased : isCased ' ' = false := by decide
    rw [squeezeFrom]
    cases blank : isBlank c with
    | true => simp [space, spaceCased, isCaseIgnorable_blank blank, isCased_blank blank]
    | false =>
      rw [if_neg Bool.false_ne_true, List.dropWhile_cons, List.dropWhile_cons]
      cases isCaseIgnorable c with
      | true => exact ih
      | false => rfl

theorem lowerFrom_blank {c : Char} (blank : isBlank c = true) (letterBefore : Bool) (rest : List Char) :
    lowerFrom letterBefore (c :: rest) = c :: lowerFrom false rest := by
  rw [lowerFrom, if_neg (blank_ne_capitalSigma blank), lowerForm_blank blank, isCaseIgnorable_blank blank,
    isCased_blank blank]
  rfl

theorem lowered_visible {c : Char} (visible : isBlank c = false) (letterBefore letterAfter : Bool) :
    let lowered := if c = capitalSigma then [lowerSigma letterBefore letterAfter] else lowerForm c
    (∀ d ∈ lowered, isBlank d = false) ∧ lowered ≠ [] := by
  intro lowered
  by_cases sigma : c = capitalSigma
  · have here : lowered = [lowerSigma letterBefore letterAfter] := if_pos sigma
    rw [here]
    exact ⟨by simpa using lowerSigma_not_blank letterBefore letterAfter, by simp⟩
  · have here : lowered = lowerForm c := if_neg sigma
    rw [here]
    refine ⟨lowerForm_not_blank visible, ?_⟩
    unfold lowerForm
    split <;> simp

/-- Lowering knows nothing of what stands before a blank, so the number of blanks makes no difference. -/
theorem lowerFrom_squeezeFrom {letterBefore behindBlank : Bool} (apart : behindBlank = true → letterBefore = false)
    (text : List Char) :
    lowerFrom letterBefore (squeezeFrom behindBlank text) =
      squeezeFrom behindBlank (lowerFrom letterBefore text) := by
  induction text generalizing letterBefore behindBlank with
  | nil => rfl
  | cons c rest ih =>
    cases blank : isBlank c with
    | true =>
      have later : lowerFrom false (squeezeFrom true rest) = squeezeFrom true (lowerFrom false rest) :=
        ih fun _ => rfl
      rw [lowerFrom_blank blank, squeezeFrom, squeezeFrom, blank, if_pos rfl, if_pos rfl]
      cases behindBlank with
      | true =>
        rw [apart rfl]
        exact later
      | false =>
        have space : isBlank ' ' = true := by decide
        rw [if_neg Bool.false_ne_true, if_neg Bool.false_ne_true, lowerFrom_blank space, later]
    | false =>
      have later (before : Bool) : lowerFrom before (squeezeFrom false rest) =
          squeezeFrom false (lowerFrom before rest) := ih fun none => nomatch none
      obtain ⟨visible, nonempty⟩ := lowered_visible blank letterBefore (startsCased rest)
      have cased := startsCased_squeezed rest
      rw [squeezed] at cased
      rw [squeezeFrom, blank, if_neg Bool.false_ne_true, lowerFrom, lowerFrom, cased, squeezeFrom_append,
        squeezeFrom_all_visible visible, endsBlank_all_visible visible (Or.inr nonempty), later]

theorem collapse_lower_squeezed (text : List Char) :
    collapse (lower (String.ofList (squeezed text))) = collapse (lower (String.ofList text)) := by
  have lowered : lowerFrom false (squeezed text) = squeezed (lowerFrom false text) :=
    lowerFrom_squeezeFrom (fun _ => rfl) text
  unfold collapse fields lower lowerChars
  simp only [String.toList_ofList, lowered, fieldsOf_squeezed]

end Text

namespace Token

theorem scan_edges {text : List Char} {token : Token} (member : token ∈ scan text) :
    Text.Edge text token.start ∧ Text.Edge text token.stop := by
  obtain ⟨run, among, rfl⟩ := List.mem_map.mp member
  obtain ⟨start, stop, _⟩ := Text.runs_edges (fun _ => Text.isTokenChar_blank) among
  exact ⟨start, stop⟩

theorem scan_squeezed (text : List Char) :
    scan (Text.squeezed text) =
      (scan text).map fun token =>
        ⟨token.text, Text.squeezedOffset text token.start, Text.squeezedOffset text token.stop⟩ := by
  unfold scan
  rw [Text.runs_squeezed fun _ => Text.isTokenChar_blank, List.map_map, List.map_map]
  apply List.map_congr_left
  intro run member
  obtain ⟨_, _, stop⟩ := Text.runs_edges (fun _ => Text.isTokenChar_blank) member
  simp only [Function.comp_apply, ofRun, Text.Run.moved, Text.Run.stop] at stop ⊢
  rw [stop]

end Token

end TableTalk
