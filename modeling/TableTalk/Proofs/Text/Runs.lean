import TableTalk.Text.Token

namespace TableTalk

namespace Text

def Laid (start stop : Nat) : List Run → Prop
  | [] => True
  | run :: later => start ≤ run.start ∧ run.start < run.stop ∧ run.stop ≤ stop ∧ Laid run.stop stop later

theorem Laid.earlier {start other stop : Nat} {runs : List Run} (laid : Laid other stop runs)
    (before : start ≤ other) : Laid start stop runs := by
  cases runs with
  | nil => trivial
  | cons run later =>
    obtain ⟨first, rest⟩ := laid
    exact ⟨Nat.le_trans before first, rest⟩

theorem Laid.cons {offset stop : Nat} {later : List Run} (laid : Laid (offset + 1) stop later)
    (inside : offset + 1 ≤ stop) (c : Char) : Laid offset stop (Run.cons offset c later) := by
  have single : Run.stop ⟨offset, [c]⟩ = offset + 1 := rfl
  cases later with
  | nil => exact ⟨Nat.le_refl offset, Nat.lt_succ_self offset, inside, trivial⟩
  | cons run others =>
    rw [Run.cons]
    split
    · rename_i adjacent
      obtain ⟨_, nonempty, bound, rest⟩ := laid
      have same : Run.stop ⟨offset, c :: run.chars⟩ = run.stop := by
        simp only [Run.stop, List.length_cons]
        omega
      refine ⟨Nat.le_refl offset, ?_, ?_, ?_⟩
      · rw [same]
        show offset < run.stop
        omega
      · rw [same]
        exact bound
      · rw [same]
        exact rest
    · exact ⟨Nat.le_refl offset, Nat.lt_succ_self offset, inside, by rw [single]; exact laid⟩

theorem laid_runsFrom (p : Char → Bool) (offset : Nat) (text : List Char) :
    Laid offset (offset + text.length) (runsFrom p offset text) := by
  induction text generalizing offset with
  | nil => trivial
  | cons c rest ih =>
    have later := ih (offset + 1)
    have whole : offset + 1 + rest.length = offset + (c :: rest).length := by
      rw [List.length_cons]
      omega
    rw [whole] at later
    rw [runsFrom]
    split
    · exact later.cons (by rw [List.length_cons]; omega) c
    · exact later.earlier (Nat.le_succ offset)

theorem Laid.bounds {start stop : Nat} {runs : List Run} (laid : Laid start stop runs) :
    ∀ run ∈ runs, start ≤ run.start ∧ run.start < run.stop ∧ run.stop ≤ stop := by
  induction runs generalizing start with
  | nil => simp
  | cons first later ih =>
    obtain ⟨begins, nonempty, bound, rest⟩ := laid
    intro run member
    rcases List.mem_cons.mp member with rfl | inside
    · exact ⟨begins, nonempty, bound⟩
    · obtain ⟨behind, others⟩ := ih rest run inside
      exact ⟨by omega, others⟩

theorem Laid.ordered {start stop : Nat} {runs : List Run} (laid : Laid start stop runs) :
    runs.Pairwise fun a b => a.stop ≤ b.start := by
  induction runs generalizing start with
  | nil => exact List.Pairwise.nil
  | cons first later ih =>
    obtain ⟨_, _, _, rest⟩ := laid
    exact List.pairwise_cons.mpr ⟨fun run member => (rest.bounds run member).1, ih rest⟩

theorem Laid.start_le {start stop : Nat} {runs : List Run} (laid : Laid start stop runs) {first : Run}
    (atHead : runs.head? = some first) : ∀ run ∈ runs, first.start ≤ run.start := by
  obtain ⟨later, rfl⟩ := List.head?_eq_some_iff.mp atHead
  obtain ⟨_, nonempty, _, rest⟩ := laid
  refine List.forall_mem_cons.mpr ⟨Nat.le_refl _, fun run member => ?_⟩
  have behind := (rest.bounds run member).1
  omega

theorem Laid.le_stop {start stop : Nat} {runs : List Run} (laid : Laid start stop runs) {last : Run}
    (atEnd : runs.getLast? = some last) : ∀ run ∈ runs, run.stop ≤ last.stop := by
  obtain ⟨earlier, rfl⟩ := List.getLast?_eq_some_iff.mp atEnd
  have before := (List.pairwise_append.mp laid.ordered).2.2
  refine List.forall_mem_append.mpr ⟨fun run member => ?_, List.forall_mem_singleton.mpr (Nat.le_refl _)⟩
  have apart := before run member last (List.mem_singleton_self last)
  have nonempty := (laid.bounds last (List.mem_append_right _ (List.mem_singleton_self last))).2.1
  omega

structure Run.Of (p : Char → Bool) (offset : Nat) (text : List Char) (run : Run) : Prop where
  behind : offset ≤ run.start
  chars : (text.drop (run.start - offset)).take run.chars.length = run.chars
  fits : ∀ c ∈ run.chars, p c = true

theorem Run.Of.later {p : Char → Bool} {offset : Nat} {c : Char} {rest : List Char} {run : Run}
    (here : Run.Of p (offset + 1) rest run) : Run.Of p offset (c :: rest) run := by
  obtain ⟨behind, chars, fits⟩ := here
  have next : run.start - offset = run.start - (offset + 1) + 1 := by omega
  refine ⟨by omega, ?_, fits⟩
  rw [next, List.drop_succ_cons]
  exact chars

theorem runsFrom_of (p : Char → Bool) (offset : Nat) (text : List Char) :
    ∀ run ∈ runsFrom p offset text, run.Of p offset text := by
  induction text generalizing offset with
  | nil => nofun
  | cons c rest ih =>
    have later := fun run member => (ih (offset + 1) run member).later (c := c)
    rw [runsFrom]
    split
    · rename_i fits
      have single : Run.Of p offset (c :: rest) ⟨offset, [c]⟩ := by
        refine ⟨Nat.le_refl offset, ?_, ?_⟩
        · simp
        · simpa using fits
      cases found : runsFrom p (offset + 1) rest with
      | nil => simpa [Run.cons] using single
      | cons first others =>
        have inside := ih (offset + 1) first (by simp [found])
        rw [found] at later
        rw [Run.cons]
        split
        · rename_i adjacent
          refine List.forall_mem_cons.mpr ⟨?_, fun run member => later run (List.mem_cons_of_mem _ member)⟩
          have chars := inside.chars
          rw [adjacent, Nat.sub_self, List.drop_zero] at chars
          refine ⟨Nat.le_refl offset, ?_, List.forall_mem_cons.mpr ⟨fits, inside.fits⟩⟩
          rw [Nat.sub_self, List.drop_zero, List.length_cons, List.take_succ_cons, chars]
        · exact List.forall_mem_cons.mpr ⟨single, later⟩
    · exact later

theorem runs_chars {p : Char → Bool} {text : List Char} {run : Run} (member : run ∈ runs p text) :
    (text.drop run.start).take run.chars.length = run.chars ∧ (∀ c ∈ run.chars, p c = true) ∧ run.chars ≠ [] := by
  obtain ⟨_, chars, fits⟩ := runsFrom_of p 0 text run member
  obtain ⟨_, nonempty, _⟩ := (laid_runsFrom p 0 text).bounds run member
  rw [Nat.sub_zero] at chars
  refine ⟨chars, fits, ?_⟩
  intro none
  rw [Run.stop, none, List.length_nil] at nonempty
  exact absurd nonempty (Nat.lt_irrefl _)

theorem Run.cons_covers {offset i : Nat} {c : Char} {later : List Run}
    (covered : i = offset ∨ ∃ run ∈ later, run.start ≤ i ∧ i < run.stop) :
    ∃ run ∈ Run.cons offset c later, run.start ≤ i ∧ i < run.stop := by
  cases later with
  | nil =>
    rcases covered with rfl | ⟨_, member, _⟩
    · exact ⟨_, List.mem_singleton_self _, Nat.le_refl _, Nat.lt_succ_self _⟩
    · cases member
  | cons first others =>
    rw [Run.cons]
    by_cases adjacent : first.start = offset + 1
    · rw [if_pos adjacent]
      have stop : Run.stop ⟨offset, c :: first.chars⟩ = first.stop := by
        simp only [Run.stop, List.length_cons]
        omega
      have nonempty : first.start ≤ first.stop := Nat.le_add_right _ _
      rcases covered with rfl | ⟨run, member, starts, stops⟩
      · exact ⟨_, List.mem_cons_self, Nat.le_refl _, by omega⟩
      · rcases List.mem_cons.mp member with rfl | other
        · exact ⟨_, List.mem_cons_self, by dsimp only; omega, by omega⟩
        · exact ⟨run, List.mem_cons_of_mem _ other, starts, stops⟩
    · rw [if_neg adjacent]
      rcases covered with rfl | ⟨run, member, inside⟩
      · exact ⟨_, List.mem_cons_self, Nat.le_refl _, Nat.lt_succ_self _⟩
      · exact ⟨run, List.mem_cons_of_mem _ member, inside⟩

theorem runsFrom_covers {p : Char → Bool} (offset : Nat) {text : List Char} {i : Nat} {c : Char}
    (here : text[i]? = some c) (fits : p c = true) :
    ∃ run ∈ runsFrom p offset text, run.start ≤ offset + i ∧ offset + i < run.stop := by
  induction text generalizing offset i with
  | nil => cases here
  | cons first rest ih =>
    cases i with
    | zero =>
      cases here
      rw [runsFrom, if_pos fits]
      exact Run.cons_covers (Or.inl rfl)
    | succ i =>
      have later := ih (offset + 1) here
      have next : offset + 1 + i = offset + (i + 1) := by omega
      rw [next] at later
      rw [runsFrom]
      split
      · exact Run.cons_covers (Or.inr later)
      · exact later

theorem runsFrom_gap {p : Char → Bool} {c : Char} (outside : p c = false) (offset : Nat) (front back : List Char) :
    runsFrom p offset (front ++ c :: back) =
      runsFrom p offset front ++ runsFrom p (offset + front.length + 1) back := by
  induction front generalizing offset with
  | nil => simp [runsFrom, outside]
  | cons d rest ih =>
    have next : offset + 1 + rest.length + 1 = offset + (d :: rest).length + 1 := by
      rw [List.length_cons]
      omega
    rw [List.cons_append, runsFrom, runsFrom, ih (offset + 1), next]
    split
    · cases runsFrom p (offset + 1) rest with
      | nil =>
        cases later : runsFrom p (offset + (d :: rest).length + 1) back with
        | nil => rfl
        | cons run others =>
          have bound := ((laid_runsFrom p _ back).bounds run (later ▸ List.mem_cons_self)).1
          have apart : ¬ run.start = offset + 1 := by
            rw [List.length_cons] at bound
            omega
          simp [Run.cons, apart]
      | cons run others =>
        rw [List.cons_append, Run.cons, Run.cons]
        split <;> rfl
    · rfl

theorem Run.cons_map (f : Char → Char) (offset : Nat) (c : Char) (later : List Run) :
    Run.cons offset (f c) (later.map fun run => ⟨run.start, run.chars.map f⟩) =
      (Run.cons offset c later).map fun run => ⟨run.start, run.chars.map f⟩ := by
  cases later with
  | nil => rfl
  | cons run others =>
    rw [List.map_cons, Run.cons, Run.cons]
    split
    · rfl
    · rfl

theorem runsFrom_map {p q : Char → Bool} {f : Char → Char} (offset : Nat) {text : List Char}
    (same : ∀ c ∈ text, q (f c) = p c) :
    runsFrom q offset (text.map f) = (runsFrom p offset text).map fun run => ⟨run.start, run.chars.map f⟩ := by
  induction text generalizing offset with
  | nil => rfl
  | cons c rest ih =>
    obtain ⟨here, there⟩ := List.forall_mem_cons.mp same
    rw [List.map_cons, runsFrom, runsFrom, ih (offset + 1) there, here]
    split
    · exact Run.cons_map f offset c _
    · rfl

theorem runs_congr {p q : Char → Bool} {text : List Char} (same : ∀ c ∈ text, q c = p c) :
    runs q text = runs p text := by
  have mapped := runsFrom_map (f := id) (p := p) (q := q) 0 same
  simpa [runs] using mapped

theorem runsFrom_all {p : Char → Bool} (offset : Nat) (c : Char) {rest : List Char}
    (all : ∀ d ∈ c :: rest, p d = true) : runsFrom p offset (c :: rest) = [⟨offset, c :: rest⟩] := by
  induction rest generalizing offset c with
  | nil => rw [runsFrom, if_pos (all c List.mem_cons_self), runsFrom, Run.cons]
  | cons d rest ih =>
    obtain ⟨here, there⟩ := List.forall_mem_cons.mp all
    rw [runsFrom, if_pos here, ih (offset + 1) d there, Run.cons, if_pos rfl]

theorem runs_getElem? {p : Char → Bool} {text : List Char} {run : Run} (member : run ∈ runs p text) {i : Nat}
    (low : run.start ≤ i) (high : i < run.stop) : ∃ c, text[i]? = some c ∧ p c = true := by
  obtain ⟨chars, fits, _⟩ := runs_chars member
  have length : i - run.start < run.chars.length := by
    unfold Run.stop at high
    omega
  refine ⟨run.chars[i - run.start], ?_, fits _ (List.getElem_mem length)⟩
  have here : run.chars[i - run.start]? = text[i]? := by
    rw [← chars, List.getElem?_take, if_pos length, List.getElem?_drop, Nat.add_sub_cancel' low]
  rw [← here]
  exact List.getElem?_eq_getElem length

end Text

namespace Token

theorem scan_bounds {text : List Char} {token : Token} (member : token ∈ scan text) :
    token.start < token.stop ∧ token.stop ≤ text.length := by
  obtain ⟨run, inside, rfl⟩ := List.mem_map.mp member
  have bounds := (Text.laid_runsFrom isTokenChar 0 text).bounds run inside
  rw [Nat.zero_add] at bounds
  exact bounds.2

theorem scan_getElem? {text : List Char} {token : Token} (member : token ∈ scan text) {i : Nat}
    (low : token.start ≤ i) (high : i < token.stop) : ∃ c, text[i]? = some c ∧ isTokenChar c = true := by
  obtain ⟨run, inside, rfl⟩ := List.mem_map.mp member
  exact Text.runs_getElem? inside low high

theorem scan_ordered (text : List Char) : (scan text).Pairwise fun a b => a.stop ≤ b.start :=
  List.pairwise_map.mpr (Text.laid_runsFrom isTokenChar 0 text).ordered

end Token

end TableTalk
