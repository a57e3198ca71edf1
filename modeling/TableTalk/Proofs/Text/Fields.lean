import TableTalk.Proofs.Text.Spacing

namespace TableTalk

namespace Text

theorem runsFrom_shift (p : Char → Bool) (i n : Nat) (text : List Char) :
    runsFrom p (i + n) text = (runsFrom p i text).map (Run.moved (· + n)) := by
  induction text generalizing i with
  | nil => rfl
  | cons c rest ih =>
    have later := ih (i + 1)
    rw [Nat.add_right_comm] at later
    rw [runsFrom, runsFrom, later]
    split
    · have next : (i + 1) + n = (i + n) + 1 := Nat.add_right_comm i 1 n
      exact Run.cons_moved (fun k => k + n) next (fun run _ same => Nat.add_right_cancel same) c
    · rfl

theorem runsFrom_chars (p : Char → Bool) (i : Nat) (text : List Char) :
    (runsFrom p i text).map Run.chars = (runs p text).map Run.chars := by
  have shifted := runsFrom_shift p 0 i text
  rw [Nat.zero_add] at shifted
  rw [shifted, List.map_map]
  rfl

theorem fieldsOf_blank {c : Char} (blank : isBlank c = true) (rest : List Char) :
    fieldsOf (c :: rest) = fieldsOf rest := by
  have outside : ¬ (!isBlank c) = true := by simp [blank]
  rw [fieldsOf, runs, runsFrom, if_neg outside, runsFrom_chars, fieldsOf]

theorem fieldsOf_apart {c : Char} (visible : isBlank c = false) {rest : List Char}
    (apart : rest = [] ∨ startsBlank rest = true) : fieldsOf (c :: rest) = [c] :: fieldsOf rest := by
  have inside : (!isBlank c) = true := by simp [visible]
  rw [fieldsOf, runs, runsFrom, if_pos inside]
  have behind : ∀ run ∈ runsFrom (fun c => !isBlank c) 1 rest, run.start ≠ 1 := by
    intro run member same
    rcases apart with rfl | blank
    · cases member
    · cases rest with
      | nil => cases member
      | cons d rest =>
        have here : isBlank d = true := blank
        have outside : ¬ (!isBlank d) = true := by simp [here]
        rw [runsFrom, if_neg outside] at member
        have bound := ((laid_runsFrom _ 2 rest).bounds run member).1
        omega
  have same := runsFrom_chars (fun c => !isBlank c) 1 rest
  rw [fieldsOf, ← same]
  cases later : runsFrom (fun c => !isBlank c) 1 rest with
  | nil => rfl
  | cons run others =>
    have other : run.start ≠ 0 + 1 := behind run (by rw [later]; exact List.mem_cons_self)
    rw [Run.cons, if_neg other]
    rfl

theorem fieldsOf_joined {c d : Char} (visible : isBlank c = false) (next : isBlank d = false) (rest : List Char) :
    ∃ word words, fieldsOf (d :: rest) = word :: words ∧ fieldsOf (c :: d :: rest) = (c :: word) :: words := by
  have inside : (!isBlank c) = true := by simp [visible]
  have same := runsFrom_chars (fun c => !isBlank c) 1 (d :: rest)
  have first : ∃ run others, runsFrom (fun c => !isBlank c) 1 (d :: rest) = run :: others ∧ run.start = 1 := by
    have fits : (!isBlank d) = true := by simp [next]
    rw [runsFrom, if_pos fits]
    cases runsFrom (fun c => !isBlank c) (1 + 1) rest with
    | nil => exact ⟨_, _, rfl, rfl⟩
    | cons run others =>
      rw [Run.cons]
      split
      · exact ⟨_, _, rfl, rfl⟩
      · exact ⟨_, _, rfl, rfl⟩
  obtain ⟨run, others, later, start⟩ := first
  rw [later] at same
  refine ⟨run.chars, others.map Run.chars, same.symm, ?_⟩
  rw [fieldsOf, runs, runsFrom, if_pos inside, Nat.zero_add, later, Run.cons, if_pos start]
  rfl

theorem fieldsOf_trailing {c : Char} (blank : isBlank c = true) (text : List Char) :
    fieldsOf (text ++ [c]) = fieldsOf text := by
  induction text with
  | nil => exact fieldsOf_blank blank []
  | cons d rest ih =>
    rw [List.cons_append]
    cases here : isBlank d with
    | true => rw [fieldsOf_blank here, fieldsOf_blank here, ih]
    | false =>
      by_cases apart : rest = [] ∨ startsBlank rest = true
      · have apart' : startsBlank (rest ++ [c]) = true := by
          rcases apart with rfl | starts
          · exact blank
          · cases rest with
            | nil => cases starts
            | cons e rest => exact starts
        rw [fieldsOf_apart here apart, fieldsOf_apart here (Or.inr apart'), ih]
      · obtain ⟨more, shown⟩ := not_or.mp apart
        obtain ⟨e, rest, rfl⟩ := List.exists_cons_of_ne_nil more
        have next : isBlank e = false := Bool.eq_false_iff.mpr shown
        obtain ⟨word, words, before, split⟩ := fieldsOf_joined here next rest
        obtain ⟨word', words', before', split'⟩ := fieldsOf_joined here next (rest ++ [c])
        rw [← List.cons_append, ih, before] at before'
        obtain ⟨rfl, rfl⟩ := List.cons.inj before'
        rw [List.cons_append, split, split']

theorem endsBlank_nonempty {text : List Char} (nonempty : text ≠ []) (before other : Bool) :
    endsBlank before text = endsBlank other text := by
  cases text with
  | nil => exact absurd rfl nonempty
  | cons c rest => rfl

theorem fieldsOf_ne_nil {text : List Char} (nonempty : text ≠ []) (visible : endsBlank false text = false) :
    fieldsOf text ≠ [] := by
  induction text with
  | nil => exact absurd rfl nonempty
  | cons c rest ih =>
    cases blank : isBlank c with
    | true =>
      rw [endsBlank, blank] at visible
      have more : rest ≠ [] := by
        rintro rfl
        cases visible
      rw [fieldsOf_blank blank]
      exact ih more (by rwa [endsBlank_nonempty more false true])
    | false =>
      by_cases apart : rest = [] ∨ startsBlank rest = true
      · rw [fieldsOf_apart blank apart]
        exact List.cons_ne_nil _ _
      · obtain ⟨more, shown⟩ := not_or.mp apart
        obtain ⟨d, rest, rfl⟩ := List.exists_cons_of_ne_nil more
        obtain ⟨word, words, _, split⟩ := fieldsOf_joined blank (Bool.eq_false_iff.mpr shown) rest
        rw [split]
        exact List.cons_ne_nil _ _

/-- Joined by single spaces, the fields of a text that ends with a visible character are the text with one space for
every run of blanks and none at its front. -/
theorem joined_fieldsOf {text : List Char} (visible : endsBlank false text = false) :
    [' '].intercalate (fieldsOf text) = squeezeFrom true text := by
  induction text with
  | nil => rfl
  | cons c rest ih =>
    rw [endsBlank] at visible
    cases blank : isBlank c with
    | true =>
      have more : rest ≠ [] := by
        rintro rfl
        rw [blank] at visible
        cases visible
      rw [fieldsOf_blank blank, squeezeFrom, blank, if_pos rfl, if_pos rfl]
      exact ih (by rwa [endsBlank_nonempty more false])
    | false =>
      rw [blank] at visible
      have later := ih visible
      rw [squeezeFrom, blank, if_neg Bool.false_ne_true]
      cases rest with
      | nil =>
        rw [fieldsOf_apart blank (Or.inl rfl)]
        exact List.intercalate_singleton
      | cons d rest =>
        cases next : isBlank d with
        | true =>
          obtain ⟨word, words, split⟩ := List.exists_cons_of_ne_nil (fieldsOf_ne_nil (List.cons_ne_nil d rest) visible)
          rw [squeezeFrom, next, if_pos rfl, if_pos rfl] at later
          have apart : startsBlank (d :: rest) = true := next
          rw [fieldsOf_apart blank (Or.inr apart), split, List.intercalate_cons_cons, ← split, later, squeezeFrom, next,
            if_pos rfl, if_neg Bool.false_ne_true]
          rfl
        | false =>
          obtain ⟨word, words, split, joined⟩ := fieldsOf_joined blank next rest
          have shown : startsBlank (d :: rest) = false := next
          rw [squeezeFrom_visible shown true, ← squeezeFrom_visible shown false, split] at later
          rw [joined, ← later]
          cases words with
          | nil => rfl
          | cons other words => rw [List.intercalate_cons_cons, List.intercalate_cons_cons]; rfl

/-- A text without blanks at its ends, and with single spaces for all other blanks. -/
structure Tidy (text : List Char) : Prop where
  front : startsBlank text = false
  back : endsBlank false text = false
  single : squeezed text = text

theorem toList_collapse (text : String) : (collapse text).toList = [' '].intercalate (fieldsOf text.toList) := by
  have same : (String.toList ∘ String.ofList) = id := funext fun _ => String.toList_ofList
  rw [collapse, unwords, fields, String.toList_intercalate, List.map_map, same, List.map_id]
  rfl

theorem collapse_squeezed {text : List Char} (front : startsBlank text = false) (back : endsBlank false text = false) :
    collapse (String.ofList text) = String.ofList (squeezed text) := by
  rw [← String.toList_inj, toList_collapse, String.toList_ofList, String.toList_ofList, joined_fieldsOf back,
    squeezeFrom_visible front]

theorem Tidy.collapse {text : List Char} (tidy : Tidy text) : collapse (String.ofList text) = String.ofList text := by
  rw [collapse_squeezed tidy.front tidy.back, tidy.single]

theorem startsBlank_append {front : List Char} (nonempty : front ≠ []) (back : List Char) :
    startsBlank (front ++ back) = startsBlank front := by
  rw [startsBlank, startsBlank, List.head?_append, Option.or_of_isSome (List.isSome_head?.mpr nonempty)]

theorem startsBlank_all_visible {text : List Char} (visible : ∀ c ∈ text, isBlank c = false) :
    startsBlank text = false := by
  cases text with
  | nil => rfl
  | cons c rest => exact visible c List.mem_cons_self

theorem tidy_joined {words : List (List Char)} (visible : ∀ word ∈ words, word ≠ [] ∧ ∀ c ∈ word, isBlank c = false) :
    Tidy ([' '].intercalate words) := by
  induction words with
  | nil => exact ⟨rfl, rfl, rfl⟩
  | cons word rest ih =>
    obtain ⟨⟨nonempty, shown⟩, later⟩ := List.forall_mem_cons.mp visible
    obtain ⟨front, back, single⟩ := ih later
    cases rest with
    | nil =>
      rw [List.intercalate_singleton]
      exact ⟨startsBlank_all_visible shown, endsBlank_all_visible shown (Or.inl rfl), squeezeFrom_all_visible shown _⟩
    | cons other rest =>
      have more : [' '].intercalate (other :: rest) ≠ [] := by
        intro none
        have first := (visible other (by simp)).1
        cases rest <;> simp_all
      have space : isBlank ' ' = true := by decide
      have apart := endsBlank_all_visible shown (Or.inl rfl)
      rw [List.intercalate_cons_cons, List.append_assoc]
      refine ⟨?_, ?_, ?_⟩
      · rw [startsBlank_append nonempty, startsBlank_all_visible shown]
      · rw [endsBlank_append, endsBlank_append, endsBlank_nonempty more _ false, back]
      · rw [squeezed_append (Or.inl apart), squeezed, squeezeFrom_all_visible shown, List.singleton_append, squeezed,
          squeezeFrom, if_pos space, if_neg Bool.false_ne_true, squeezeFrom_visible front, single]

theorem tidy_collapse (text : String) : Tidy (collapse text).toList := by
  rw [toList_collapse]
  refine tidy_joined fun word member => ?_
  obtain ⟨run, among, rfl⟩ := List.mem_map.mp member
  obtain ⟨_, fits, nonempty⟩ := runs_chars among
  exact ⟨nonempty, fun c inside => by simpa using fits c inside⟩

theorem collapse_trailing {c : Char} (blank : isBlank c = true) (text : List Char) :
    collapse (String.ofList (text ++ [c])) = collapse (String.ofList text) := by
  rw [← String.toList_inj, toList_collapse, toList_collapse, String.toList_ofList, String.toList_ofList,
    fieldsOf_trailing blank]

theorem collapse_collapse (text : String) : collapse (collapse text) = collapse text := by
  have tidy := (tidy_collapse text).collapse
  rwa [String.ofList_toList] at tidy

theorem endsBlank_lowerFrom (before letterBefore : Bool) (text : List Char) :
    endsBlank before (lowerFrom letterBefore text) = endsBlank before text := by
  induction text generalizing before letterBefore with
  | nil => rfl
  | cons c rest ih =>
    cases blank : isBlank c with
    | true => rw [lowerFrom_blank blank, endsBlank, endsBlank, ih]
    | false =>
      obtain ⟨visible, nonempty⟩ := lowered_visible blank letterBefore (startsCased rest)
      rw [lowerFrom, endsBlank_append, endsBlank_all_visible visible (Or.inr nonempty), ih, endsBlank, blank]

theorem startsBlank_lowerFrom (letterBefore : Bool) (text : List Char) :
    startsBlank (lowerFrom letterBefore text) = startsBlank text := by
  cases text with
  | nil => rfl
  | cons c rest =>
    cases blank : isBlank c with
    | true =>
      rw [lowerFrom_blank blank]
      rfl
    | false =>
      obtain ⟨visible, nonempty⟩ := lowered_visible blank letterBefore (startsCased rest)
      rw [lowerFrom, startsBlank_append nonempty, startsBlank_all_visible visible]
      exact blank.symm

theorem Tidy.lowerFrom {text : List Char} (tidy : Tidy text) : Tidy (lowerFrom false text) where
  front := (startsBlank_lowerFrom false text).trans tidy.front
  back := (endsBlank_lowerFrom false false text).trans tidy.back
  single := by
    have lowered : Text.lowerFrom false (squeezeFrom false text) = squeezeFrom false (Text.lowerFrom false text) :=
      lowerFrom_squeezeFrom (fun _ => rfl) text
    rw [squeezed, ← lowered]
    exact congrArg (Text.lowerFrom false) tidy.single

theorem collapse_lower_collapse (text : String) : collapse (lower (collapse text)) = lower (collapse text) :=
  (tidy_collapse text).lowerFrom.collapse

end Text

end TableTalk
