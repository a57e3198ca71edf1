import TableTalk.Proofs.Text.Simple
import TableTalk.Proofs.Text.Spacing

namespace TableTalk.Text

theorem startsCased_space (text rest : List Char) : startsCased (text ++ ' ' :: rest) = startsCased text := by
  have space : isCaseIgnorable ' ' = false := by decide
  have uncased : isCased ' ' = false := by decide
  unfold startsCased
  induction text with
  | nil => simp [space, uncased]
  | cons c later ih =>
    rw [List.cons_append, List.dropWhile_cons, List.dropWhile_cons]
    cases isCaseIgnorable c with
    | true => exact ih
    | false => rfl

theorem lowerFrom_space (letterBefore : Bool) (text rest : List Char) :
    lowerFrom letterBefore (text ++ ' ' :: rest) = lowerFrom letterBefore text ++ ' ' :: lowerFrom false rest := by
  induction text generalizing letterBefore with
  | nil => exact lowerFrom_blank (by decide) letterBefore rest
  | cons c later ih => rw [List.cons_append, lowerFrom, lowerFrom, ih, startsCased_space, List.append_assoc]

theorem lowerFrom_joined (texts : List (List Char)) :
    lowerFrom false ([' '].intercalate texts) = [' '].intercalate (texts.map (lowerFrom false)) := by
  induction texts with
  | nil => rfl
  | cons text rest ih =>
    cases rest with
    | nil => rw [List.map_singleton, List.intercalate_singleton, List.intercalate_singleton]
    | cons other rest =>
      rw [List.map_cons] at ih
      rw [List.map_cons, List.map_cons, List.intercalate_cons_cons, List.intercalate_cons_cons, List.append_assoc,
        List.append_assoc, List.singleton_append, List.singleton_append, lowerFrom_space, ih]

theorem lower_unwords (words : List String) :
    (lower (unwords words)).toList = [' '].intercalate (words.map fun word => (lower word).toList) := by
  unfold lower lowerChars
  simp only [String.toList_ofList]
  rw [toList_unwords, lowerFrom_joined, List.map_map]
  rfl

theorem joined_append {front back : List (List Char)} (before : front ≠ []) (behind : back ≠ []) :
    [' '].intercalate (front ++ back) = [' '].intercalate front ++ ' ' :: [' '].intercalate back := by
  induction front with
  | nil => exact absurd rfl before
  | cons text rest ih =>
    cases rest with
    | nil =>
      rw [List.singleton_append, List.intercalate_cons_of_ne_nil behind, List.intercalate_singleton,
        List.append_assoc, List.singleton_append]
    | cons other rest =>
      have later := ih (List.cons_ne_nil other rest)
      rw [List.cons_append] at later
      rw [List.cons_append, List.cons_append, List.intercalate_cons_cons, List.intercalate_cons_cons, later]
      simp only [List.append_assoc]

/-- Whether a part stands across a boundary between texts of a line: up to one of its spaces it ends what the texts
in front of the boundary show, and behind that space it goes on with the texts behind the boundary. -/
def Straddles (part : List Char) (texts : List (List Char)) : Prop :=
  ∃ front back, texts = front ++ back ∧ front ≠ [] ∧ back ≠ [] ∧ ∃ start rest, part = start ++ ' ' :: rest ∧
    start <:+ [' '].intercalate front ∧ rest <+: [' '].intercalate back

theorem Straddles.space_mem {part : List Char} {texts : List (List Char)} (straddles : Straddles part texts) :
    ' ' ∈ part := by
  obtain ⟨_, _, _, _, _, _, _, rfl, _, _⟩ := straddles
  exact List.mem_append_right _ List.mem_cons_self

theorem straddles_iff {part : List Char} {texts : List (List Char)} : Straddles part texts ↔
    ∃ i < texts.length, 0 < i ∧ ∃ k < part.length, part[k]? = some ' ' ∧
      part.take k <:+ [' '].intercalate (texts.take i) ∧ part.drop (k + 1) <+: [' '].intercalate (texts.drop i) := by
  constructor
  · rintro ⟨front, back, rfl, before, behind, start, rest, rfl, ends, begins⟩
    have frontLength := List.length_pos_iff.mpr before
    have backLength := List.length_pos_iff.mpr behind
    refine ⟨front.length, ?_, frontLength, start.length, ?_, ?_, ?_, ?_⟩
    · rw [List.length_append]
      omega
    · rw [List.length_append, List.length_cons]
      omega
    · rw [List.getElem?_append_right (Nat.le_refl _), Nat.sub_self]
      rfl
    · rw [List.take_left, List.take_left]
      exact ends
    · rw [List.drop_left, List.drop_append, Nat.add_sub_cancel_left,
        List.drop_eq_nil_of_le (Nat.le_succ start.length)]
      exact begins
  · rintro ⟨i, inside, first, k, _, space, ends, begins⟩
    obtain ⟨place, here⟩ := List.getElem?_eq_some_iff.mp space
    refine ⟨texts.take i, texts.drop i, (List.take_append_drop i texts).symm, ?_, ?_, part.take k, part.drop (k + 1),
      ?_, ends, begins⟩
    · rw [← List.length_pos_iff, List.length_take]
      omega
    · rw [← List.length_pos_iff, List.length_drop]
      omega
    · rw [← here, ← List.drop_eq_getElem_cons place, List.take_append_drop]

instance (part : List Char) (texts : List (List Char)) : Decidable (Straddles part texts) :=
  decidable_of_iff _ straddles_iff.symm

theorem Straddles.infix {part : List Char} {texts : List (List Char)} (straddles : Straddles part texts) :
    part <:+: [' '].intercalate texts := by
  obtain ⟨front, back, rfl, before, behind, start, rest, rfl, ⟨above, ends⟩, ⟨below, begins⟩⟩ := straddles
  rw [joined_append before behind, ← ends, ← begins]
  exact ⟨above, below, by simp only [List.append_assoc, List.cons_append]⟩

theorem infix_space {part front back : List Char} (nonempty : part ≠ []) (occurs : part <:+: front ++ ' ' :: back) :
    part <:+: front ∨ part <:+: back ∨ ∃ start rest, part = start ++ ' ' :: rest ∧ start <:+ front ∧ rest <+: back := by
  rcases List.infix_append_iff.mp occurs with before | behind | ⟨start, tail, split, ends, begins⟩
  · exact Or.inl before
  · rcases List.infix_cons_iff.mp behind with first | later
    · obtain empty | ⟨rest, split, begins⟩ := List.prefix_cons_iff.mp first
      · exact absurd empty nonempty
      · exact Or.inr (Or.inr ⟨[], rest, split, List.nil_suffix, begins⟩)
    · exact Or.inr (Or.inl later)
  · rcases List.prefix_cons_iff.mp begins with rfl | ⟨rest, rfl, later⟩
    · rw [List.append_nil] at split
      exact Or.inl (split ▸ ends.isInfix)
    · exact Or.inr (Or.inr ⟨start, rest, split, ends, later⟩)

/-- What occurs in a line occurs in one of its texts or stands across a boundary between them. -/
theorem infix_joined_iff {part : List Char} (nonempty : part ≠ []) (texts : List (List Char)) :
    part <:+: [' '].intercalate texts ↔ (∃ text ∈ texts, part <:+: text) ∨ Straddles part texts := by
  constructor
  · induction texts with
    | nil => exact fun occurs => absurd (List.eq_nil_of_infix_nil occurs) nonempty
    | cons text rest ih =>
      intro occurs
      by_cases last : rest = []
      · rw [last, List.intercalate_singleton] at occurs
        exact Or.inl ⟨text, List.mem_cons_self, occurs⟩
      · have first : [' '].intercalate [text] = text := List.intercalate_singleton
        have line := joined_append (List.cons_ne_nil text []) last
        rw [List.singleton_append, first] at line
        rw [line] at occurs
        rcases infix_space nonempty occurs with here | there | ⟨start, tail, split, ends, begins⟩
        · exact Or.inl ⟨text, List.mem_cons_self, here⟩
        · rcases ih there with ⟨other, member, inside⟩ | ⟨front, back, same, before, behind, start, tail, split, ends,
            begins⟩
          · exact Or.inl ⟨other, List.mem_cons_of_mem _ member, inside⟩
          · -- the texts in front of the boundary only get longer at their start
            refine Or.inr ⟨text :: front, back, by rw [same, List.cons_append], List.cons_ne_nil text front, behind,
              start, tail, split, ?_, begins⟩
            rw [List.intercalate_cons_of_ne_nil before]
            exact List.suffix_append_of_suffix ends
        · exact Or.inr ⟨[text], rest, rfl, List.cons_ne_nil text [], last, start, tail, split, by rwa [first], begins⟩
  · rintro (⟨text, member, inside⟩ | straddles)
    · exact inside.trans (word_in_joined member)
    · exact straddles.infix

end TableTalk.Text
