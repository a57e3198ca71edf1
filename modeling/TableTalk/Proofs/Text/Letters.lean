import TableTalk.Sql.Identifier
import TableTalk.Sql.Clause

namespace TableTalk.Text

theorem inRanges_bounds {ranges : List (Nat × Nat)} {c : Char} (inside : inRanges ranges c = true) :
    ∃ range ∈ ranges, range.1 ≤ c.toNat ∧ c.toNat ≤ range.2 := by
  induction ranges with
  | nil => simp [inRanges] at inside
  | cons range rest ih =>
    simp only [inRanges, Bool.and_eq_true, Bool.or_eq_true, decide_eq_true_eq] at inside
    rcases inside with ⟨low, high | later⟩
    · exact ⟨range, List.mem_cons_self, low, high⟩
    · obtain ⟨found, member, bounds⟩ := ih later
      exact ⟨found, List.mem_cons_of_mem _ member, bounds⟩

def rangesApart (left right : List (Nat × Nat)) : Bool :=
  left.all fun a => right.all fun b => a.2 < b.1 || b.2 < a.1

theorem inRanges_apart {left right : List (Nat × Nat)} {c : Char}
    (apart : rangesApart left right = true) (inside : inRanges left c = true) :
    inRanges right c = false := by
  rw [Bool.eq_false_iff]
  intro other
  obtain ⟨a, memberA, lowA, highA⟩ := inRanges_bounds inside
  obtain ⟨b, memberB, lowB, highB⟩ := inRanges_bounds other
  have separate := List.all_eq_true.mp (List.all_eq_true.mp apart a memberA) b memberB
  simp only [Bool.or_eq_true, decide_eq_true_eq] at separate
  omega

theorem blank_apart_alphanumeric : rangesApart blankRanges alphanumericRanges = true := by
  decide +kernel

theorem ascii_all {P : Char → Prop} (all : ∀ n : Fin 128, P (Char.ofNat n)) {c : Char}
    (ascii : c.toNat < 128) : P c := by
  have settled := all ⟨c.toNat, ascii⟩
  rwa [Char.ofNat_toNat] at settled

theorem blank_not_alphanumeric {c : Char} (blank : isBlank c = true) : isAlphanumeric c = false := by
  unfold isAlphanumeric
  split
  · rename_i ascii
    exact ascii_all (P := fun c => isBlank c = true → c.isAlphanum = false) (by decide) ascii blank
  · exact inRanges_apart blank_apart_alphanumeric blank

theorem isPatternMark_small {c : Char} (mark : Sql.isPatternMark c = true) :
    c.toNat ≤ 0x60 ∧ c.toNat ≠ 0 := by
  simp only [Sql.isPatternMark, Bool.or_eq_true, beq_iff_eq] at mark
  rcases mark with (rfl | rfl) | rfl <;> decide

theorem lowerRuns_behind_marks : (lowerRuns.all fun run => 0x60 < run.target) = true := by
  decide +kernel

theorem CaseRun.map?_bounds {run : CaseRun} {code image : Nat} (found : run.map? code = some image) :
    run.first ≤ code ∧ code ≤ run.last ∧ run.target ≤ image ∧ image ≤ run.target + (run.last - run.first) := by
  unfold CaseRun.map? at found
  split at found
  · rename_i inside
    cases found
    simp only [Bool.and_eq_true, decide_eq_true_eq] at inside
    omega
  · cases found

theorem toNat_ofNat_cases (n : Nat) : (Char.ofNat n).toNat = n ∨ (Char.ofNat n).toNat = 0 := by
  by_cases valid : n.isValidChar
  · exact Or.inl (by rw [Char.ofNat, dif_pos valid]; rfl)
  · exact Or.inr (by rw [Char.ofNat, dif_neg valid]; rfl)

theorem mapByRuns_cases (runs : List CaseRun) (c : Char) :
    mapByRuns runs c = c ∨ ∃ run ∈ runs, run.first ≤ c.toNat ∧ c.toNat ≤ run.last ∧
      ((mapByRuns runs c).toNat = 0 ∨ run.target ≤ (mapByRuns runs c).toNat ∧
        (mapByRuns runs c).toNat ≤ run.target + (run.last - run.first)) := by
  unfold mapByRuns
  split
  · rename_i code found
    obtain ⟨run, member, image⟩ := List.exists_of_findSome?_eq_some found
    obtain ⟨first, last, low, high⟩ := CaseRun.map?_bounds image
    refine Or.inr ⟨run, member, first, last, ?_⟩
    rcases toNat_ofNat_cases code with valid | invalid
    · exact Or.inr (by omega)
    · exact Or.inl invalid
  · exact Or.inl rfl

theorem mapByRuns_lower_not_mark {c : Char} (plain : Sql.isPatternMark c = false) :
    Sql.isPatternMark (mapByRuns lowerRuns c) = false := by
  rcases mapByRuns_cases lowerRuns c with same | ⟨run, member, _, _, image⟩
  · rw [same, plain]
  · have behind := List.all_eq_true.mp lowerRuns_behind_marks run member
    simp only [decide_eq_true_eq] at behind
    rw [Bool.eq_false_iff]
    intro mark
    obtain ⟨small, nonzero⟩ := isPatternMark_small mark
    omega

theorem isPatternMark_lowerLetter (c : Char) :
    Sql.isPatternMark (lowerLetter c) = Sql.isPatternMark c := by
  unfold lowerLetter
  by_cases ascii : c.toNat < 128
  · rw [if_pos ascii]
    exact ascii_all (P := fun c => Sql.isPatternMark c.toLower = Sql.isPatternMark c) (by decide) ascii
  · have plain : Sql.isPatternMark c = false := by
      rw [Bool.eq_false_iff]
      intro mark
      have small := (isPatternMark_small mark).1
      omega
    rw [if_neg ascii, plain]
    split
    · rfl
    · exact mapByRuns_lower_not_mark plain

theorem lowerLetter_of_mark {c : Char} (mark : Sql.isPatternMark c = true) : lowerLetter c = c := by
  have small := (isPatternMark_small mark).1
  have ascii : c.toNat < 128 := by omega
  rw [lowerLetter, if_pos ascii]
  exact ascii_all (P := fun c => Sql.isPatternMark c = true → c.toLower = c) (by decide) ascii mark

end TableTalk.Text
