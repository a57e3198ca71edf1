namespace TableTalk.Sorting

variable {α : Type} {le : α → α → Bool}

theorem placed_sorted (trans : ∀ a b c, le a b = true → le b c = true → le a c = true)
    (total : ∀ a b, (le a b || le b a) = true) (items : List α) :
    (items.zipIdx.mergeSort (List.zipIdxLE le)).Pairwise fun a b => List.zipIdxLE le a b = true ∧ a.2 ≠ b.2 := by
  have sorted := List.pairwise_mergeSort (List.zipIdxLE_trans trans) (List.zipIdxLE_total total) items.zipIdx
  refine sorted.and ?_
  refine ((List.mergeSort_perm _ _).pairwise_iff fun apart here => apart here.symm).mpr ?_
  apply List.pairwise_map.mp
  rw [List.zipIdx_map_snd]
  exact List.nodup_range'

theorem zipIdxLE_iff {a b : α × Nat} :
    List.zipIdxLE le a b = true ↔ le a.1 b.1 = true ∧ (le b.1 a.1 = true → a.2 ≤ b.2) := by
  unfold List.zipIdxLE
  cases le a.1 b.1 <;> cases le b.1 a.1 <;> simp

theorem pairwise_stable {R : α → α → Prop}
    (trans : ∀ a b c, le a b = true → le b c = true → le a c = true)
    (total : ∀ a b, (le a b || le b a) = true) {items : List α} (related : items.Pairwise R) :
    (items.mergeSort le).Pairwise fun a b => le a b = true ∧ (le b a = true → R a b) := by
  have same := List.mergeSort_perm items.zipIdx (List.zipIdxLE le)
  rw [← List.mergeSort_zipIdx, List.pairwise_map]
  refine (placed_sorted trans total items).imp_of_mem ?_
  intro a b memberA memberB both
  obtain ⟨before, apart⟩ := both
  obtain ⟨first, tie⟩ := zipIdxLE_iff.mp before
  refine ⟨first, fun second => ?_⟩
  obtain ⟨a, i⟩ := a
  obtain ⟨b, j⟩ := b
  obtain ⟨inside, rfl⟩ :=
    List.getElem?_eq_some_iff.mp (List.mk_mem_zipIdx_iff_getElem?.mp (same.mem_iff.mp memberA))
  obtain ⟨inside', rfl⟩ :=
    List.getElem?_eq_some_iff.mp (List.mk_mem_zipIdx_iff_getElem?.mp (same.mem_iff.mp memberB))
  exact List.pairwise_iff_getElem.mp related i j inside inside' (Nat.lt_of_le_of_ne (tie second) apart)

theorem pairwise_total {R : α → α → Prop} {items : List α} (sorted : items.Pairwise R) {a b : α} (memberA : a ∈ items)
    (memberB : b ∈ items) : R a b ∨ a = b ∨ R b a := by
  obtain ⟨i, insideA, rfl⟩ := List.getElem_of_mem memberA
  obtain ⟨j, insideB, rfl⟩ := List.getElem_of_mem memberB
  rcases Nat.lt_trichotomy i j with before | rfl | after
  · exact Or.inl (List.pairwise_iff_getElem.mp sorted i j insideA insideB before)
  · exact Or.inr (Or.inl rfl)
  · exact Or.inr (Or.inr (List.pairwise_iff_getElem.mp sorted j i insideB insideA after))

end TableTalk.Sorting
