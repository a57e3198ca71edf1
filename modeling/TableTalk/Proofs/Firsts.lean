import TableTalk.Proofs.Assoc

namespace TableTalk

variable {β γ : Type} {key : β → γ} {items kept : List β} {a : β}

def FirstAt (key : β → γ) (items : List β) (i : Nat) : Prop :=
  ∃ a, items[i]? = some a ∧ ∀ b ∈ items.take i, key b ≠ key a

/-- Whether a list holds those items that are the first with their keys, in the order of their places. -/
def FirstsBy (key : β → γ) (items kept : List β) : Prop :=
  ∃ places : List Nat, places.Pairwise (· < ·) ∧ (∀ i, i ∈ places ↔ FirstAt key items i) ∧
    kept.map some = places.map fun i => items[i]?

theorem FirstAt.inside {i : Nat} (first : FirstAt key items i) : i < items.length := by
  obtain ⟨_, here, _⟩ := first
  exact (List.getElem?_eq_some_iff.mp here).1

theorem firstAt_append {i : Nat} (inside : i < items.length) :
    FirstAt key (items ++ [a]) i ↔ FirstAt key items i := by
  rw [FirstAt, FirstAt, List.getElem?_append_left inside, List.take_append_of_le_length (Nat.le_of_lt inside)]

theorem firstAt_last : FirstAt key (items ++ [a]) items.length ↔ ∀ b ∈ items, key b ≠ key a := by
  have front : (items ++ [a]).take items.length = items := List.take_left
  rw [FirstAt, List.getElem?_concat_length, front]
  constructor
  · rintro ⟨_, ⟨⟩, new⟩
    exact new
  · exact fun new => ⟨a, rfl, new⟩

theorem FirstAt.append_cases {i : Nat} (first : FirstAt key (items ++ [a]) i) :
    FirstAt key items i ∨ i = items.length ∧ ∀ b ∈ items, key b ≠ key a := by
  have inside := first.inside
  rw [List.length_append, List.length_singleton] at inside
  by_cases last : i = items.length
  · rw [last] at first
    exact Or.inr ⟨last, firstAt_last.mp first⟩
  · exact Or.inl ((firstAt_append (by omega)).mp first)

theorem exists_firstAt {i : Nat} {b : β} (here : items[i]? = some b) :
    ∃ j c, FirstAt key items j ∧ items[j]? = some c ∧ key c = key b := by
  induction i using Nat.strongRecOn generalizing b with
  | ind i ih =>
    by_cases earlier : ∃ d ∈ items.take i, key d = key b
    · obtain ⟨d, before, same⟩ := earlier
      obtain ⟨j, there⟩ := List.mem_iff_getElem?.mp before
      have smaller := (List.getElem?_eq_some_iff.mp there).1
      rw [List.length_take] at smaller
      have less : j < i := by omega
      rw [List.getElem?_take_of_lt less] at there
      obtain ⟨k, c, first, found, equal⟩ := ih j less there
      exact ⟨k, c, first, found, equal.trans same⟩
    · exact ⟨i, b, ⟨b, here, fun d before same => earlier ⟨d, before, same⟩⟩, here, rfl⟩

theorem getElem?_places {places : List Nat} (inside : ∀ i ∈ places, i < items.length) (more : List β) :
    (places.map fun i => (items ++ more)[i]?) = places.map fun i => items[i]? :=
  List.map_congr_left fun i member => List.getElem?_append_left (inside i member)

namespace FirstsBy

theorem nil : FirstsBy key [] [] := by
  refine ⟨[], List.Pairwise.nil, fun i => ⟨nofun, fun first => ?_⟩, rfl⟩
  cases first.inside

theorem append_new (firsts : FirstsBy key items kept) (new : ∀ b ∈ items, key b ≠ key a) :
    FirstsBy key (items ++ [a]) (kept ++ [a]) := by
  obtain ⟨places, ordered, first, listed⟩ := firsts
  have inside : ∀ i ∈ places, i < items.length := fun i member => ((first i).mp member).inside
  refine ⟨places ++ [items.length], ?_, fun i => ?_, ?_⟩
  · refine List.pairwise_append.mpr ⟨ordered, List.pairwise_singleton _ _, fun i member j last => ?_⟩
    rw [List.mem_singleton.mp last]
    exact inside i member
  · rw [List.mem_append, List.mem_singleton, first i]
    constructor
    · rintro (earlier | rfl)
      · exact (firstAt_append earlier.inside).mpr earlier
      · exact firstAt_last.mpr new
    · exact fun here => here.append_cases.imp_right And.left
  · rw [List.map_append, List.map_append, listed, getElem?_places inside, List.map_singleton, List.map_singleton,
      List.getElem?_concat_length]

theorem append_known (firsts : FirstsBy key items kept) (known : ∃ b ∈ items, key b = key a) :
    FirstsBy key (items ++ [a]) kept := by
  obtain ⟨places, ordered, first, listed⟩ := firsts
  have inside : ∀ i ∈ places, i < items.length := fun i member => ((first i).mp member).inside
  obtain ⟨b, member, same⟩ := known
  refine ⟨places, ordered, fun i => ?_, listed.trans (getElem?_places inside [a]).symm⟩
  rw [first i]
  constructor
  · exact fun earlier => (firstAt_append earlier.inside).mpr earlier
  · exact fun here => here.append_cases.resolve_right fun ⟨_, new⟩ => new b member same

theorem subset (firsts : FirstsBy key items kept) : ∀ b ∈ kept, b ∈ items := by
  obtain ⟨places, _, _, listed⟩ := firsts
  intro b member
  have here : some b ∈ kept.map some := List.mem_map_of_mem member
  rw [listed] at here
  obtain ⟨i, _, found⟩ := List.mem_map.mp here
  exact List.mem_of_getElem? found

theorem covers (firsts : FirstsBy key items kept) {b : β} (member : b ∈ items) : ∃ c ∈ kept, key c = key b := by
  obtain ⟨places, _, first, listed⟩ := firsts
  obtain ⟨i, here⟩ := List.mem_iff_getElem?.mp member
  obtain ⟨j, c, least, found, same⟩ : ∃ j c, FirstAt key items j ∧ items[j]? = some c ∧ key c = key b :=
    exists_firstAt here
  have here : some c ∈ places.map fun i => items[i]? := List.mem_map.mpr ⟨j, (first j).mpr least, found⟩
  rw [← listed] at here
  obtain ⟨d, among, equal⟩ := List.mem_map.mp here
  cases equal
  exact ⟨c, among, same⟩

theorem distinct [DecidableEq β] (values : List β) : FirstsBy id values (Assoc.distinct values) := by
  -- one value after the other joins those in front
  suffices run : ∀ front : List β, FirstsBy id front (Assoc.distinct front) →
      FirstsBy id (front ++ values) (Assoc.distinct (front ++ values)) by
    exact run [] nil
  induction values with
  | nil =>
    intro front before
    rwa [List.append_nil]
  | cons a rest ih =>
    intro front before
    have step : FirstsBy id (front ++ [a]) (Assoc.distinct (front ++ [a])) := by
      rw [Assoc.distinct_append_singleton]
      split
      · rename_i known
        exact before.append_known ⟨a, known, rfl⟩
      · rename_i new
        refine before.append_new ?_
        rintro b member rfl
        exact new member
    rw [← List.singleton_append, ← List.append_assoc]
    exact ih _ step

end FirstsBy

end TableTalk
