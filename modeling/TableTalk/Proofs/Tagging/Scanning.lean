import TableTalk.Proofs.Tagging.Candidates

namespace TableTalk.ComparisonHit

/-- The comparisons from an offset on, if none that starts before it reaches beyond it. -/
def scanAt (phrases : List (List (List Char))) (text : List Char) (i : Nat) : List ComparisonHit :=
  scanFrom phrases i (text.take i).getLast? 0 (text.drop i)

theorem scan_eq_scanAt (comparisons : List (String × Bound)) (text : List Char) :
    scan comparisons text = scanAt (comparisons.map fun entry => Text.fieldsOf entry.1.toList) text 0 := rfl

theorem getLast?_take_succ {text : List Char} {i : Nat} (inside : i < text.length) :
    (text.take (i + 1)).getLast? = some text[i] := by
  rw [List.take_succ_eq_append_getElem inside, List.getLast?_append]
  rfl

theorem scanFrom_skip (phrases : List (List (List Char))) {text : List Char} {i skip : Nat}
    (inside : i + skip ≤ text.length) :
    scanFrom phrases i (text.take i).getLast? skip (text.drop i) = scanAt phrases text (i + skip) := by
  induction skip generalizing i with
  | zero => rfl
  | succ skip ih =>
    have next : i + 1 + skip = i + (skip + 1) := by omega
    have later := ih (i := i + 1) (by omega)
    rw [getLast?_take_succ (by omega), next] at later
    rw [List.drop_eq_getElem_cons (by omega), scanFrom]
    exact later

theorem scanAt_end (phrases : List (List (List Char))) (text : List Char) :
    scanAt phrases text text.length = [] := by
  rw [scanAt, List.drop_length, scanFrom]

def foundAt? (phrases : List (List (List Char))) (text : List Char) (i : Nat) : Option ComparisonHit :=
  if Text.isBoundary (text.take i).getLast? (text.drop i).head? then
    phrases.findSome? (atFront? i (text.drop i))
  else none

theorem foundAt?_front {phrases : List (List (List Char))} {text : List Char} {i : Nat} {hit : ComparisonHit}
    (found : foundAt? phrases text i = some hit) :
    Text.isBoundary (text.take i).getLast? (text.drop i).head? = true ∧
      ∃ phrase ∈ phrases, atFront? i (text.drop i) phrase = some hit := by
  unfold foundAt? at found
  split at found
  · rename_i edge
    obtain ⟨phrase, member, front⟩ := List.exists_of_findSome?_eq_some found
    exact ⟨edge, phrase, member, front⟩
  · cases found

theorem foundAt?_bounds {phrases : List (List (List Char))} {text : List Char} {i : Nat} {hit : ComparisonHit}
    (inside : i ≤ text.length) (found : foundAt? phrases text i = some hit) :
    hit.start = i ∧ i < hit.stop ∧ hit.stop ≤ text.length := by
  obtain ⟨_, phrase, _, front⟩ := foundAt?_front found
  obtain ⟨start, nonempty, bound⟩ := atFront?_bounds front
  rw [List.length_drop] at bound
  exact ⟨start, nonempty, by omega⟩

theorem scanAt_next (phrases : List (List (List Char))) {text : List Char} {i : Nat} (inside : i < text.length) :
    scanAt phrases text i = match foundAt? phrases text i with
      | some hit => hit :: scanAt phrases text hit.stop
      | none => scanAt phrases text (i + 1) := by
  have whole := List.drop_eq_getElem_cons inside
  have later (skip : Nat) (bound : i + 1 + skip ≤ text.length) :
      scanFrom phrases (i + 1) (some text[i]) skip (text.drop (i + 1)) = scanAt phrases text (i + 1 + skip) := by
    rw [← getLast?_take_succ inside]
    exact scanFrom_skip phrases bound
  have here : foundAt? phrases text i =
      if Text.isBoundary (text.take i).getLast? (some text[i]) then
        phrases.findSome? (atFront? i (text[i] :: text.drop (i + 1)))
      else none := by
    rw [foundAt?, whole]
    rfl
  cases found : foundAt? phrases text i with
  | none =>
    rw [scanAt, whole, scanFrom]
    simp only [← here, found]
    exact later 0 (by omega)
  | some hit =>
    obtain ⟨_, behind, bound⟩ := foundAt?_bounds (by omega) found
    have more : i + 1 + (hit.stop - i - 1) = hit.stop := by omega
    rw [scanAt, whole, scanFrom]
    simp only [← here, found]
    rw [later _ (by omega), more]

theorem mem_scanAt {phrases : List (List (List Char))} {text : List Char} {i : Nat} (inside : i ≤ text.length)
    {hit : ComparisonHit} (member : hit ∈ scanAt phrases text i) :
    i ≤ hit.start ∧ hit.start < text.length ∧ foundAt? phrases text hit.start = some hit := by
  by_cases last : i = text.length
  · rw [last, scanAt_end] at member
    cases member
  · have less : i < text.length := by omega
    rw [scanAt_next phrases less] at member
    cases found : foundAt? phrases text i with
    | none =>
      rw [found] at member
      obtain ⟨behind, later⟩ := mem_scanAt less member
      exact ⟨by omega, later⟩
    | some first =>
      obtain ⟨start, behind, bound⟩ := foundAt?_bounds inside found
      rw [found] at member
      rcases List.mem_cons.mp member with rfl | rest
      · rw [start]
        exact ⟨Nat.le_refl i, less, found⟩
      · obtain ⟨after, later⟩ := mem_scanAt bound rest
        exact ⟨by omega, later⟩
termination_by text.length - i

end TableTalk.ComparisonHit
