import TableTalk.Proofs.Phrase.Tree
import TableTalk.Proofs.Text.Runs
import TableTalk.Tagging.Comparison

namespace TableTalk

namespace Phrasebook

variable {α : Type} {book : Phrasebook α} {hit : Hit α}

theorem hitsAtHead_aligned {index : Nat} {token : Token} {rest : List Token}
    (ordered : ∀ later ∈ rest, token.stop ≤ later.start)
    (nonempty : ∀ other ∈ token :: rest, other.start < other.stop)
    (member : hit ∈ book.hitsAtHead index (token :: rest)) :
    hit.start = token.start ∧ ∃ last ∈ token :: rest, hit.stop = last.stop ∧ hit.start < hit.stop := by
  obtain ⟨n, meets⟩ := PhraseTree.mem_hitsAlong.mp member
  obtain ⟨last, here, stop⟩ := Option.map_eq_some_iff.mp meets.stop
  have among := List.mem_of_getElem? here
  refine ⟨meets.start, last, among, stop.symm, ?_⟩
  rw [meets.start, ← stop]
  have length := nonempty last among
  rcases List.mem_cons.mp among with rfl | later
  · exact length
  · have behind := ordered last later
    have front := nonempty token List.mem_cons_self
    omega

theorem hitsFrom_aligned {index : Nat} {tokens : List Token}
    (ordered : tokens.Pairwise fun a b => a.stop ≤ b.start)
    (nonempty : ∀ token ∈ tokens, token.start < token.stop) (member : hit ∈ book.hitsFrom index tokens) :
    ∃ first ∈ tokens, ∃ last ∈ tokens,
      hit.start = first.start ∧ hit.stop = last.stop ∧ hit.start < hit.stop := by
  induction tokens generalizing index with
  | nil => cases member
  | cons token rest ih =>
    obtain ⟨behind, later⟩ := List.pairwise_cons.mp ordered
    rcases List.mem_append.mp member with here | there
    · obtain ⟨start, last, among, stop, length⟩ := hitsAtHead_aligned behind nonempty here
      exact ⟨token, List.mem_cons_self, last, among, start, stop, length⟩
    · obtain ⟨first, one, last, other, places⟩ :=
        ih later (fun token inside => nonempty token (List.mem_cons_of_mem _ inside)) there
      exact ⟨first, List.mem_cons_of_mem _ one, last, List.mem_cons_of_mem _ other, places⟩

theorem hits_aligned {text : List Char} (member : hit ∈ book.hits (Token.scan text)) :
    ∃ first ∈ Token.scan text, ∃ last ∈ Token.scan text,
      hit.start = first.start ∧ hit.stop = last.stop ∧ hit.start < hit.stop :=
  hitsFrom_aligned (Token.scan_ordered text) (fun _ inside => (Token.scan_bounds inside).1) member

end Phrasebook

namespace ComparisonHit

theorem literal?_length {literal text rest : List Char} (found : literal? literal text = some rest) :
    rest.length ≤ text.length := by
  fun_induction literal? literal text with
  | case1 text =>
    cases found
    exact Nat.le_refl _
  | case2 => cases found
  | case3 c literal d text alike ih => exact Nat.le_succ_of_le (ih found)
  | case4 => cases found

theorem blanks?_length {text rest : List Char} (found : blanks? text = some rest) :
    rest.length < text.length := by
  unfold blanks? at found
  split at found
  · cases found
  · rename_i c later
    split at found
    · cases found
      exact Nat.lt_succ_of_le (List.dropWhile_sublist _).length_le
    · cases found

theorem words?_length {words : List (List Char)} {text rest : List Char}
    (found : words? words text = some rest) : rest.length ≤ text.length := by
  fun_induction words? words text with
  | case1 text =>
    cases found
    exact Nat.le_refl _
  | case2 word text => exact literal?_length found
  | case3 word others more text ih =>
    simp only [Option.bind_eq_bind, Option.bind_eq_some_iff] at found
    obtain ⟨behind, spelled, next, blank, later⟩ := found
    have first := literal?_length spelled
    have second := blanks?_length blank
    have third := ih next later
    omega

theorem groupEnds_le {taken : Nat} {text : List Char} {n : Nat} (member : n ∈ groupEnds taken text) :
    n ≤ taken + text.length := by
  fun_induction groupEnds taken text with
  | case1 taken a b c rest digits ih =>
    rcases List.mem_append.mp member with later | last
    · have bound := ih later
      simp only [List.length_cons]
      omega
    · cases List.mem_singleton.mp last
      simp only [List.length_cons]
      omega
  | case2 => cases member
  | case3 => cases member

theorem wholeLengths_le {text : List Char} {n : Nat} (member : n ∈ wholeLengths text) :
    n ≤ text.length := by
  have digits : (text.takeWhile Text.isDecimal).length ≤ text.length :=
    (List.takeWhile_sublist _).length_le
  unfold wholeLengths at member
  rcases List.mem_append.mp member with grouped | plain
  · obtain ⟨lead, among, ends⟩ := List.mem_flatMap.mp grouped
    obtain ⟨k, below, rfl⟩ := List.mem_map.mp among
    rw [List.mem_reverse, List.mem_range] at below
    have bound := groupEnds_le ends
    rw [List.length_drop] at bound
    omega
  · obtain ⟨k, below, rfl⟩ := List.mem_map.mp plain
    rw [List.mem_reverse, List.mem_range] at below
    omega

theorem withFraction_le {text : List Char} {whole n : Nat} (inside : whole ≤ text.length)
    (member : n ∈ withFraction text whole) : n ≤ text.length := by
  unfold withFraction at member
  split at member
  · rename_i rest behind
    have digits : (rest.takeWhile Text.isDecimal).length ≤ rest.length :=
      (List.takeWhile_sublist _).length_le
    have length := congrArg List.length behind
    rw [List.length_drop, List.length_cons] at length
    rcases List.mem_append.mp member with fraction | plain
    · obtain ⟨k, below, rfl⟩ := List.mem_map.mp fraction
      rw [List.mem_reverse, List.mem_range] at below
      omega
    · cases List.mem_singleton.mp plain
      exact inside
  · cases List.mem_singleton.mp member
    exact inside

theorem numeralLength?_le {text : List Char} {n : Nat} (found : numeralLength? text = some n) :
    n ≤ text.length := by
  obtain ⟨whole, among, tried⟩ := List.exists_of_findSome?_eq_some found
  exact withFraction_le (wholeLengths_le among) (List.mem_of_find?_eq_some tried)

theorem atFront?_bounds {offset : Nat} {text : List Char} {phrase : List (List Char)}
    {hit : ComparisonHit} (found : atFront? offset text phrase = some hit) :
    hit.start = offset ∧ offset < hit.stop ∧ hit.stop ≤ offset + text.length := by
  simp only [atFront?, Option.bind_eq_bind, Option.bind_eq_some_iff, Option.pure_def,
    Option.some.injEq] at found
  obtain ⟨behind, spelled, number, blank, length, numeral, rfl⟩ := found
  have first := words?_length spelled
  have second := blanks?_length blank
  have third := numeralLength?_le numeral
  refine ⟨rfl, ?_, ?_⟩
  · show offset < offset + (text.length - number.length) + length
    omega
  · show offset + (text.length - number.length) + length ≤ offset + text.length
    omega

theorem scanFrom_bounds {phrases : List (List (List Char))} {offset : Nat} {before : Option Char}
    {skip : Nat} {text : List Char} {hit : ComparisonHit}
    (member : hit ∈ scanFrom phrases offset before skip text) :
    hit.start < hit.stop ∧ hit.stop ≤ offset + text.length := by
  induction text generalizing offset before skip with
  | nil => cases member
  | cons c rest ih =>
    -- behind the first character the scan goes on from the next offset, skipping or not
    have later {skip : Nat} (there : hit ∈ scanFrom phrases (offset + 1) (some c) skip rest) :
        hit.start < hit.stop ∧ hit.stop ≤ offset + (c :: rest).length := by
      obtain ⟨nonempty, bound⟩ := ih there
      rw [List.length_cons]
      exact ⟨nonempty, by omega⟩
    cases skip with
    | succ skip => exact later member
    | zero =>
      simp only [scanFrom] at member
      split at member
      · rename_i found matched
        rcases List.mem_cons.mp member with rfl | there
        · split at matched
          · obtain ⟨phrase, _, front⟩ := List.exists_of_findSome?_eq_some matched
            obtain ⟨start, nonempty, bound⟩ := atFront?_bounds front
            exact ⟨by omega, bound⟩
          · cases matched
        · exact later there
      · exact later member

theorem scan_bounds {comparisons : List (String × Bound)} {text : List Char} {hit : ComparisonHit}
    (member : hit ∈ scan comparisons text) : hit.start < hit.stop ∧ hit.stop ≤ text.length := by
  have bounds := scanFrom_bounds member
  rwa [Nat.zero_add] at bounds

end ComparisonHit

end TableTalk
