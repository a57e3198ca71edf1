import TableTalk.Phrase
import TableTalk.Proofs.Assoc
import TableTalk.Proofs.Sorting
import TableTalk.Proofs.Tagging.Candidates

namespace TableTalk

namespace Phrasebook

variable {α : Type}

theorem get?_empty (words : List String) : ({} : Phrasebook α).get? words = none :=
  PhraseTree.get?_empty words

theorem get?_insert (book : Phrasebook α) (words : List String) (meaning : Option α) (other : List String) :
    (book.insert words meaning).1.get? other =
      (book.get? other).or (if words.map Text.lower = other ∧ other ≠ [] then meaning else none) := by
  unfold insert
  dsimp only
  by_cases refused : ((words.map Text.lower).isEmpty || (book.get? (words.map Text.lower)).isSome) = true
  · rw [if_pos refused]
    rw [Bool.or_eq_true, List.isEmpty_iff] at refused
    by_cases same : words.map Text.lower = other ∧ other ≠ []
    · obtain ⟨rfl, nonempty⟩ := same
      obtain ⟨known, found⟩ := Option.isSome_iff_exists.mp (refused.resolve_left nonempty)
      rw [found, Option.some_or]
    · rw [if_neg same, Option.or_none]
  · rw [if_neg refused]
    rw [Bool.or_eq_true, List.isEmpty_iff, not_or] at refused
    have given := book.tree.get?_give meaning (words.map Text.lower) other
    by_cases same : words.map Text.lower = other
    · rw [if_pos same] at given
      rw [if_pos ⟨same, same ▸ refused.1⟩]
      exact given
    · rw [if_neg same] at given
      rw [if_neg fun both => same both.1]
      exact given

theorem get?_ofList (phrases : List (List String × α)) {words : List String} (nonempty : words ≠ []) :
    (ofList phrases).get? words =
      (phrases.find? fun phrase => phrase.1.map Text.lower = words).map Prod.snd := by
  have run (book : Phrasebook α) :
      (phrases.foldl (fun book phrase => (book.insert phrase.1 (some phrase.2)).1) book).get? words =
        (book.get? words).or
          ((phrases.find? fun phrase => phrase.1.map Text.lower = words).map Prod.snd) := by
    induction phrases generalizing book with
    | nil => simp
    | cons phrase rest ih =>
      rw [List.foldl_cons, ih, get?_insert, Option.or_assoc]
      congr 1
      by_cases same : phrase.1.map Text.lower = words
      · simp [same, nonempty]
      · simp [same]
  rw [ofList, run, get?_empty, Option.none_or]

structure OccursAt (book : Phrasebook α) (tokens : List Token) (hit : Hit α) (i n : Nat) : Prop where
  start : tokens[i]?.map Token.start = some hit.start
  stop : tokens[i + n]?.map Token.stop = some hit.stop
  meaning : book.get? (((tokens.drop i).take (n + 1)).map Token.text) = some hit.meaning

theorem spelled_ne_nil {tokens : List Token} {i start : Nat} (here : tokens[i]?.map Token.start = some start) (n : Nat) :
    ((tokens.drop i).take (n + 1)).map Token.text ≠ [] := by
  obtain ⟨token, found, _⟩ := Option.map_eq_some_iff.mp here
  obtain ⟨inside, _⟩ := List.getElem?_eq_some_iff.mp found
  rw [List.drop_eq_getElem_cons inside, List.take_succ_cons]
  nofun

theorem OccursAt.spelled {book : Phrasebook α} {tokens : List Token} {hit : Hit α} {i n : Nat}
    (occurs : book.OccursAt tokens hit i n) : ((tokens.drop i).take (n + 1)).map Token.text ≠ [] :=
  spelled_ne_nil occurs.start n

theorem mem_hitsAtHead {book : Phrasebook α} {index : Nat} {tokens : List Token} {hit : Hit α} :
    hit ∈ book.hitsAtHead index tokens ↔
      ∃ n, hit.first = index ∧ hit.last = index + n ∧ book.OccursAt tokens hit 0 n := by
  cases tokens with
  | nil =>
    refine ⟨nofun, ?_⟩
    rintro ⟨_, _, _, occurs⟩
    exact nomatch occurs.start
  | cons head rest =>
    rw [hitsAtHead, PhraseTree.mem_hitsAlong]
    refine exists_congr fun n => ⟨?_, ?_⟩
    · rintro ⟨first, last, start, stop, meaning⟩
      rw [← Nat.zero_add n] at stop
      exact ⟨first, last, congrArg some start.symm, stop, meaning⟩
    · rintro ⟨first, last, start, stop, meaning⟩
      rw [Nat.zero_add] at stop
      exact ⟨first, last, (Option.some.inj start).symm, stop, meaning⟩

theorem mem_hitsFrom {book : Phrasebook α} {index : Nat} {tokens : List Token} {hit : Hit α} :
    hit ∈ book.hitsFrom index tokens ↔
      ∃ i n, hit.first = index + i ∧ hit.last = index + i + n ∧ book.OccursAt tokens hit i n := by
  induction tokens generalizing index with
  | nil =>
    refine ⟨nofun, ?_⟩
    rintro ⟨i, n, _, _, occurs⟩
    exact nomatch occurs.start
  | cons token rest ih =>
    rw [hitsFrom, List.mem_append, mem_hitsAtHead, ih]
    constructor
    · rintro (⟨n, first, last, occurs⟩ | ⟨i, n, first, last, start, stop, meaning⟩)
      · exact ⟨0, n, first, last, occurs⟩
      · refine ⟨i + 1, n, by omega, by omega, start, ?_, meaning⟩
        rw [Nat.add_right_comm]
        exact stop
    · rintro ⟨i, n, first, last, occurs⟩
      cases i with
      | zero => exact Or.inl ⟨n, first, last, occurs⟩
      | succ i =>
        obtain ⟨start, stop, meaning⟩ := occurs
        rw [Nat.add_right_comm] at stop
        exact Or.inr ⟨i, n, by omega, by omega, start, stop, meaning⟩

theorem mem_hits {book : Phrasebook α} {tokens : List Token} {hit : Hit α} :
    hit ∈ book.hits tokens ↔
      hit.first ≤ hit.last ∧ book.OccursAt tokens hit hit.first (hit.last - hit.first) := by
  rw [hits, mem_hitsFrom]
  constructor
  · rintro ⟨i, n, first, last, occurs⟩
    have same : hit.first = i := by omega
    have more : hit.last - hit.first = n := by omega
    rw [more, same]
    exact ⟨by omega, occurs⟩
  · rintro ⟨ordered, occurs⟩
    exact ⟨hit.first, hit.last - hit.first, by omega, by omega, occurs⟩

theorem hits_empty (tokens : List Token) : ({} : Phrasebook α).hits tokens = [] := by
  refine List.eq_nil_iff_forall_not_mem.mpr fun hit member => ?_
  have meaning := (mem_hits.mp member).2.meaning
  rw [get?_empty] at meaning
  cases meaning

end Phrasebook

def Token.moved (offset : Nat → Nat) (token : Token) : Token :=
  ⟨token.text, offset token.start, offset token.stop⟩

def Hit.moved {α : Type} (offset : Nat → Nat) (hit : Hit α) : Hit α :=
  { hit with start := offset hit.start, stop := offset hit.stop }

theorem PhraseTree.hitsAlong_moved {α : Type} (tree : PhraseTree α) (offset : Nat → Nat) (first start last : Nat)
    (tokens : List Token) : tree.hitsAlong first (offset start) last (tokens.map (Token.moved offset)) =
      (tree.hitsAlong first start last tokens).map (Hit.moved offset) := by
  induction tokens generalizing tree last with
  | nil => rfl
  | cons token rest ih =>
    have same : (token.moved offset).text = token.text := rfl
    rw [List.map_cons, hitsAlong, hitsAlong, same]
    cases tree.child? token.text with
    | none => rfl
    | some next =>
      dsimp only
      rw [ih]
      cases next.meaning with
      | none => rfl
      | some meaning => rfl

namespace Phrasebook

variable {α : Type}

theorem hitsAtHead_moved (book : Phrasebook α) (offset : Nat → Nat) (index : Nat) (tokens : List Token) :
    book.hitsAtHead index (tokens.map (Token.moved offset)) =
      (book.hitsAtHead index tokens).map (Hit.moved offset) := by
  cases tokens with
  | nil => rfl
  | cons head rest => exact book.tree.hitsAlong_moved offset index head.start index (head :: rest)

theorem hitsFrom_moved (book : Phrasebook α) (offset : Nat → Nat) (index : Nat) (tokens : List Token) :
    book.hitsFrom index (tokens.map (Token.moved offset)) =
      (book.hitsFrom index tokens).map (Hit.moved offset) := by
  induction tokens generalizing index with
  | nil => rfl
  | cons token rest ih =>
    have head := book.hitsAtHead_moved offset index (token :: rest)
    rw [List.map_cons] at head
    rw [List.map_cons, hitsFrom, hitsFrom, head, ih, List.map_append]

theorem hits_moved (book : Phrasebook α) (offset : Nat → Nat) (tokens : List Token) :
    book.hits (tokens.map (Token.moved offset)) = (book.hits tokens).map (Hit.moved offset) :=
  book.hitsFrom_moved offset 0 tokens

theorem hitsAtHead_places (book : Phrasebook α) (index : Nat) (tokens : List Token) :
    (book.hitsAtHead index tokens).Pairwise fun a b => a.first = b.first ∧ a.last < b.last := by
  cases tokens with
  | nil => exact List.Pairwise.nil
  | cons head rest => exact book.tree.hitsAlong_places index head.start index (head :: rest)

theorem hitsAtHead_sorted (book : Phrasebook α) (index : Nat) {tokens : List Token}
    (ordered : tokens.Pairwise fun a b => a.stop < b.stop) :
    (book.hitsAtHead index tokens).Pairwise fun a b => a.start = b.start ∧ a.stop < b.stop := by
  refine (book.hitsAtHead_places index tokens).imp_of_mem ?_
  intro a b memberA memberB places
  obtain ⟨n, _, lastA, occursA⟩ := mem_hitsAtHead.mp memberA
  obtain ⟨m, _, lastB, occursB⟩ := mem_hitsAtHead.mp memberB
  refine ⟨Option.some.inj (occursA.start.symm.trans occursB.start), ?_⟩
  obtain ⟨tokenA, hereA, stopA⟩ := Option.map_eq_some_iff.mp occursA.stop
  obtain ⟨tokenB, hereB, stopB⟩ := Option.map_eq_some_iff.mp occursB.stop
  obtain ⟨insideA, rfl⟩ := List.getElem?_eq_some_iff.mp hereA
  obtain ⟨insideB, rfl⟩ := List.getElem?_eq_some_iff.mp hereB
  rw [← stopA, ← stopB]
  have less := places.2
  exact List.pairwise_iff_getElem.mp ordered _ _ insideA insideB (by omega)

theorem hitsFrom_sorted (book : Phrasebook α) (index : Nat) {tokens : List Token}
    (ordered : tokens.Pairwise fun a b => a.stop ≤ b.start)
    (nonempty : ∀ token ∈ tokens, token.start < token.stop) :
    (book.hitsFrom index tokens).Pairwise fun a b =>
      a.start < b.start ∨ (a.start = b.start ∧ a.stop < b.stop) := by
  induction tokens generalizing index with
  | nil => exact List.Pairwise.nil
  | cons token rest ih =>
    have stops : (token :: rest).Pairwise fun a b => a.stop < b.stop := by
      refine ordered.imp_of_mem ?_
      intro a b _ memberB before
      have length := nonempty b memberB
      omega
    obtain ⟨behind, orderedRest⟩ := List.pairwise_cons.mp ordered
    obtain ⟨length, nonemptyRest⟩ := List.forall_mem_cons.mp nonempty
    rw [hitsFrom]
    refine List.pairwise_append.mpr ⟨?_, ih (index + 1) orderedRest nonemptyRest, ?_⟩
    · exact (book.hitsAtHead_sorted index stops).imp Or.inr
    · intro a memberA b memberB
      obtain ⟨first, among, _, _, start, _⟩ := hitsFrom_aligned orderedRest nonemptyRest memberB
      have before := behind first among
      have here := (hitsAtHead_aligned behind nonempty memberA).1
      left
      omega

theorem hits_sorted (book : Phrasebook α) (text : List Char) :
    (book.hits (Token.scan text)).Pairwise fun a b =>
      a.start < b.start ∨ (a.start = b.start ∧ a.stop < b.stop) :=
  book.hitsFrom_sorted 0 (Token.scan_ordered text) fun _ member => (Token.scan_bounds member).1

end Phrasebook

namespace Hit

variable {α : Type}

theorem precedes_iff {a b : Hit α} : a.precedes b = true ↔
    b.stop - b.start < a.stop - a.start ∨ (a.stop - a.start = b.stop - b.start ∧ a.start ≤ b.start) := by
  simp [precedes]

theorem precedes_trans (a b c : Hit α) (first : a.precedes b = true) (second : b.precedes c = true) :
    a.precedes c = true := by
  rw [precedes_iff] at *
  omega

theorem precedes_total (a b : Hit α) : (a.precedes b || b.precedes a) = true := by
  rw [Bool.or_eq_true, precedes_iff, precedes_iff]
  omega

theorem longestFirst_sorted {R : Hit α → Hit α → Prop} {hits : List (Hit α)} (related : hits.Pairwise R) :
    (longestFirst hits).Pairwise fun a b => a.precedes b = true ∧ (b.precedes a = true → R a b) :=
  Sorting.pairwise_stable precedes_trans precedes_total related

/-- An occurrence that is longer than all others comes first, and of equally long ones that start together the one
that was found first. -/
theorem longestFirst_head {R : Hit α → Hit α → Prop} {hits : List (Hit α)} (related : hits.Pairwise R)
    {hit : Hit α} (member : hit ∈ hits) (longest : ∀ other ∈ hits, hit.precedes other = true)
    (first : ∀ other ∈ hits, other.precedes hit = true → ¬ R other hit) :
    ∃ rest, longestFirst hits = hit :: rest := by
  have sorted := longestFirst_sorted related
  have among {other : Hit α} : other ∈ longestFirst hits ↔ other ∈ hits := List.mem_mergeSort
  cases order : longestFirst hits with
  | nil =>
    have inside := among.mpr member
    rw [order] at inside
    cases inside
  | cons head rest =>
    rw [order] at sorted among
    rcases List.mem_cons.mp (among.mpr member) with rfl | behind
    · exact ⟨rest, rfl⟩
    · obtain ⟨before, tie⟩ := (List.pairwise_cons.mp sorted).1 hit behind
      have known := among.mp List.mem_cons_self
      exact absurd (tie (longest head known)) (first head known before)

end Hit

end TableTalk
