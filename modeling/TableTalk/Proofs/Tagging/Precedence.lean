import TableTalk.Proofs.Phrase
import TableTalk.Proofs.Tagging.Respelling

namespace TableTalk

namespace Claims

/-- Two results of passes that are the same but for the order of what they hold, or that are both broken. -/
inductive Alike : Claims × Except TagFault (List Entity) → Claims × Except TagFault (List Entity) → Prop where
  | found {claims claims' : Claims} {found found' : List Entity} (taken : claims'.Perm claims)
      (same : found'.Perm found) : Alike (claims, .ok found) (claims', .ok found')
  | broken (claims claims' : Claims) (fault fault' : TagFault) : Alike (claims, .error fault) (claims', .error fault')

namespace Alike

theorem refl (result : Claims × Except TagFault (List Entity)) : Alike result result := by
  obtain ⟨claims, outcome⟩ := result
  cases outcome with
  | error fault => exact .broken claims claims fault fault
  | ok found => exact .found (List.Perm.refl _) (List.Perm.refl _)

theorem trans {first second third : Claims × Except TagFault (List Entity)} (front : Alike first second)
    (back : Alike second third) : Alike first third := by
  cases front with
  | found taken same =>
    cases back with
    | found taken' same' => exact .found (taken'.trans taken) (same'.trans same)
  | broken =>
    cases back with
    | broken => exact .broken _ _ _ _

theorem cons {first second : Claims × Except TagFault (List Entity)} (later : Alike first second) (e : Entity) :
    Alike (first.1, first.2.map (e :: ·)) (second.1, second.2.map (e :: ·)) := by
  cases later with
  | found taken same => exact .found taken (same.cons e)
  | broken => exact .broken _ _ _ _

theorem cons_swap {first second : Claims × Except TagFault (List Entity)} (later : Alike first second)
    (e e' : Entity) :
    Alike (first.1, (first.2.map (e' :: ·)).map (e :: ·)) (second.1, (second.2.map (e :: ·)).map (e' :: ·)) := by
  cases later with
  | found taken same => exact .found taken (((same.cons e).cons e').trans (List.Perm.swap e e' _))
  | broken => exact .broken _ _ _ _

theorem of_perm {first second : Claims × Except TagFault (List Entity)} (taken : second.1.Perm first.1)
    (same : second.2 = first.2) : Alike first second := by
  obtain ⟨claims, outcome⟩ := first
  obtain ⟨claims', outcome'⟩ := second
  cases same
  cases outcome with
  | error fault => exact .broken _ _ _ _
  | ok found => exact .found taken (List.Perm.refl _)

end Alike

variable {α : Type} (place : α → Span) (build : α → Except TagFault (Option Entity))

def attempt (claims : Claims) (item : α) : Except TagFault (Option Entity) :=
  if isFree claims (place item) then build item else .ok none

theorem sweep_cons (claims : Claims) (item : α) (rest : List α) :
    sweep place build claims (item :: rest) = match attempt place build claims item with
      | .error fault => (claims, .error fault)
      | .ok none => sweep place build claims rest
      | .ok (some e) =>
        let later := sweep place build (place item :: claims) rest
        (later.1, later.2.map (e :: ·)) := by
  rw [sweep, attempt]
  cases isFree claims (place item) with
  | false => rfl
  | true =>
    cases build item with
    | error fault => rfl
    | ok made => cases made <;> rfl

theorem sweep_alike_cons {rest rest' : List α}
    (same : ∀ claims, Alike (sweep place build claims rest) (sweep place build claims rest')) (claims : Claims)
    (item : α) : Alike (sweep place build claims (item :: rest)) (sweep place build claims (item :: rest')) := by
  rw [sweep_cons, sweep_cons]
  cases attempt place build claims item with
  | error fault => exact .broken _ _ _ _
  | ok made =>
    cases made with
    | none => exact same claims
    | some e => exact (same (place item :: claims)).cons e

theorem attempt_apart {claims : Claims} {a b : α} (apart : (place a).overlaps (place b) = false) :
    attempt place build (place b :: claims) a = attempt place build claims a := by
  have free : isFree (place b :: claims) (place a) = isFree claims (place a) := by
    simp [isFree, apart]
  rw [attempt, attempt, free]

theorem sweep_swap {a b : α} (apart : (place a).overlaps (place b) = false) (claims : Claims) (rest : List α) :
    Alike (sweep place build claims (a :: b :: rest)) (sweep place build claims (b :: a :: rest)) := by
  have other : (place b).overlaps (place a) = false := by rwa [Span.overlaps_comm]
  simp only [sweep_cons, attempt_apart place build apart, attempt_apart place build other]
  cases attempt place build claims a with
  | error fault =>
    cases attempt place build claims b with
    | error fault' => exact .broken _ _ _ _
    | ok made => cases made <;> exact .broken _ _ _ _
  | ok made =>
    cases attempt place build claims b with
    | error fault => cases made <;> exact .broken _ _ _ _
    | ok made' =>
      cases made with
      | none => cases made' <;> exact .refl _
      | some e =>
        cases made' with
        | none => exact .refl _
        | some e' =>
          -- both are accepted, and their places are taken in either order
          obtain ⟨taken, found⟩ := sweep_perm place build rest (List.Perm.swap (place b) (place a) claims)
          exact (Alike.of_perm taken found).cons_swap e e'

theorem sweep_front {item : α} {front back : List α}
    (apart : ∀ other ∈ front, (place other).overlaps (place item) = false) (claims : Claims) :
    Alike (sweep place build claims (item :: (front ++ back)))
      (sweep place build claims (front ++ item :: back)) := by
  induction front generalizing claims with
  | nil => exact .refl _
  | cons first others ih =>
    obtain ⟨here, later⟩ := List.forall_mem_cons.mp apart
    rw [Span.overlaps_comm] at here
    exact (sweep_swap place build here claims _).trans (sweep_alike_cons place build (ih later) claims first)

/-- Candidates in two orders that agree about those that overlap. -/
theorem sweep_reordered {before : α → α → Prop} (asymm : ∀ a b, before a b → ¬ before b a)
    {items items' : List α} (same : items'.Perm items)
    (ordered : items.Pairwise fun a b => (place a).overlaps (place b) = true → before a b)
    (ordered' : items'.Pairwise fun a b => (place a).overlaps (place b) = true → before a b) (claims : Claims) :
    Alike (sweep place build claims items) (sweep place build claims items') := by
  induction items generalizing items' claims with
  | nil =>
    rw [List.perm_nil.mp same]
    exact .refl _
  | cons item rest ih =>
    obtain ⟨behind, orderedRest⟩ := List.pairwise_cons.mp ordered
    obtain ⟨front, back, rfl, absent⟩ :=
      List.eq_append_cons_of_mem (same.mem_iff.mpr List.mem_cons_self)
    have kept : (front ++ back).Perm rest := (List.perm_middle.symm.trans same).cons_inv
    -- what is tried before the item in the second order comes after it in the first
    have apart : ∀ other ∈ front, (place other).overlaps (place item) = false := by
      intro other member
      rw [Bool.eq_false_iff]
      intro overlap
      have first := (List.pairwise_append.mp ordered').2.2 other member item List.mem_cons_self overlap
      rw [Span.overlaps_comm] at overlap
      have second := behind other (kept.mem_iff.mp (List.mem_append_left _ member)) overlap
      exact asymm _ _ first second
    have orderedKept := ordered'.sublist ((List.sublist_cons_self item back).append_left front)
    have tail := sweep_alike_cons place build (fun claims => ih kept orderedRest orderedKept claims) claims item
    exact tail.trans (sweep_front place build apart claims)

theorem sweep_mapped {β : Type} (f : β → α) (claims : Claims) (items : List β) :
    sweep place build claims (items.map f) =
      sweep (fun b => place (f b)) (fun b => build (f b)) claims items := by
  induction items generalizing claims with
  | nil => rfl
  | cons item rest ih =>
    rw [List.map_cons, sweep, sweep]
    split
    · split <;> simp only [ih]
    · exact ih claims

theorem sweep_mergeSort {le le' : α → α → Bool} (trans : ∀ a b c, le a b = true → le b c = true → le a c = true)
    (total : ∀ a b, (le a b || le b a) = true)
    (trans' : ∀ a b c, le' a b = true → le' b c = true → le' a c = true)
    (total' : ∀ a b, (le' a b || le' b a) = true) {items : List α}
    (agree : ∀ a ∈ items, ∀ b ∈ items, (place a).overlaps (place b) = true → le' a b = le a b) (claims : Claims) :
    Alike (sweep place build claims (items.mergeSort le)) (sweep place build claims (items.mergeSort le')) := by
  let before (a b : α × Nat) : Prop := List.zipIdxLE le a b = true ∧ a.2 ≠ b.2
  have asymm (a b : α × Nat) (first : before a b) : ¬ before b a := by
    intro second
    obtain ⟨one, tie⟩ := Sorting.zipIdxLE_iff.mp first.1
    obtain ⟨other, tie'⟩ := Sorting.zipIdxLE_iff.mp second.1
    exact first.2 (Nat.le_antisymm (tie other) (tie' one))
  have kept : ∀ pair ∈ items.zipIdx.mergeSort (List.zipIdxLE le'), pair.1 ∈ items := by
    intro pair member
    exact List.fst_mem_of_mem_zipIdx ((List.mergeSort_perm _ _).mem_iff.mp member)
  have same := (List.mergeSort_perm items.zipIdx (List.zipIdxLE le')).trans
    (List.mergeSort_perm items.zipIdx (List.zipIdxLE le)).symm
  have sorted : items.mergeSort le = (items.zipIdx.mergeSort (List.zipIdxLE le)).map Prod.fst :=
    List.mergeSort_zipIdx.symm
  have sorted' : items.mergeSort le' = (items.zipIdx.mergeSort (List.zipIdxLE le')).map Prod.fst :=
    List.mergeSort_zipIdx.symm
  rw [sorted, sorted', sweep_mapped, sweep_mapped]
  refine sweep_reordered _ _ asymm same ?_ ?_ claims
  · refine (Sorting.placed_sorted trans total items).imp ?_
    intro a b ordered _
    exact ordered
  · refine (Sorting.placed_sorted trans' total' items).imp_of_mem ?_
    intro a b memberA memberB ordered overlap
    have reversed := overlap
    rw [Span.overlaps_comm] at reversed
    have first := agree _ (kept a memberA) _ (kept b memberB) overlap
    have second := agree _ (kept b memberB) _ (kept a memberA) reversed
    refine ⟨?_, ordered.2⟩
    rw [Sorting.zipIdxLE_iff, ← first, ← second, ← Sorting.zipIdxLE_iff]
    exact ordered.1

end Claims

namespace Hit

/-- Two occurrences that share a part, each with a part of its own, the first one starting first. -/
def Crosses {α : Type} (a b : Hit α) : Prop :=
  a.start < b.start ∧ b.start < a.stop ∧ a.stop < b.stop

instance {α : Type} (a b : Hit α) : Decidable (a.Crosses b) :=
  inferInstanceAs (Decidable (_ ∧ _ ∧ _))

end Hit

namespace Respelling

variable {question other : List Char} (r : Respelling question other)

theorem phraseHits_moved (v : Vocabulary) (names : Phrasebook PhraseMeaning) :
    Tagger.phraseHits v names (Token.scan other) =
      (Tagger.phraseHits v names (Token.scan question)).map (Hit.moved r.offset) := by
  have tokens : Token.scan other = (Token.scan question).map (Token.moved r.offset) := r.tokens
  unfold Tagger.phraseHits
  rw [tokens, Phrasebook.hits_moved, Phrasebook.hits_moved, List.map_append, List.map_map, List.map_map]
  rfl

theorem phraseHits_fit {v : Vocabulary} {names : Phrasebook PhraseMeaning} {hit : Hit PhraseMeaning}
    (member : hit ∈ Tagger.phraseHits v names (Token.scan question)) : r.fits hit.start ∧ r.fits hit.stop := by
  obtain ⟨first, one, last, another, start, stop, _⟩ := Tagger.phraseHits_aligned member
  rw [start, stop]
  exact ⟨(r.tokens_fit first one).1, (r.tokens_fit last another).2⟩

/-- Which of two occurrences that overlap is tried first is the same at the other offsets, unless they cross. -/
theorem precedes_moved {α : Type} {a b : Hit α} (fitA : r.fits a.start ∧ r.fits a.stop)
    (fitB : r.fits b.start ∧ r.fits b.stop) (overlap : a.start < b.stop ∧ b.start < a.stop)
    (nonempty : a.start < a.stop ∧ b.start < b.stop)
    (forward : a.Crosses b → (a.stop - a.start < b.stop - b.start ↔
      r.offset a.stop - r.offset a.start < r.offset b.stop - r.offset b.start))
    (backward : b.Crosses a → (b.stop - b.start < a.stop - a.start ↔
      r.offset b.stop - r.offset b.start < r.offset a.stop - r.offset a.start)) :
    (a.moved r.offset).precedes (b.moved r.offset) = a.precedes b := by
  have starts := r.offset_lt_iff fitA.1 fitB.1
  have starts' := r.offset_lt_iff fitB.1 fitA.1
  have stops := r.offset_lt_iff fitA.2 fitB.2
  have stops' := r.offset_lt_iff fitB.2 fitA.2
  have lengthA := r.increasing _ _ fitA.1 fitA.2 nonempty.1
  have lengthB := r.increasing _ _ fitB.1 fitB.2 nonempty.2
  unfold Hit.Crosses at forward backward
  rw [Bool.eq_iff_iff, Hit.precedes_iff, Hit.precedes_iff]
  simp only [Hit.moved]
  omega

theorem agrees_alike {first second : Claims × Except TagFault (List Entity)} {result' : Claims × List Entity}
    (alike : Claims.Alike first second) {found : List Entity} (unbroken : first.2 = .ok found)
    (agrees : r.Agrees (Pass.returned second) result') : r.Agrees (Pass.returned first) result' := by
  cases alike with
  | found taken same =>
    obtain ⟨fits, claims, entities⟩ := agrees
    exact ⟨fun span member => fits span (taken.mem_iff.mpr member), claims.trans (taken.map r.span),
      entities.trans (same.map r.entity)⟩
  | broken => cases unbroken

theorem agrees_phrasePass (v : Vocabulary) (names : Phrasebook PhraseMeaning) (asker : Asker)
    {claims claims' : Claims} (fits : ∀ span ∈ claims, r.Fits span) (same : claims'.Perm (claims.map r.span))
    {found : List Entity}
    (unbroken : (Tagger.phrasePass v names asker question (Token.scan question) claims).2 = .ok found)
    (crossing : ∀ a ∈ Tagger.phraseHits v names (Token.scan question),
      ∀ b ∈ Tagger.phraseHits v names (Token.scan question), a.Crosses b →
        (a.stop - a.start < b.stop - b.start ↔
          r.offset a.stop - r.offset a.start < r.offset b.stop - r.offset b.start)) :
    r.Agrees (Pass.returned (Tagger.phrasePass v names asker question (Token.scan question) claims))
      (Pass.returned (Tagger.phrasePass v names asker other (Token.scan other) claims')) := by
  let hits := Tagger.phraseHits v names (Token.scan question)
  let le' (a b : Hit PhraseMeaning) : Bool := (a.moved r.offset).precedes (b.moved r.offset)
  -- the same question with its hits in the order in which the other spelling tries them
  have sorted : Hit.longestFirst (Tagger.phraseHits v names (Token.scan other)) =
      (hits.mergeSort le').map (Hit.moved r.offset) := by
    rw [r.phraseHits_moved, Hit.longestFirst, List.map_mergeSort]
    intro a _ b _
    rfl
  have agree : ∀ a ∈ hits, ∀ b ∈ hits,
      (⟨a.start, a.stop⟩ : Span).overlaps ⟨b.start, b.stop⟩ = true → le' a b = a.precedes b := by
    intro a memberA b memberB overlap
    obtain ⟨_, _, _, _, _, _, lengthA⟩ := Tagger.phraseHits_aligned memberA
    obtain ⟨_, _, _, _, _, _, lengthB⟩ := Tagger.phraseHits_aligned memberB
    simp only [Span.overlaps, Bool.and_eq_true, decide_eq_true_eq, Int.ofNat_lt] at overlap
    exact r.precedes_moved (r.phraseHits_fit memberA) (r.phraseHits_fit memberB) overlap ⟨lengthA, lengthB⟩
      (crossing a memberA b memberB) (crossing b memberB a memberA)
  have moves : r.Moves (Tagger.phraseCourse asker.now) (Hit.moved r.offset) (hits.mergeSort le') :=
    ⟨fun hit _ => Tagger.placeFree_phrase asker.now hit.meaning,
      fun hit member => r.phraseHits_fit (List.mem_mergeSort.mp member), fun _ _ => rfl, fun _ _ => rfl,
      fun _ _ => rfl⟩
  have carried := r.carries_sweep moves claims claims' fits same
  rw [← sorted] at carried
  have trans' : ∀ a b c, le' a b = true → le' b c = true → le' a c = true :=
    fun a b c => Hit.precedes_trans (a.moved r.offset) (b.moved r.offset) (c.moved r.offset)
  have total' : ∀ a b, (le' a b || le' b a) = true :=
    fun a b => Hit.precedes_total (a.moved r.offset) (b.moved r.offset)
  have reordered := Claims.sweep_mergeSort (fun hit : Hit PhraseMeaning => (⟨hit.start, hit.stop⟩ : Span))
    (fun hit => Tagger.phraseEntity (Tagger.part question hit.start hit.stop) asker.now hit.meaning)
    Hit.precedes_trans Hit.precedes_total trans' total' agree claims
  exact r.agrees_alike reordered unbroken carried

end Respelling

end TableTalk
