import TableTalk.Proofs.Phrase

namespace TableTalk.Phrasebook

variable {α : Type}

def insertEach (book : Phrasebook α) : List (List String × Option α) → Phrasebook α × List Bool
  | [] => (book, [])
  | (words, meaning) :: rest =>
    let inserted := book.insert words meaning
    let later := insertEach inserted.1 rest
    (later.1, inserted.2 :: later.2)

def lowered (phrase : List String × Option α) : List String :=
  phrase.1.map Text.lower

/-- Whether the first phrase with these words that has a meaning has this one. -/
def GivenFirst (phrases : List (List String × Option α)) (words : List String) (meaning : α) : Prop :=
  ∃ front phrase back, phrases = front ++ phrase :: back ∧ lowered phrase = words ∧ phrase.2 = some meaning ∧
    ∀ earlier ∈ front, lowered earlier = words → earlier.2 = none

theorem get?_insertEach (book : Phrasebook α) (phrases : List (List String × Option α)) {words : List String}
    (nonempty : words ≠ []) :
    (book.insertEach phrases).1.get? words =
      (book.get? words).or (phrases.findSome? fun phrase => if lowered phrase = words then phrase.2 else none) := by
  induction phrases generalizing book with
  | nil => rw [insertEach, List.findSome?_nil, Option.or_none]
  | cons phrase rest ih =>
    obtain ⟨spelled, meaning⟩ := phrase
    rw [insertEach, ih, get?_insert, Option.or_assoc, List.findSome?_cons, lowered]
    simp only [nonempty, ne_eq, not_false_eq_true, and_true]
    congr 1
    cases (if spelled.map Text.lower = words then meaning else none) <;> rfl

theorem get?_insertEach_iff {phrases : List (List String × Option α)} {words : List String} (nonempty : words ≠ [])
    {meaning : α} : (insertEach {} phrases).1.get? words = some meaning ↔ GivenFirst phrases words meaning := by
  rw [get?_insertEach {} phrases nonempty, get?_empty, Option.none_or, List.findSome?_eq_some_iff]
  unfold GivenFirst
  refine exists_congr fun front => exists_congr fun phrase => exists_congr fun back => ?_
  refine and_congr_right fun _ => ?_
  by_cases same : lowered phrase = words <;> simp [same]

theorem hitsFrom_places (book : Phrasebook α) (index : Nat) (tokens : List Token) :
    (book.hitsFrom index tokens).Pairwise fun a b => a.first < b.first ∨ a.first = b.first ∧ a.last < b.last := by
  induction tokens generalizing index with
  | nil => exact List.Pairwise.nil
  | cons token rest ih =>
    rw [hitsFrom]
    refine List.pairwise_append.mpr ⟨(book.hitsAtHead_places index (token :: rest)).imp Or.inr, ih (index + 1), ?_⟩
    intro a here b later
    obtain ⟨_, first, _, _⟩ := mem_hitsAtHead.mp here
    obtain ⟨_, _, first', _, _⟩ := mem_hitsFrom.mp later
    left
    omega

def distinctPhrases (inserted : List (List String)) : List (List String) :=
  Assoc.distinct (inserted.filter fun words => !words.isEmpty)

theorem mem_distinctPhrases {inserted : List (List String)} {words : List String} :
    words ∈ distinctPhrases inserted ↔ words ≠ [] ∧ words ∈ inserted := by
  rw [distinctPhrases, Assoc.mem_distinct, List.mem_filter, Bool.not_eq_true', List.isEmpty_eq_false_iff]
  exact and_comm

theorem distinctPhrases_append (inserted : List (List String)) (words : List String) :
    distinctPhrases (inserted ++ [words]) =
      if words = [] ∨ words ∈ inserted then distinctPhrases inserted else distinctPhrases inserted ++ [words] := by
  have known : words ∈ inserted.filter (fun words => !words.isEmpty) ↔ words ≠ [] ∧ words ∈ inserted :=
    Assoc.mem_distinct.symm.trans mem_distinctPhrases
  cases words with
  | nil =>
    rw [if_pos (Or.inl rfl), distinctPhrases, List.filter_append]
    exact congrArg Assoc.distinct (List.append_nil _)
  | cons word rest =>
    have kept : (inserted ++ [word :: rest]).filter (fun words => !words.isEmpty) =
        inserted.filter (fun words => !words.isEmpty) ++ [word :: rest] := by
      rw [List.filter_append]
      rfl
    rw [distinctPhrases, kept, Assoc.distinct_append_singleton]
    simp only [known, ne_eq, reduceCtorEq, not_false_eq_true, true_and, false_or]
    rfl

structure Collects (book : Phrasebook α) (inserted : List (List String)) : Prop where
  known : ∀ words, (book.get? words).isSome = true ↔ words ≠ [] ∧ words ∈ inserted
  size : book.size = (distinctPhrases inserted).length

theorem collects_nil : Collects ({} : Phrasebook α) [] where
  known words := by
    rw [get?_empty]
    exact ⟨nofun, fun here => nomatch here.2⟩
  size := rfl

namespace Collects

variable {book : Phrasebook α} {inserted : List (List String)}

theorem refuses_iff (collects : Collects book inserted) (words : List String) :
    (words.isEmpty || (book.get? words).isSome) = true ↔ words = [] ∨ words ∈ inserted := by
  rw [Bool.or_eq_true, List.isEmpty_iff, collects.known]
  by_cases empty : words = [] <;> simp [empty]

theorem insert_known (collects : Collects book inserted) {words : List String} (meaning : Option α)
    (known : words.map Text.lower = [] ∨ words.map Text.lower ∈ inserted) :
    book.insert words meaning = (book, false) := by
  unfold insert
  dsimp only
  rw [if_pos ((collects.refuses_iff _).mpr known)]

theorem insert_new (collects : Collects book inserted) {words : List String} (meaning : Option α)
    (new : ¬ (words.map Text.lower = [] ∨ words.map Text.lower ∈ inserted)) :
    book.insert words meaning =
      ({ tree := book.tree.give meaning (words.map Text.lower), size := book.size + 1 }, true) := by
  unfold insert
  dsimp only
  rw [if_neg fun refused => new ((collects.refuses_iff _).mp refused)]

theorem accepted_iff (collects : Collects book inserted) (words : List String) (meaning : Option α) :
    (book.insert words meaning).2 = true ↔ words.map Text.lower ≠ [] ∧ words.map Text.lower ∉ inserted := by
  rw [← not_or]
  by_cases known : words.map Text.lower = [] ∨ words.map Text.lower ∈ inserted
  · rw [collects.insert_known meaning known]
    exact ⟨nofun, fun new => absurd known new⟩
  · rw [collects.insert_new meaning known]
    exact ⟨fun _ => known, fun _ => rfl⟩

theorem insert (collects : Collects book inserted) (words : List String) (meaning : α) :
    Collects (book.insert words (some meaning)).1 (inserted ++ [words.map Text.lower]) where
  known other := by
    rw [get?_insert, Option.isSome_or, Bool.or_eq_true, collects.known, List.mem_append, List.mem_singleton]
    by_cases same : words.map Text.lower = other
    · by_cases empty : other = [] <;> simp [same, empty]
    · have apart : ¬ other = words.map Text.lower := fun here => same here.symm
      simp [same, apart]
  size := by
    rw [distinctPhrases_append]
    by_cases known : words.map Text.lower = [] ∨ words.map Text.lower ∈ inserted
    · rw [collects.insert_known _ known, if_pos known]
      exact collects.size
    · rw [collects.insert_new _ known, if_neg known, List.length_append, List.length_singleton, ← collects.size]

theorem insertEach (collects : Collects book inserted) {phrases : List (List String × Option α)}
    (meant : ∀ phrase ∈ phrases, phrase.2.isSome = true) :
    Collects (book.insertEach phrases).1 (inserted ++ phrases.map lowered) ∧
      ∀ k, (book.insertEach phrases).2[k]? =
        phrases[k]?.map fun phrase =>
          decide (lowered phrase ≠ [] ∧ lowered phrase ∉ inserted ++ (phrases.take k).map lowered) := by
  induction phrases generalizing book inserted with
  | nil =>
    rw [List.map_nil, List.append_nil]
    exact ⟨collects, fun k => by simp [Phrasebook.insertEach]⟩
  | cons phrase rest ih =>
    obtain ⟨words, given⟩ := phrase
    obtain ⟨here, there⟩ := List.forall_mem_cons.mp meant
    obtain ⟨meaning, rfl⟩ := Option.isSome_iff_exists.mp here
    obtain ⟨collected, accepted⟩ := ih (collects.insert words meaning) there
    rw [List.append_assoc, List.singleton_append] at collected
    refine ⟨collected, fun k => ?_⟩
    cases k with
    | zero =>
      have first := collects.accepted_iff words (some meaning)
      rw [Phrasebook.insertEach, List.getElem?_cons_zero, List.getElem?_cons_zero, Option.map_some, List.take_zero,
        List.map_nil, List.append_nil, Option.some.injEq, Bool.eq_iff_iff, decide_eq_true_eq]
      exact first
    | succ k =>
      rw [Phrasebook.insertEach, List.getElem?_cons_succ, List.getElem?_cons_succ, accepted k]
      simp only [List.take_succ_cons, List.map_cons, List.append_assoc, List.singleton_append]
      rfl

end Collects

/-- Whatever is inserted, the occurrences are the tokens that spell an inserted phrase, each once and with the first
meaning of the phrase, by their first and then by their last tokens. If all insertions give meanings, the accepted ones
are those of phrases with words that none before has, another insertion of a phrase changes nothing, and the size is
the number of different phrases with words. -/
theorem hits_insertEach (phrases : List (List String × Option α)) (tokens : List Token) :
    let book := (insertEach {} phrases).1
    (∀ hit, hit ∈ book.hits tokens ↔ hit.first ≤ hit.last ∧
      tokens[hit.first]?.map Token.start = some hit.start ∧ tokens[hit.last]?.map Token.stop = some hit.stop ∧
        GivenFirst phrases (((tokens.drop hit.first).take (hit.last - hit.first + 1)).map Token.text) hit.meaning) ∧
      ((book.hits tokens).Pairwise fun a b => a.first < b.first ∨ a.first = b.first ∧ a.last < b.last) ∧
      ((∀ phrase ∈ phrases, phrase.2.isSome = true) →
        (∀ k, (insertEach {} phrases).2[k]? = phrases[k]?.map fun phrase =>
          decide (phrase.1 ≠ [] ∧ ∀ earlier ∈ phrases.take k, lowered earlier ≠ lowered phrase)) ∧
          (∀ words meaning, words = [] ∨ (∃ phrase ∈ phrases, lowered phrase = words.map Text.lower) →
            book.insert words meaning = (book, false)) ∧
            book.size = (distinctPhrases (phrases.map lowered)).length) := by
  intro book
  refine ⟨fun hit => ?_, book.hitsFrom_places 0 tokens, fun meant => ?_⟩
  · rw [mem_hits]
    refine and_congr_right fun ordered => ?_
    have last : hit.first + (hit.last - hit.first) = hit.last := by omega
    constructor
    · intro occurs
      exact ⟨occurs.start, last ▸ occurs.stop, (get?_insertEach_iff occurs.spelled).mp occurs.meaning⟩
    · rintro ⟨start, stop, given⟩
      have spelled := spelled_ne_nil start (hit.last - hit.first)
      exact ⟨start, by rwa [last], (get?_insertEach_iff spelled).mpr given⟩
  · obtain ⟨collected, accepted⟩ := collects_nil.insertEach meant
    rw [List.nil_append] at collected
    refine ⟨fun k => ?_, fun words meaning known => ?_, collected.size⟩
    · rw [accepted k]
      congr 1
      funext phrase
      rw [List.nil_append, decide_eq_decide, List.mem_map, lowered]
      simp
    · refine collected.insert_known meaning (known.imp (fun none => ?_) fun there => ?_)
      · rw [none, List.map_nil]
      · exact List.mem_map.mpr there

def laptopPhrases : List (List String × Option Nat) :=
  [(["Gaming", "Laptop"], some 1), (["laptop"], some 2), ([], some 3), (["gaming", "LAPTOP"], some 4)]

theorem laptop_phrases_inserted :
    let book := (insertEach {} laptopPhrases).1
    ((∀ phrase ∈ laptopPhrases, phrase.2.isSome = true) ∧
      ∃ phrase ∈ laptopPhrases, lowered phrase = ["LAPTOP"].map Text.lower) ∧
      book.insert ["LAPTOP"] none = (book, false) ∧
        (insertEach {} laptopPhrases).2 = [true, true, false, false] ∧ book.size = 2 ∧
          (book.hits (Token.scan "gaming laptop".toList)).map (fun hit => (hit.first, hit.last, hit.meaning)) =
            [(0, 1, 1), (1, 1, 2)] := by
  intro book
  have meant : ∀ phrase ∈ laptopPhrases, phrase.2.isSome = true := by decide
  have known : ∃ phrase ∈ laptopPhrases, lowered phrase = ["LAPTOP"].map Text.lower := by decide +kernel
  obtain ⟨_, _, inserted⟩ := hits_insertEach laptopPhrases []
  exact ⟨⟨meant, known⟩, (inserted meant).2.1 ["LAPTOP"] none (Or.inr known), by decide +kernel⟩

end TableTalk.Phrasebook
