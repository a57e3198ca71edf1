import TableTalk.Proofs.Phrase
import TableTalk.Proofs.Tagging.Coverage

namespace TableTalk

namespace Claims

variable {α : Type} {place : α → Span} {build : α → Except TagFault (Option Entity)}

/-- A candidate that can become an entity does, or lies on something taken before the pass, or on a candidate that was
tried before it and did. -/
theorem sweep_displaced {R : α → α → Prop} {items : List α} (related : items.Pairwise R)
    (wanted : ∀ item ∈ items, build item ≠ .ok none) {claims : Claims} {found : List Entity}
    (returned : (sweep place build claims items).2 = .ok found) :
    ∀ item ∈ items, (∃ e ∈ found, build item = .ok (some e)) ∨ isFree claims (place item) = false ∨
      ∃ other ∈ items, R other item ∧ (place item).overlaps (place other) = true ∧
        ∃ e ∈ found, build other = .ok (some e) := by
  induction items generalizing claims found with
  | nil => nofun
  | cons first rest ih =>
    obtain ⟨earlier, relatedRest⟩ := List.pairwise_cons.mp related
    obtain ⟨wantedFirst, wantedRest⟩ := List.forall_mem_cons.mp wanted
    rw [sweep] at returned
    split at returned
    · rename_i freeFirst
      split at returned
      · cases returned
      · rename_i nothing
        exact absurd nothing wantedFirst
      · rename_i e made
        cases swept : (sweep place build (place first :: claims) rest).2 with
        | error fault =>
          simp only [swept] at returned
          cases returned
        | ok later =>
          simp only [swept] at returned
          cases returned
          have accepted : ∃ x ∈ e :: later, build first = .ok (some x) := ⟨e, List.mem_cons_self, made⟩
          refine List.forall_mem_cons.mpr ⟨Or.inl accepted, fun item member => ?_⟩
          rcases ih relatedRest wantedRest swept item member with
            ⟨x, inside, built⟩ | blocked | ⟨other, behind, tried, overlap, x, inside, built⟩
          · exact Or.inl ⟨x, List.mem_cons_of_mem _ inside, built⟩
          · -- what the rest finds taken was taken before, or it is the place of the first candidate
            right
            by_cases overlap : (place item).overlaps (place first) = true
            · exact Or.inr ⟨first, List.mem_cons_self, earlier item member, overlap, accepted⟩
            · left
              rw [Bool.not_eq_true] at overlap
              rw [Bool.eq_false_iff] at blocked ⊢
              exact fun free => blocked (isFree_cons.mpr ⟨overlap, free⟩)
          · exact Or.inr (Or.inr ⟨other, List.mem_cons_of_mem _ behind, tried, overlap, x,
              List.mem_cons_of_mem _ inside, built⟩)
    · rename_i taken
      have blocked : isFree claims (place first) = false := Bool.eq_false_iff.mpr taken
      refine List.forall_mem_cons.mpr ⟨Or.inr (Or.inl blocked), fun item member => ?_⟩
      rcases ih relatedRest wantedRest returned item member with
        made | known | ⟨other, behind, displaces⟩
      · exact Or.inl made
      · exact Or.inr (Or.inl known)
      · exact Or.inr (Or.inr ⟨other, List.mem_cons_of_mem _ behind, displaces⟩)

theorem isFree_spans_eq_false {entities : List Entity} {span : Span}
    (blocked : isFree (entities.map Entity.span).reverse span = false) :
    ∃ e ∈ entities, span.overlaps e.span = true := by
  rw [isFree, Bool.not_eq_false', List.any_reverse, List.any_map, List.any_eq_true] at blocked
  exact blocked

end Claims

def PhraseMeaning.isNames : PhraseMeaning → Bool
  | .names _ => true
  | .keyword _ => false

namespace Hit

def place {α : Type} (hit : Hit α) : Span :=
  ⟨hit.start, hit.stop⟩

/-- The order in which phrases are tried: by length, then by place, then names before keywords. -/
def Before (a b : Hit PhraseMeaning) : Prop :=
  let lengthA := a.stop - a.start
  let lengthB := b.stop - b.start
  lengthB < lengthA ∨ (lengthA = lengthB ∧
    (a.start < b.start ∨ (a.start = b.start ∧ a.meaning.isNames = true ∧ b.meaning.isNames = false)))

/-- An occurrence is a part of another: it lies inside of it, but not from its start to its end. -/
structure PartOf (a b : Hit PhraseMeaning) : Prop where
  start : b.start ≤ a.start
  stop : a.stop ≤ b.stop
  proper : a.place ≠ b.place

theorem Before.not_partOf {a b : Hit PhraseMeaning} (before : a.Before b) (nonempty : a.start < a.stop) :
    ¬ a.PartOf b := by
  rintro ⟨start, stop, proper⟩
  have same : a.start = b.start ∧ a.stop = b.stop := by
    unfold Before at before
    omega
  apply proper
  rw [place, place, same.1, same.2]

theorem Before.same_place {a b : Hit PhraseMeaning} (before : a.Before b) (place : a.place = b.place) :
    a.meaning.isNames = true ∧ b.meaning.isNames = false := by
  simp only [Hit.place, Span.mk.injEq, Int.ofNat_inj] at place
  rcases before with longer | ⟨_, earlier | ⟨_, meanings⟩⟩
  · omega
  · omega
  · exact meanings

end Hit

namespace Tagger

section Order

variable {l : Lexicon} {names : List (List String × DomainEntry)} {question : List Char}

theorem phraseHits_sorted (l : Lexicon) (names : List (List String × DomainEntry)) (question : List Char) :
    (phraseHits l.vocabulary (namePhrases names) (Token.scan question)).Pairwise fun a b =>
      a.start < b.start ∨ (a.start = b.start ∧ a.stop < b.stop) ∨
        (a.meaning.isNames = true ∧ b.meaning.isNames = false) := by
  refine List.pairwise_append.mpr ⟨?_, ?_, ?_⟩
  · exact ((namePhrases names).hits_sorted question).imp fun places => places.imp_right Or.inl
  · rw [List.pairwise_map]
    exact (l.vocabulary.phrases.hits_sorted question).imp fun places => places.imp_right Or.inl
  · intro a name b keyword
    obtain ⟨entries, meaning, _⟩ := nameHits_meaning name
    obtain ⟨original, _, rfl⟩ := List.mem_map.mp keyword
    rw [meaning]
    exact Or.inr (Or.inr ⟨rfl, rfl⟩)

theorem longestFirst_before (l : Lexicon) (names : List (List String × DomainEntry)) (question : List Char) :
    (Hit.longestFirst (phraseHits l.vocabulary (namePhrases names) (Token.scan question))).Pairwise Hit.Before := by
  refine (Hit.longestFirst_sorted (phraseHits_sorted l names question)).imp_of_mem ?_
  intro a b memberA memberB both
  obtain ⟨precedes, tie⟩ := both
  obtain ⟨_, _, _, _, _, _, nonempty⟩ := phraseHits_aligned (List.mem_mergeSort.mp memberA)
  rw [Hit.precedes_iff] at precedes tie
  unfold Hit.Before
  rcases precedes with longer | ⟨length, start⟩
  · exact Or.inl longer
  · refine Or.inr ⟨length, ?_⟩
    rcases Nat.lt_or_eq_of_le start with earlier | together
    · exact Or.inl earlier
    · -- equally long and from the same start, so the one that was found first is of a name
      refine Or.inr ⟨together, ?_⟩
      rcases tie (Or.inr ⟨length.symm, by omega⟩) with earlier | ⟨_, shorter⟩ | meanings
      · omega
      · omega
      · exact meanings

theorem before_total {a b : Hit PhraseMeaning}
    (memberA : a ∈ phraseHits l.vocabulary (namePhrases names) (Token.scan question))
    (memberB : b ∈ phraseHits l.vocabulary (namePhrases names) (Token.scan question)) :
    a.Before b ∨ a = b ∨ b.Before a := by
  exact Sorting.pairwise_total (longestFirst_before l names question) (List.mem_mergeSort.mpr memberA)
    (List.mem_mergeSort.mpr memberB)

theorem phraseEntity_place {question : List Char} {hit : Hit PhraseMeaning} {now : Moment} {e : Entity}
    (made : phraseEntity (part question hit.start hit.stop) now hit.meaning = .ok (some e)) : e.span = hit.place :=
  (phraseEntity_isAt made).2

theorem phraseEntity_wanted {hit : Hit PhraseMeaning}
    (member : hit ∈ phraseHits l.vocabulary (namePhrases names) (Token.scan question)) (p : Part) (now : Moment) :
    phraseEntity p now hit.meaning ≠ .ok none := by
  rcases phraseHits_meaning member with ⟨entries, meaning, nonempty, _⟩ | ⟨k, meaning, _⟩
  · rw [meaning]
    cases entries with
    | nil => exact absurd rfl nonempty
    | cons primary others => nofun
  · rw [meaning]
    exact keywordEntity_wanted p k 0.9 now

theorem phraseEntity_kind {hit : Hit PhraseMeaning}
    (member : hit ∈ phraseHits l.vocabulary (namePhrases names) (Token.scan question)) {p : Part} {now : Moment}
    {e : Entity} (made : phraseEntity p now hit.meaning = .ok (some e)) :
    e.kind ≠ .table ∧ (e.kind = .domainValue ↔ hit.meaning.isNames = true) := by
  rcases phraseHits_meaning member with ⟨entries, meaning, _⟩ | ⟨k, meaning, means⟩
  · rw [meaning] at made ⊢
    cases entries with
    | nil => cases made
    | cons primary others =>
      cases made
      exact ⟨nofun, fun _ => rfl, fun _ => rfl⟩
  · rw [meaning] at made ⊢
    have other : e.kind ≠ .table ∧ e.kind ≠ .domainValue := by
      rw [keywordEntity_kind (map_some_ok made)]
      rcases means.kind with kind | kind | kind <;> rw [kind] <;> decide
    exact ⟨other.1, fun name => absurd name other.2, nofun⟩

end Order

def hitsOver (t : Tagger) (directory : Option Directory) (question : String) : List (Hit PhraseMeaning) :=
  phraseHits t.vocabulary (t.indexed directory).1 (Token.scan question.toList)

def phrasesOver (t : Tagger) (directory : Option Directory) (asker : Asker) (question : String) :
    Claims × Except TagFault (List Entity) :=
  let tokens := Token.scan question.toList
  phrasePass t.vocabulary (t.indexed directory).1 asker question.toList tokens
    (tablePass t.vocabulary question.toList tokens []).1

/-- An occurrence becomes one of the entities of a question. -/
def Becomes (asker : Asker) (question : String) (found : List Entity) (hit : Hit PhraseMeaning) : Prop :=
  ∃ e ∈ found, phraseEntity (part question.toList hit.start hit.stop) asker.now hit.meaning = .ok (some e)

/-- Among occurrences of phrases, those that become entities are the longest of those that overlap. -/
structure LongestFirst (asker : Asker) (question : String) (hits : List (Hit PhraseMeaning)) (found : List Entity) :
    Prop where
  total : ∀ a ∈ hits, ∀ b ∈ hits, a.Before b ∨ a = b ∨ b.Before a
  apart : ∀ a ∈ hits, ∀ b ∈ hits, Becomes asker question found a → Becomes asker question found b → a ≠ b →
    a.place.overlaps b.place = false
  free : ∀ a ∈ hits, Becomes asker question found a → ∀ e ∈ found, e.kind = .table → a.place.overlaps e.span = false
  displaced : ∀ a ∈ hits, ¬ Becomes asker question found a →
    (∃ e ∈ found, e.kind = .table ∧ a.place.overlaps e.span = true) ∨
      ∃ b ∈ hits, Becomes asker question found b ∧ b.Before a ∧ a.place.overlaps b.place = true ∧ ¬ b.PartOf a

theorem tag_apart (t : Tagger) {directory : Option Directory} {asker : Asker} {question : String} {e e' : Entity}
    (member : e ∈ (t.tag directory asker question).1) (member' : e' ∈ (t.tag directory asker question).1)
    (different : e ≠ e') : e.span.overlaps e'.span = false := by
  obtain ⟨_, placed⟩ := t.tag_placed directory asker question
  have apart {a b : Entity} (before : a.span.stop ≤ b.span.start) : a.span.overlaps b.span = false := by
    simp only [Span.overlaps, Bool.and_eq_false_iff, decide_eq_false_iff_not]
    omega
  rcases Sorting.pairwise_total placed member member' with before | same | after
  · exact apart before.2
  · exact absurd same different
  · rw [Span.overlaps_comm]
    exact apart after.2

theorem Serves.mem_tag_of_front {t : Tagger} {l : Lexicon} (serves : t.Serves l) {directory : Option Directory}
    {asker : Asker} {question : String} {token : Token} (word : token ∈ Token.scan question.toList)
    {found : List Entity} (returned : (t.phrasesOver directory asker question).2 = .ok found) {e : Entity}
    (member : e ∈ tableEntities l question.toList ∨ e ∈ found) : e ∈ (t.tag directory asker question).1 := by
  let later := (passes t.vocabulary (t.indexed directory).1 directory asker question.toList).drop 2
  have shape : t.passesOver directory asker question =
      tablePass t.vocabulary question.toList (Token.scan question.toList) ::
        phrasePass t.vocabulary (t.indexed directory).1 asker question.toList (Token.scan question.toList) ::
          later := by
    rw [Tagger.passesOver, not_blank_of_token word]
    rfl
  have tables := tablePass_eq l question.toList
  rw [← serves.vocabulary] at tables
  rw [t.tag_eq, Entity.mem_inOrder, shape, Pass.run_cons, Pass.run_cons]
  unfold phrasesOver at returned
  dsimp only at returned ⊢
  rw [returned, tables]
  rcases member with table | phrase
  · exact List.mem_append_left _ table
  · exact List.mem_append_right _ (List.mem_append_left _ phrase)

section Becoming

variable {t : Tagger} {l : Lexicon} {names : List (List String × DomainEntry)} {directory : Option Directory}
  {asker : Asker} {question : String} {a b : Hit PhraseMeaning}

theorem becomes_apart (memberA : a ∈ phraseHits l.vocabulary (namePhrases names) (Token.scan question.toList))
    (memberB : b ∈ phraseHits l.vocabulary (namePhrases names) (Token.scan question.toList))
    (becomesA : Becomes asker question (t.tag directory asker question).1 a)
    (becomesB : Becomes asker question (t.tag directory asker question).1 b) (different : a ≠ b) :
    a.place.overlaps b.place = false := by
  obtain ⟨e, inside, made⟩ := becomesA
  obtain ⟨e', inside', made'⟩ := becomesB
  rw [← phraseEntity_place made, ← phraseEntity_place made']
  refine t.tag_apart inside inside' ?_
  rintro rfl
  -- of a name and a keyword at one place, one would become a known name and the other something else
  have place : a.place = b.place := (phraseEntity_place made).symm.trans (phraseEntity_place made')
  have kinds : a.meaning.isNames = true ↔ b.meaning.isNames = true :=
    (phraseEntity_kind memberA made).2.symm.trans (phraseEntity_kind memberB made').2
  rcases before_total memberA memberB with before | equal | after
  · obtain ⟨name, keyword⟩ := before.same_place place
    rw [kinds.mp name] at keyword
    cases keyword
  · exact different equal
  · obtain ⟨name, keyword⟩ := after.same_place place.symm
    rw [kinds.mpr name] at keyword
    cases keyword

theorem becomes_free (member : a ∈ phraseHits l.vocabulary (namePhrases names) (Token.scan question.toList))
    (becomes : Becomes asker question (t.tag directory asker question).1 a) :
    ∀ e ∈ (t.tag directory asker question).1, e.kind = .table → a.place.overlaps e.span = false := by
  obtain ⟨e, inside, made⟩ := becomes
  intro x table kind
  rw [← phraseEntity_place made]
  refine t.tag_apart inside table ?_
  rintro rfl
  exact (phraseEntity_kind member made).1 kind

theorem Serves.displaced (serves : t.Serves l) (same : (t.indexed directory).1 = namePhrases names)
    (unbroken : (t.phrasesOver directory asker question).2.isOk = true)
    (member : a ∈ phraseHits l.vocabulary (namePhrases names) (Token.scan question.toList))
    (absent : ¬ Becomes asker question (t.tag directory asker question).1 a) :
    (∃ e ∈ (t.tag directory asker question).1, e.kind = .table ∧ a.place.overlaps e.span = true) ∨
      ∃ b ∈ phraseHits l.vocabulary (namePhrases names) (Token.scan question.toList),
        Becomes asker question (t.tag directory asker question).1 b ∧ b.Before a ∧
          a.place.overlaps b.place = true := by
  obtain ⟨word, inside, _⟩ := phraseHits_aligned member
  cases returned : (t.phrasesOver directory asker question).2 with
  | error fault =>
    rw [returned] at unbroken
    cases unbroken
  | ok found =>
    have tagged {e : Entity} (front : e ∈ tableEntities l question.toList ∨ e ∈ found) :=
      serves.mem_tag_of_front inside returned front
    have swept := returned
    rw [phrasesOver, same, serves.vocabulary, tablePass_eq] at swept
    have wanted : ∀ hit ∈ Hit.longestFirst (phraseHits l.vocabulary (namePhrases names) (Token.scan question.toList)),
        phraseEntity (part question.toList hit.start hit.stop) asker.now hit.meaning ≠ .ok none :=
      fun hit among => phraseEntity_wanted (List.mem_mergeSort.mp among) _ _
    rcases Claims.sweep_displaced (longestFirst_before l names question.toList) wanted swept a
        (List.mem_mergeSort.mpr member) with
      ⟨e, among, made⟩ | blocked | ⟨b, memberB, before, overlap, e, among, made⟩
    · exact absurd ⟨e, tagged (Or.inr among), made⟩ absent
    · left
      obtain ⟨e, table, overlap⟩ := Claims.isFree_spans_eq_false blocked
      obtain ⟨_, _, _, _, rfl⟩ := mem_tableEntities.mp table
      exact ⟨_, tagged (Or.inl table), rfl, overlap⟩
    · right
      exact ⟨b, List.mem_mergeSort.mp memberB, ⟨e, tagged (Or.inr among), made⟩, before, overlap⟩

end Becoming

/-- Of the phrases in a question the longest become entities: if the pass over phrases does not break, those that do lie
apart from each other and from words for tables, and any other lies on the word for a table or on one that comes before
it, which is not a part of it. -/
theorem tag_longestFirst (l : Lexicon) (asked : List Asked) (directory : Option Directory) (asker : Asker)
    (question : String) (unbroken : ((after l asked).phrasesOver directory asker question).2.isOk = true) :
    LongestFirst asker question ((after l asked).hitsOver directory question)
      ((after l asked).tag directory asker question).1 := by
  have serves := serves_after l asked
  obtain ⟨⟨names, same⟩, _⟩ := serves.indexed directory
  have hits : (after l asked).hitsOver directory question =
      phraseHits l.vocabulary (namePhrases names) (Token.scan question.toList) := by
    rw [hitsOver, same, serves.vocabulary]
  rw [hits]
  refine ⟨fun a memberA b memberB => before_total memberA memberB,
    fun a memberA b memberB => becomes_apart memberA memberB, fun a member => becomes_free member,
    fun a member absent => ?_⟩
  rcases serves.displaced same unbroken member absent with table | ⟨b, memberB, becomes, before, overlap⟩
  · exact Or.inl table
  · obtain ⟨_, _, _, _, _, _, nonempty⟩ := phraseHits_aligned memberB
    exact Or.inr ⟨b, memberB, becomes, before, overlap, before.not_partOf nonempty⟩

def laptopLexicon : Lexicon :=
  { tables := [{ table := "tasks" }]
    synonyms := { status := [("premium", ["laptop pro"]), ("review", ["check tasks"])] }
    domainSources := [{ category := "product", table := "products", valueColumns := ["name"] }] }

theorem laptop_longestFirst :
    let c := DomainCache.calls laptopLexicon.domainSources .unloaded [(.ensureLoaded,
      { contents := .memory [("products", DomainCache.recordFrame 1 "Gaming Laptop Pro")] })]
    let t := after laptopLexicon [⟨none, dayAsker, "laptop pro"⟩]
    let question := "check tasks gaming laptop pro"
    let hits := t.hitsOver (some (.ofCache c)) question
    let phrases := (t.phrasesOver (some (.ofCache c)) dayAsker question).2
    hits.map Hit.place = [⟨12, 29⟩, ⟨0, 11⟩, ⟨19, 29⟩] ∧ phrases.isOk = true ∧
      phrases.toOption.map (List.map Entity.span) = some [⟨12, 29⟩] ∧
        LongestFirst dayAsker question hits (t.tag (some (.ofCache c)) dayAsker question).1 := by
  intro c t question hits phrases
  -- found in the order in which they are tried
  have sorted : hits.Pairwise fun a b => a.precedes b = true := by decide +kernel
  have order : Hit.longestFirst hits = hits := List.mergeSort_of_pairwise sorted
  have swept : phrases = (Claims.sweep Hit.place
      (fun hit => phraseEntity (part question.toList hit.start hit.stop) dayAsker.now hit.meaning)
      (tablePass t.vocabulary question.toList (Token.scan question.toList) []).1 hits).2 := by
    rw [← order]
    rfl
  have unbroken : phrases.isOk = true := by
    rw [swept]
    decide +kernel
  refine ⟨by decide +kernel, unbroken, ?_, ?_⟩
  · rw [swept]
    decide +kernel
  · exact tag_longestFirst laptopLexicon [⟨none, dayAsker, "laptop pro"⟩] (some (.ofCache c)) dayAsker question unbroken

end Tagger

end TableTalk
