import TableTalk.Proofs.Tagging.Origins

namespace TableTalk

theorem Lexicon.Means.kind {l : Lexicon} {k : Keyword} (means : l.Means k) :
    k.kind = .temporal ∨ k.kind = .statusFilter ∨ k.kind = .locationFilter := by
  obtain ⟨group, _, _, rfl⟩ := means
  cases group with
  | temporal => exact Or.inl rfl
  | status | priority => exact Or.inr (Or.inl rfl)
  | location => exact Or.inr (Or.inr rfl)

namespace Tagger

/-- The vocabulary is that of a lexicon, and the phrases that are kept are those of some names. -/
structure Serves (t : Tagger) (l : Lexicon) : Prop where
  vocabulary : t.vocabulary = l.vocabulary
  index : ∀ index, t.index = some index → ∃ names, index.phrases = namePhrases names

theorem serves_ofLexicon (l : Lexicon) : (ofLexicon l).Serves l :=
  ⟨rfl, nofun⟩

namespace Serves

variable {t : Tagger} {l : Lexicon} (serves : t.Serves l)

include serves

theorem indexed (directory : Option Directory) :
    (∃ names, (t.indexed directory).1 = namePhrases names) ∧ (t.indexed directory).2.Serves l := by
  unfold Tagger.indexed
  split
  · exact ⟨⟨[], rfl⟩, serves⟩
  · split
    · exact ⟨⟨[], rfl⟩, serves⟩
    · split
      · rename_i index same
        exact ⟨serves.index index (Option.filter_eq_some_iff.mp same).1, serves⟩
      · split
        · exact ⟨⟨[], rfl⟩, serves⟩
        · rename_i names _
          refine ⟨⟨names, rfl⟩, serves.vocabulary, fun index same => ?_⟩
          cases same
          exact ⟨names, rfl⟩

theorem tag (directory : Option Directory) (asker : Asker) (question : String) :
    (t.tag directory asker question).2.Serves l := by
  unfold Tagger.tag
  split
  · exact serves
  · exact (serves.indexed directory).2

theorem passesOver (directory : Option Directory) : ∃ names, ∀ (asker : Asker) (question : String),
    t.passesOver directory asker question =
      if Text.isBlankText question then []
      else passes l.vocabulary (namePhrases names) directory asker question.toList := by
  obtain ⟨⟨names, same⟩, _⟩ := serves.indexed directory
  refine ⟨names, fun asker question => ?_⟩
  rw [Tagger.passesOver, same, serves.vocabulary]

end Serves

structure Asked where
  directory : Option Directory
  asker : Asker
  question : String

def after (l : Lexicon) (asked : List Asked) : Tagger :=
  asked.foldl (fun t a => (t.tag a.directory a.asker a.question).2) (ofLexicon l)

theorem serves_after (l : Lexicon) (asked : List Asked) : (after l asked).Serves l := by
  suffices run : ∀ t : Tagger, t.Serves l →
      (asked.foldl (fun t a => (t.tag a.directory a.asker a.question).2) t).Serves l by
    exact run (ofLexicon l) (serves_ofLexicon l)
  induction asked with
  | nil => exact fun _ serves => serves
  | cons a rest ih => exact fun t serves => ih _ (serves.tag a.directory a.asker a.question)

section Kinds

variable {l : Lexicon} {names : List (List String × DomainEntry)} {asker : Asker} {question : List Char}

theorem means_temporalWord {word : String} {k : Keyword} (found : Assoc.get? word l.vocabulary.temporalWords = some k) :
    l.Means k ∧ k.kind = .temporal := by
  obtain ⟨known, kind⟩ := List.mem_filter.mp (Assoc.mem_of_get? found)
  exact ⟨Lexicon.means_keywordWord known, of_decide_eq_true kind⟩

theorem means_keyword {word : String} {k : Keyword} (found : Assoc.get? word l.vocabulary.keywords = some k) :
    l.Means k ∧ k.kind ≠ .temporal := by
  obtain ⟨known, kind⟩ := List.mem_filter.mp (Assoc.mem_of_get? found)
  exact ⟨Lexicon.means_keywordWord known, of_decide_eq_true kind⟩

theorem nameHits_meaning {tokens : List Token} {hit : Hit PhraseMeaning}
    (member : hit ∈ (namePhrases names).hits tokens) :
    ∃ entries, hit.meaning = .names entries ∧ entries ≠ [] ∧ ∀ e ∈ entries, ∃ words, (words, e) ∈ names := by
  obtain ⟨_, occurs⟩ := Phrasebook.mem_hits.mp member
  have meaning := occurs.meaning
  rw [namePhrases, Phrasebook.get?_ofList _ occurs.spelled] at meaning
  obtain ⟨phrase, found, same⟩ := Option.map_eq_some_iff.mp meaning
  obtain ⟨group, among, rfl⟩ := List.mem_map.mp (List.mem_of_find?_eq_some found)
  obtain ⟨key, values⟩ := Assoc.mem_groupBy.mp among
  obtain ⟨first, declared, grouped⟩ := List.mem_map.mp key
  have inside : first ∈ group.2 := by
    rw [values]
    exact List.mem_filter.mpr ⟨declared, decide_eq_true grouped⟩
  refine ⟨group.2.map Prod.snd, same.symm, List.ne_nil_of_mem (List.mem_map_of_mem inside), fun e among => ?_⟩
  obtain ⟨entry, member, rfl⟩ := List.mem_map.mp among
  rw [values] at member
  exact ⟨entry.1, (List.mem_filter.mp member).1⟩

theorem phraseHits_meaning {tokens : List Token} {hit : Hit PhraseMeaning}
    (member : hit ∈ phraseHits l.vocabulary (namePhrases names) tokens) :
    (∃ entries, hit.meaning = .names entries ∧ entries ≠ [] ∧ ∀ e ∈ entries, ∃ words, (words, e) ∈ names) ∨
      ∃ k, hit.meaning = .keyword k ∧ l.Means k := by
  rcases List.mem_append.mp member with name | keyword
  · exact Or.inl (nameHits_meaning name)
  · right
    obtain ⟨original, among, rfl⟩ := List.mem_map.mp keyword
    obtain ⟨phrase, inside, same⟩ := Lexicon.keywordPhrase_of_hit among
    have means := Lexicon.means_keywordPhrase inside
    rw [same] at means
    exact ⟨original.meaning, rfl, means⟩

theorem nearEntity_kind {d : Directory} {p : Part} {token : Token} {e : Entity}
    (made : nearEntity d p token = .ok (some e)) : e.kind = .domainValue := by
  unfold nearEntity at made
  obtain ⟨found, _, made⟩ := Outcome.bind_ok.mp made
  split at made
  · cases made
  · cases made
    rfl

theorem nameEntity_kind {v : Vocabulary} {d : Directory} {p : Part} {token : Token} {e : Entity}
    (made : nameEntity v d p token = .ok (some e)) : e.kind = .domainValue := by
  unfold nameEntity at made
  obtain ⟨whole, _, made⟩ := Outcome.bind_ok.mp made
  split at made
  · cases made
    rfl
  · split at made
    · cases made
    · obtain ⟨forms, _, made⟩ := Outcome.bind_ok.mp made
      split at made
      · cases made
        rfl
      · split at made
        · exact nearEntity_kind made
        · cases made

theorem phrasePass_kinds : (phrasePass l.vocabulary (namePhrases names) asker question (Token.scan question)).Finds
    fun e => (e.kind = .domainValue ∧ names ≠ []) ∨
      e.kind = .temporal ∨ e.kind = .statusFilter ∨ e.kind = .locationFilter := by
  intro claims
  apply Claims.sweep_yields
  intro hit member e made
  refine ⟨(phraseEntity_isAt made).2, ?_⟩
  rcases phraseHits_meaning (List.mem_mergeSort.mp member) with ⟨entries, meaning, _, known⟩ | ⟨k, meaning, means⟩
  · rw [meaning] at made
    cases entries with
    | nil => cases made
    | cons primary others =>
      cases made
      obtain ⟨words, among⟩ := known primary List.mem_cons_self
      exact Or.inl ⟨rfl, List.ne_nil_of_mem among⟩
  · rw [meaning] at made
    rw [keywordEntity_kind (map_some_ok made)]
    exact Or.inr means.kind

theorem namePass_kinds (v : Vocabulary) (directory : Option Directory) :
    (namePass v directory question (Token.scan question)).Finds
      fun e => e.kind = .domainValue ∧ ∃ d, directory = some d ∧ d.load = .ok () := by
  intro claims
  unfold namePass
  split
  · exact .nothing
  · rename_i d
    split
    · exact .broken _
    · rename_i loaded
      refine tokenPass_yields ?_ claims
      intro token _ _ _ e made
      exact ⟨(nameEntity_isAt made).2, nameEntity_kind made, d, rfl, loaded⟩

theorem pronounPass_kinds (v : Vocabulary) :
    (pronounPass v asker question (Token.scan question)).Finds fun e => e.kind = .pronoun := by
  apply tokenPass_yields
  intro token _ _ _ e made
  cases made
  exact ⟨rfl, rfl⟩

theorem temporalPass_kinds :
    (temporalPass l.vocabulary asker question (Token.scan question)).Finds fun e => e.kind = .temporal := by
  apply tokenPass_yields
  intro token _ k found e made
  have made := map_some_ok made
  refine ⟨(keywordEntity_isAt made).2, ?_⟩
  rw [keywordEntity_kind made]
  exact (means_temporalWord found).2

theorem comparisonPass_kinds (v : Vocabulary) :
    (comparisonPass v question).Finds fun e => e.kind = .numericFilter := by
  intro claims
  apply Claims.sweep_yields
  intro hit _ e made
  obtain ⟨here, kind⟩ := comparisonEntity_isAt made
  exact ⟨here.2, kind⟩

theorem keywordPass_kinds : (keywordPass l.vocabulary asker question (Token.scan question)).Finds
    fun e => e.kind = .statusFilter ∨ e.kind = .locationFilter := by
  apply tokenPass_yields
  intro token _ k found e made
  have made := map_some_ok made
  obtain ⟨means, timeless⟩ := means_keyword found
  refine ⟨(keywordEntity_isAt made).2, ?_⟩
  rw [keywordEntity_kind made]
  exact means.kind.resolve_left timeless

theorem laterPasses_kinds (l : Lexicon) (names : List (List String × DomainEntry)) (directory : Option Directory)
    (asker : Asker) (question : List Char) :
    ∀ pass ∈ (passes l.vocabulary (namePhrases names) directory asker question).tail, pass.Finds fun e =>
      e.kind ≠ .table ∧ (e.kind = .domainValue → names ≠ [] ∨ ∃ d, directory = some d ∧ d.load = .ok ()) := by
  simp only [passes, List.tail_cons, List.forall_mem_cons, List.not_mem_nil, false_implies, implies_true, and_true]
  refine ⟨phrasePass_kinds.imp ?_, (namePass_kinds _ _).imp ?_, (pronounPass_kinds _).imp ?_,
    temporalPass_kinds.imp ?_, (comparisonPass_kinds _).imp ?_, keywordPass_kinds.imp ?_⟩
  · rintro e (⟨kind, named⟩ | kind | kind | kind)
    · exact ⟨by simp [kind], fun _ => Or.inl named⟩
    all_goals simp [kind]
  · rintro e ⟨kind, answers⟩
    exact ⟨by simp [kind], fun _ => Or.inr answers⟩
  · intro e kind
    simp [kind]
  · intro e kind
    simp [kind]
  · intro e kind
    simp [kind]
  · rintro e (kind | kind) <;> simp [kind]

end Kinds

def dayLexicon : Lexicon :=
  { tables := [{ table := "tasks" }]
    pronouns := ["my"]
    synonyms := { temporal := [("today", ["today"])] }
    domainSources := [{ category := "user", table := "staff", valueColumns := ["name"] }] }

def dayAsker : Asker :=
  { now := .midnight ⟨2024, 6, 12⟩ }

end Tagger

end TableTalk
