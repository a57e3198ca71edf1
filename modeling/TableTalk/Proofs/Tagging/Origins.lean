import TableTalk.Proofs.Domain.Nearest
import TableTalk.Proofs.Tagging.Matching

namespace TableTalk

open Outcome

/-- Where the values of an entity come from, by its kind. -/
inductive Entity.Origin (l : Lexicon) (c : DomainCache) (asker : Asker) (x : Entity) : Prop
  | table (kind : x.kind = .table)
  | name (primary : DomainEntry) (text : String) (kind : x.kind = .domainValue) (known : primary ∈ c.entries none)
      (canonical : x.canonical = .text text) (form : text = primary.display ∨ text ∈ primary.forms.all)
      (record : x.recordId = .null ∨ x.recordId = primary.recordId)
  | asker (kind : x.kind = .pronoun) (canonical : x.canonical = .ofText? asker.userId)
      (record : x.recordId = .ofText? asker.userId)
  | time (range : TimeRange) (kind : x.kind = .temporal) (canonical : x.canonical = .range range)
  | number (comparison : Comparison) (kind : x.kind = .numericFilter) (canonical : x.canonical = .comparison comparison)
      (order : comparison.operator = .gt ∨ comparison.operator = .lt)
      (value : (∃ n, comparison.value = .int n) ∨ ∃ n, comparison.value = .float n)
  | synonym (group : SynonymGroup) (meaning : String × List String) (declared : meaning ∈ l.synonyms.inGroup group)
      (timeless : group ≠ .temporal) (kind : x.kind = .statusFilter ∨ x.kind = .locationFilter)
      (canonical : x.canonical = .text meaning.1) (record : x.recordId = .null)

namespace Entity.Origin

variable {l : Lexicon} {c : DomainCache} {asker : Asker} {x : Entity} (origin : x.Origin l c asker)

include origin

theorem of_name (kind : x.kind = .domainValue) : ∃ primary ∈ c.entries none, ∃ text, x.canonical = .text text ∧
    (text = primary.display ∨ text ∈ primary.forms.all) ∧ (x.recordId = .null ∨ x.recordId = primary.recordId) := by
  cases origin with
  | name primary text _ known canonical form record => exact ⟨primary, known, text, canonical, form, record⟩
  | synonym group meaning declared timeless other => simp [kind] at other
  | table other | asker other | time range other | number comparison other => simp [kind] at other

theorem of_asker (kind : x.kind = .pronoun) : x.canonical = .ofText? asker.userId := by
  cases origin with
  | asker _ canonical => exact canonical
  | synonym group meaning declared timeless other => simp [kind] at other
  | table other | name primary text other | time range other | number comparison other => simp [kind] at other

theorem of_synonym (kind : x.kind = .statusFilter ∨ x.kind = .locationFilter) :
    ∃ group, group ≠ .temporal ∧ ∃ meaning ∈ l.synonyms.inGroup group, x.canonical = .text meaning.1 := by
  cases origin with
  | synonym group meaning declared timeless _ canonical => exact ⟨group, timeless, meaning, declared, canonical⟩
  | table other | name primary text other | asker other | time range other | number comparison other =>
    simp [other] at kind

theorem of_number (kind : x.kind = .numericFilter) {comparison : Comparison}
    (compares : x.canonical = .comparison comparison) :
    (comparison.operator = .gt ∨ comparison.operator = .lt) ∧
      ((∃ n, comparison.value = .int n) ∨ ∃ n, comparison.value = .float n) := by
  cases origin with
  | number other _ canonical order value =>
    cases canonical.symm.trans compares
    exact ⟨order, value⟩
  | synonym group meaning declared timeless other => simp [kind] at other
  | table other | name primary text other | asker other | time range other => simp [kind] at other

end Entity.Origin

def Lexicon.Means (l : Lexicon) (k : Keyword) : Prop :=
  ∃ group, ∃ meaning ∈ l.synonyms.inGroup group, k = group.keyword meaning.1

theorem Lexicon.means_keywordPhrase {l : Lexicon} {entry : List String × Keyword} (member : entry ∈ l.keywordPhrases) :
    l.Means entry.2 := by
  obtain ⟨group, _, inside⟩ := List.mem_flatMap.mp member
  obtain ⟨phrase, declared, rfl⟩ := List.mem_map.mp inside
  obtain ⟨meaning, listed, among⟩ := List.mem_flatMap.mp declared
  obtain ⟨_, _, found⟩ := List.mem_filterMap.mp among
  split at found
  · cases found
  · cases found
    exact ⟨group, meaning, listed, rfl⟩

theorem Lexicon.means_keywordWord {l : Lexicon} {entry : String × Keyword} (member : entry ∈ l.keywordWords) :
    l.Means entry.2 := by
  obtain ⟨phrase, inside, found⟩ := List.mem_filterMap.mp member
  split at found
  · cases found
    exact means_keywordPhrase inside
  · cases found

namespace Tagger

variable {l : Lexicon} {c : DomainCache} {asker : Asker} {p : Part} {x : Entity}

theorem keywordEntity_origin {k : Keyword} {confidence : Float} {now : Moment} (means : l.Means k)
    (made : keywordEntity p k confidence now = .ok x) : x.Origin l c asker := by
  obtain ⟨group, meaning, declared, rfl⟩ := means
  unfold keywordEntity at made
  cases group with
  | temporal =>
    obtain ⟨range, _, made⟩ := bind_ok.mp made
    cases made
    exact .time range rfl rfl
  | status | priority =>
    cases made
    exact .synonym _ meaning declared nofun (Or.inl rfl) rfl rfl
  | location =>
    cases made
    exact .synonym _ meaning declared nofun (Or.inr rfl) rfl rfl

theorem namesEntity_origin {primary : DomainEntry} {others : List DomainEntry} (confidence : Float) {canonical : String}
    (known : primary ∈ c.entries none) (form : canonical = primary.display ∨ canonical ∈ primary.forms.all) :
    (namesEntity p primary others confidence canonical).Origin l c asker := by
  refine .name primary canonical rfl known rfl form ?_
  unfold namesEntity
  dsimp only
  split
  · exact Or.inr rfl
  · exact Or.inl rfl

theorem nearEntity_origin {token : Token} (made : nearEntity (.ofCache c) p token = .ok (some x)) :
    x.Origin l c asker := by
  unfold nearEntity at made
  obtain ⟨found, answer, made⟩ := bind_ok.mp made
  have near : c.near token.text DomainCache.defaultNearLength = found := Except.ok.inj answer
  split at made
  · cases made
  · rename_i primary form others
    obtain ⟨known, whole⟩ := DomainCache.mem_near (near ▸ List.mem_cons_self : (primary, form) ∈ c.near token.text _)
    cases made
    exact namesEntity_origin _ known (Or.inr (List.mem_append_left _ whole))

theorem nameEntity_origin {v : Vocabulary} {token : Token} (lowered : Text.lower token.text = token.text)
    (made : nameEntity v (.ofCache c) p token = .ok (some x)) : x.Origin l c asker := by
  unfold nameEntity at made
  obtain ⟨whole, answer, made⟩ := bind_ok.mp made
  have named : c.named token.text = whole := Except.ok.inj answer
  split at made
  · rename_i primary others
    have known : primary ∈ c.named token.text := named ▸ List.mem_cons_self
    rw [DomainCache.named_eq] at known
    cases made
    exact namesEntity_origin _ (List.mem_filter.mp known).1 (Or.inl rfl)
  · split at made
    · cases made
    · obtain ⟨forms, answer, made⟩ := bind_ok.mp made
      have formed : c.withForm token.text = forms := Except.ok.inj answer
      split at made
      · rename_i primary others
        have known : primary ∈ c.withForm token.text := formed ▸ List.mem_cons_self
        obtain ⟨known, form⟩ := DomainCache.mem_withForm.mp known
        rw [lowered] at form
        cases made
        exact namesEntity_origin _ known (Or.inr form)
      · split at made
        · exact nearEntity_origin made
        · cases made

theorem number_cases {hit : ComparisonHit} {value : Value} (number : hit.number = .ok value) :
    (∃ n, value = .int n) ∨ ∃ n, value = .float n := by
  unfold ComparisonHit.number at number
  dsimp only at number
  split at number
  · split at number
    · exact Or.inr ⟨_, (Except.ok.inj number).symm⟩
    · cases number
  · cases read : Decimal.readInteger (String.ofList (hit.numeral.filter (· != ','))) with
    | error fault =>
      rw [read] at number
      cases number
    | ok n =>
      rw [read] at number
      exact Or.inl ⟨n, (Except.ok.inj number).symm⟩

theorem comparisonEntity_origin {comparisons : List (String × Bound)} {hit : ComparisonHit}
    (made : comparisonEntity p comparisons hit = .ok (some x)) : x.Origin l c asker := by
  unfold comparisonEntity at made
  split at made
  · cases made
  · rename_i bound _
    split at made
    · cases made
    · rename_i value number
      cases made
      refine .number _ rfl rfl ?_ (number_cases number)
      cases bound with
      | above => exact Or.inl rfl
      | below => exact Or.inr rfl

section Passes

variable {question : List Char}

theorem phrasePass_origins :
    (phrasePass l.vocabulary (namePhrases c.multiword) asker question (Token.scan question)).Finds
      fun x => x.Origin l c asker := by
  intro claims
  apply Claims.sweep_yields
  intro hit member x made
  refine ⟨(phraseEntity_isAt made).2, ?_⟩
  rcases List.mem_append.mp (List.mem_mergeSort.mp member) with name | keyword
  · obtain ⟨_, occurs⟩ := Phrasebook.mem_hits.mp name
    have meaning := occurs.meaning
    rw [get?_namePhrases (fun entry member => c.lower_multiword member) occurs.spelled] at meaning
    split at meaning
    · rw [← Option.some.inj meaning] at made
      unfold phraseEntity at made
      split at made
      · cases made
      · rename_i primary others same
        cases made
        have among := (congrArg (primary ∈ ·) (PhraseMeaning.names.inj same)).mpr List.mem_cons_self
        obtain ⟨entry, inside, rfl⟩ := List.mem_map.mp among
        have known := (DomainCache.mem_multiword.mp (List.mem_filter.mp inside).1).1
        exact namesEntity_origin _ known (Or.inl rfl)
      · rename_i same
        cases same
    · cases meaning
  · obtain ⟨original, among, rfl⟩ := List.mem_map.mp keyword
    obtain ⟨phrase, inside, same⟩ := Lexicon.keywordPhrase_of_hit among
    have means := Lexicon.means_keywordPhrase inside
    rw [same] at means
    exact keywordEntity_origin means (map_some_ok made)

theorem passes_origins :
    ∀ pass ∈ passes l.vocabulary (namePhrases c.multiword) (some (.ofCache c)) asker question,
      pass.Finds fun x => x.Origin l c asker := by
  simp only [passes, List.forall_mem_cons, List.not_mem_nil, false_implies, implies_true, and_true]
  refine ⟨?_, phrasePass_origins, ?_, ?_, ?_, ?_, ?_⟩
  · apply tokenPass_yields
    intro token _ word _ x made
    cases made
    exact ⟨rfl, .table rfl⟩
  · intro claims
    apply tokenPass_yields
    intro token member _ _ x made
    exact ⟨(nameEntity_isAt made).2, nameEntity_origin (Token.lower_text member) made⟩
  · apply tokenPass_yields
    intro token _ _ _ x made
    cases made
    exact ⟨rfl, .asker rfl rfl rfl⟩
  · apply tokenPass_yields
    intro token _ k found x made
    have made := map_some_ok made
    have member := (List.mem_filter.mp (Assoc.mem_of_get? found)).1
    exact ⟨(keywordEntity_isAt made).2, keywordEntity_origin (Lexicon.means_keywordWord member) made⟩
  · intro claims
    apply Claims.sweep_yields
    intro hit _ x made
    exact ⟨(comparisonEntity_isAt made).1.2, comparisonEntity_origin made⟩
  · apply tokenPass_yields
    intro token _ k found x made
    have made := map_some_ok made
    have member := (List.mem_filter.mp (Assoc.mem_of_get? found)).1
    exact ⟨(keywordEntity_isAt made).2, keywordEntity_origin (Lexicon.means_keywordWord member) made⟩

end Passes

/-- A tagger of a lexicon that keeps no other phrases than those of the names of a cache, or of an older version of
them. -/
structure Current (t : Tagger) (l : Lexicon) (c : DomainCache) : Prop where
  vocabulary : t.vocabulary = l.vocabulary
  index : ∀ index, t.index = some index → index.version ≤ c.version ∧
    (index.version = c.version → index.phrases = namePhrases c.multiword)

theorem current_ofLexicon (l : Lexicon) (c : DomainCache) : (ofLexicon l).Current l c :=
  ⟨rfl, nofun⟩

namespace Current

variable {t : Tagger}

theorem indexed (current : t.Current l c) :
    (t.indexed (some (.ofCache c))).1 = namePhrases c.multiword ∧ (t.indexed (some (.ofCache c))).2.Current l c := by
  unfold Tagger.indexed
  dsimp only [Directory.ofCache]
  split
  · rename_i index same
    obtain ⟨known, version⟩ := Option.filter_eq_some_iff.mp same
    exact ⟨(current.index index known).2 (of_decide_eq_true version), current⟩
  · refine ⟨rfl, current.vocabulary, fun index same => ?_⟩
    cases same
    exact ⟨Nat.le_refl _, fun _ => rfl⟩

theorem of_newer {c' : DomainCache} (current : t.Current l c) (newer : c.version < c'.version) : t.Current l c' where
  vocabulary := current.vocabulary
  index index known := by
    have old := (current.index index known).1
    exact ⟨by omega, fun same => by omega⟩

theorem tag (current : t.Current l c) (question : String) :
    (t.tag (some (.ofCache c)) asker question).2.Current l c := by
  unfold Tagger.tag
  split
  · exact current
  · exact current.indexed.2

theorem tag_origins (current : t.Current l c) (question : String) :
    ∀ x ∈ (t.tag (some (.ofCache c)) asker question).1, x.Origin l c asker := by
  apply tag_all
  unfold passesOver
  split
  · simp
  · rw [current.vocabulary, current.indexed.1]
    exact passes_origins

end Current

end Tagger

end TableTalk
