import TableTalk.Proofs.Lexicon.TableWords
import TableTalk.Proofs.Tagging.Serving
import TableTalk.Proofs.Text.Fields

namespace TableTalk

open Outcome

namespace Lexicon

/-- A word that a lexicon uses: a pronoun, a stop word, a word for a table, or a word of a phrase for a state, a place, a
time or a comparison. -/
inductive Uses (l : Lexicon) (word : String) : Prop where
  | pronoun (among : word ∈ l.pronouns)
  | stopWord (among : word ∈ l.stopWords)
  | table {t : Taxonomy} (declared : t ∈ l.tables)
      (named : word = Text.lower t.table ∨ word ∈ t.aliases.map Text.lower)
  | synonym {group : SynonymGroup} {meaning : String × List String} (declared : meaning ∈ l.synonyms.inGroup group)
      {phrase : String} (among : phrase ∈ meaning.2) (spelled : word ∈ Text.wordsOf phrase)
  | comparison {direction : Bound × List String} (declared : direction ∈ l.comparisons)
      {phrase : String} (among : phrase ∈ direction.2) (spelled : word ∈ Text.wordsOf phrase)

variable {l : Lexicon} {word : String}

theorem mem_keys_tableWords : word ∈ Assoc.keys l.tableWords ↔
    ∃ t ∈ l.tables, word = Text.lower t.table ∨ word ∈ t.aliases.map Text.lower := by
  have names : word ∈ Assoc.keys l.namePairs.reverse ↔ ∃ t ∈ l.tables, word = Text.lower t.table := by
    simp [Assoc.keys, namePairs, eq_comm]
  have aliases : word ∈ Assoc.keys (aliasPairs l.tables) ↔ ∃ t ∈ l.tables, word ∈ t.aliases.map Text.lower := by
    simp [Assoc.keys, aliasPairs]
  have known : ¬ Assoc.get? word l.tableWords = none ↔ ¬ word ∉ Assoc.keys l.tableWords :=
    not_congr Assoc.get?_eq_none_iff
  rw [Decidable.not_not, get?_tableWords, Option.or_eq_none_iff, Option.map_eq_none_iff, Option.map_eq_none_iff,
    Assoc.get?_eq_none_iff, Assoc.get?_eq_none_iff, not_and_or, Decidable.not_not, Decidable.not_not] at known
  rw [← known, names, aliases, ← exists_or]
  simp only [← and_or_left]

theorem mem_synonymPhrases {group : SynonymGroup} {words : List String} {canonical : String} :
    (words, canonical) ∈ l.synonymPhrases group ↔ ∃ meaning ∈ l.synonyms.inGroup group, meaning.1 = canonical ∧
      ∃ phrase ∈ meaning.2, Text.wordsOf phrase = words ∧ words ≠ [] := by
  unfold synonymPhrases
  simp only [List.mem_flatMap, List.mem_filterMap]
  refine exists_congr fun meaning => and_congr_right fun _ => ?_
  constructor
  · rintro ⟨phrase, among, found⟩
    split at found
    · cases found
    · rename_i wordless
      cases found
      exact ⟨rfl, phrase, among, rfl, fun none => wordless none⟩
  · rintro ⟨rfl, phrase, among, rfl, spelled⟩
    refine ⟨phrase, among, ?_⟩
    split
    · rename_i wordless
      exact absurd wordless spelled
    · rfl

theorem mem_comparisonWords : word ∈ l.comparisonPhrases.flatMap (fun entry => Text.wordsOf entry.1) ↔
    ∃ direction ∈ l.comparisons, ∃ phrase ∈ direction.2, word ∈ Text.wordsOf phrase := by
  simp only [comparisonPhrases, List.mem_flatMap, List.mem_mergeSort, List.mem_map]
  constructor
  · rintro ⟨_, ⟨direction, declared, phrase, among, rfl⟩, spelled⟩
    exact ⟨direction, declared, phrase, among, Text.wordsOf_lower phrase ▸ spelled⟩
  · rintro ⟨direction, declared, phrase, among, spelled⟩
    exact ⟨_, ⟨direction, declared, phrase, among, rfl⟩, (Text.wordsOf_lower phrase).symm ▸ spelled⟩

theorem mem_synonymWords :
    word ∈ SynonymGroup.all.flatMap (fun group => (l.synonymPhrases group).flatMap Prod.fst) ↔
      ∃ group, ∃ meaning ∈ l.synonyms.inGroup group, ∃ phrase ∈ meaning.2, word ∈ Text.wordsOf phrase := by
  simp only [List.mem_flatMap]
  constructor
  · rintro ⟨group, _, ⟨words, canonical⟩, declared, spelled⟩
    obtain ⟨meaning, inside, _, phrase, among, rfl, _⟩ := mem_synonymPhrases.mp declared
    exact ⟨group, meaning, inside, phrase, among, spelled⟩
  · rintro ⟨group, meaning, inside, phrase, among, spelled⟩
    refine ⟨group, by cases group <;> decide, (Text.wordsOf phrase, meaning.1), ?_, spelled⟩
    exact mem_synonymPhrases.mpr ⟨meaning, inside, rfl, phrase, among, rfl, List.ne_nil_of_mem spelled⟩

theorem mem_reservedWords : word ∈ l.reservedWords ↔ l.Uses word := by
  rw [reservedWords, Assoc.mem_distinct, List.mem_append, List.mem_append, List.mem_append, List.mem_append,
    mem_synonymWords, mem_comparisonWords, mem_keys_tableWords]
  constructor
  · rintro ((((pronoun | stopWord) | ⟨_, _, declared, _, among, spelled⟩) | ⟨_, declared, _, among, spelled⟩) |
      ⟨_, declared, named⟩)
    · exact .pronoun pronoun
    · exact .stopWord stopWord
    · exact .synonym declared among spelled
    · exact .comparison declared among spelled
    · exact .table declared named
  · intro uses
    cases uses with
    | pronoun among => exact Or.inl (Or.inl (Or.inl (Or.inl among)))
    | stopWord among => exact Or.inl (Or.inl (Or.inl (Or.inr among)))
    | synonym declared among spelled => exact Or.inl (Or.inl (Or.inr ⟨_, _, declared, _, among, spelled⟩))
    | comparison declared among spelled => exact Or.inl (Or.inr ⟨_, declared, _, among, spelled⟩)
    | table declared named => exact Or.inr ⟨_, declared, named⟩

end Lexicon

namespace Tagger

section Words

variable {question : List Char} {token : Token}

theorem token_visible (member : token ∈ Token.scan question) : ∀ c ∈ token.text.toList, Text.isBlank c = false := by
  obtain ⟨run, inside, rfl⟩ := List.mem_map.mp member
  obtain ⟨_, letters, _⟩ := Text.runs_chars inside
  intro c among
  rw [Token.ofRun, String.toList_ofList] at among
  obtain ⟨d, there, rfl⟩ := List.mem_map.mp among
  rw [Bool.eq_false_iff, Text.isBlank_toLower]
  intro blank
  have letter := letters d there
  rw [Text.isTokenChar_blank blank] at letter
  cases letter

theorem normalized_token (member : token ∈ Token.scan question) : Variations.normalized token.text = token.text := by
  have visible := token_visible member
  have tidy : Text.Tidy token.text.toList :=
    ⟨Text.startsBlank_all_visible visible, Text.endsBlank_all_visible visible (Or.inl rfl),
      Text.squeezeFrom_all_visible visible _⟩
  have same := tidy.collapse
  rw [String.ofList_toList] at same
  rw [Variations.normalized, Token.lower_text member, same]

theorem several_of_nameHit {c : DomainCache} {hit : Hit PhraseMeaning}
    (member : hit ∈ (namePhrases c.multiword).hits (Token.scan question)) :
    1 < (wordsIn question ⟨hit.start, hit.stop⟩).length := by
  obtain ⟨_, occurs⟩ := Phrasebook.mem_hits.mp member
  have meaning := occurs.meaning
  rw [get?_namePhrases (fun _ known => c.lower_multiword known) occurs.spelled,
    ← wordsIn_tokens occurs.start occurs.stop] at meaning
  split at meaning
  · rename_i known
    obtain ⟨entry, among, same⟩ := List.mem_map.mp known
    rw [← same]
    exact (DomainCache.mem_multiword.mp among).2.2
  · cases meaning

end Words

section Passes

variable {l : Lexicon} {c : DomainCache} {question : List Char} {e : Entity}

/-- If an entity of a known name is made of a single word, the word is no number, and if the lexicon uses it, it is the
key of a name, and the entity shows this name. -/
def SparesUsed (l : Lexicon) (c : DomainCache) (question : List Char) (x : Entity) : Prop :=
  x.kind = .domainValue → ∀ word, wordsIn question x.span = [word] →
    (∃ letter ∈ word.toList, letter.isDigit = false) ∧
      (l.Uses word → ∃ e ∈ c.entries none, e.key = word ∧ x.canonical = .text e.display)

theorem sparesUsed_of_kind (other : e.kind ≠ .domainValue) : SparesUsed l c question e :=
  fun kind => absurd kind other

theorem nameEntity_whole {p : Part} {token : Token} (member : token ∈ Token.scan question) (used : l.Uses token.text)
    (made : nameEntity l.vocabulary (.ofCache c) p token = .ok (some e)) :
    ∃ name ∈ c.entries none, name.key = token.text ∧ e.canonical = .text name.display := by
  unfold nameEntity at made
  obtain ⟨whole, answer, made⟩ := bind_ok.mp made
  have named : c.named token.text = whole := Except.ok.inj answer
  split at made
  · rename_i primary others
    cases made
    have first : primary ∈ c.named token.text := by
      rw [named]
      exact List.mem_cons_self
    rw [c.named_eq, List.mem_filter, decide_eq_true_eq, normalized_token member] at first
    exact ⟨primary, first.1, first.2, rfl⟩
  · have reserved : l.vocabulary.reserved.contains token.text = true :=
      List.contains_iff_mem.mpr (Lexicon.mem_reservedWords.mpr used)
    rw [if_pos reserved] at made
    cases made

theorem namePass_spares (directory : Option Directory) (known : ∀ d, directory = some d → d = .ofCache c) :
    (namePass l.vocabulary directory question (Token.scan question)).Finds (SparesUsed l c question) := by
  intro claims
  unfold namePass
  split
  · exact .nothing
  · rename_i d
    cases known d rfl
    refine tokenPass_yields ?_ claims
    intro token member _ found e made
    have here := (nameEntity_isAt made).2
    refine ⟨here, fun _ word alone => ?_⟩
    rw [here] at alone
    cases (wordsIn_token member).symm.trans alone
    refine ⟨?_, fun used => nameEntity_whole member used made⟩
    have lettered : token.isNumber = false := by
      cases number : token.isNumber with
      | false => rfl
      | true =>
        rw [number] at found
        cases found
    simpa [Token.isNumber] using lettered

theorem phrasePass_spares (names : DomainCache) (asker : Asker) :
    (phrasePass l.vocabulary (namePhrases names.multiword) asker question (Token.scan question)).Finds
      (SparesUsed l c question) := by
  intro claims
  apply Claims.sweep_yields
  intro hit member e made
  have here := (phraseEntity_isAt made).2
  refine ⟨here, ?_⟩
  rcases List.mem_append.mp (List.mem_mergeSort.mp member) with name | keyword
  · intro _ word alone
    have several := several_of_nameHit name
    rw [here] at alone
    rw [show wordsIn question ⟨hit.start, hit.stop⟩ = [word] from alone] at several
    exact absurd several (Nat.lt_irrefl 1)
  · obtain ⟨original, among, rfl⟩ := List.mem_map.mp keyword
    obtain ⟨phrase, inside, same⟩ := Lexicon.keywordPhrase_of_hit among
    have other := Lexicon.keyword_kind inside
    rw [same, ← keywordEntity_kind (map_some_ok made)] at other
    exact sparesUsed_of_kind other

theorem passes_spare (names : DomainCache) (asker : Asker) :
    ∀ pass ∈ passes l.vocabulary (namePhrases names.multiword) (some (.ofCache c)) asker question,
      pass.Finds (SparesUsed l c question) := by
  simp only [passes, List.forall_mem_cons, List.not_mem_nil, false_implies, implies_true, and_true]
  refine ⟨?_, phrasePass_spares names asker, namePass_spares _ fun d same => (Option.some.inj same).symm,
    (pronounPass_kinds _).imp ?_, temporalPass_kinds.imp ?_, (comparisonPass_kinds _).imp ?_, keywordPass_kinds.imp ?_⟩
  · apply tokenPass_yields
    intro token _ word _ e made
    cases made
    exact ⟨rfl, sparesUsed_of_kind (by simp [tableEntity])⟩
  · intro e kind
    exact sparesUsed_of_kind (by simp [kind])
  · intro e kind
    exact sparesUsed_of_kind (by simp [kind])
  · intro e kind
    exact sparesUsed_of_kind (by simp [kind])
  · rintro e (kind | kind) <;> exact sparesUsed_of_kind (by simp [kind])

end Passes

structure AskedOf where
  names : DomainCache
  asker : Asker
  question : String

def afterNames (l : Lexicon) (asked : List AskedOf) : Tagger :=
  after l (asked.map fun a => ⟨some (.ofCache a.names), a.asker, a.question⟩)

def KeepsNames (t : Tagger) : Prop :=
  ∀ index, t.index = some index → ∃ names : DomainCache, index.phrases = namePhrases names.multiword

theorem KeepsNames.indexed {t : Tagger} (keeps : t.KeepsNames) (c : DomainCache) :
    (∃ names : DomainCache, (t.indexed (some (.ofCache c))).1 = namePhrases names.multiword) ∧
      (t.indexed (some (.ofCache c))).2.KeepsNames := by
  have loaded : (Directory.ofCache c).load = .ok () := rfl
  have answer : (Directory.ofCache c).multiword = .ok c.multiword := rfl
  unfold Tagger.indexed
  simp only [loaded, answer]
  split
  · rename_i index same
    exact ⟨keeps index (Option.filter_eq_some_iff.mp same).1, keeps⟩
  · refine ⟨⟨c, rfl⟩, fun index same => ?_⟩
    cases same
    exact ⟨c, rfl⟩

theorem KeepsNames.tag {t : Tagger} (keeps : t.KeepsNames) (c : DomainCache) (asker : Asker) (question : String) :
    (t.tag (some (.ofCache c)) asker question).2.KeepsNames := by
  unfold Tagger.tag
  split
  · exact keeps
  · exact (keeps.indexed c).2

theorem keepsNames_afterNames (l : Lexicon) (asked : List AskedOf) : (afterNames l asked).KeepsNames := by
  suffices run : ∀ t : Tagger, t.KeepsNames →
      (asked.foldl (fun t a => (t.tag (some (.ofCache a.names)) a.asker a.question).2) t).KeepsNames by
    rw [afterNames, after, List.foldl_map]
    exact run (ofLexicon l) nofun
  induction asked with
  | nil => exact fun _ keeps => keeps
  | cons a rest ih => exact fun t keeps => ih _ (keeps.tag a.names a.asker a.question)

/-- A tagger at any time takes a single word of a question for a known name only if the word is no number, and a word
that its lexicon uses only if it is the whole name. -/
theorem tag_sparesUsed (l : Lexicon) (asked : List AskedOf) (c : DomainCache) (asker : Asker) (question : String) :
    ∀ x ∈ ((afterNames l asked).tag (some (.ofCache c)) asker question).1, x.kind = .domainValue →
      ∀ word, wordsIn question.toList x.span = [word] →
        (∃ letter ∈ word.toList, letter.isDigit = false) ∧
          (l.Uses word → ∃ e ∈ c.entries none, e.key = word ∧ x.canonical = .text e.display) := by
  apply tag_all
  obtain ⟨⟨names, phrases⟩, _⟩ := (keepsNames_afterNames l asked).indexed c
  have serves : (afterNames l asked).Serves l := serves_after l _
  unfold passesOver
  split
  · simp
  · rw [phrases, serves.vocabulary]
    exact passes_spare names asker

theorem my_spared :
    let c := DomainCache.calls dayLexicon.domainSources .unloaded [(.ensureLoaded,
      { contents := .memory [("staff", DomainCache.recordFrame 1 "My")] })]
    let found := ((afterNames dayLexicon [⟨.unloaded, dayAsker, "today"⟩]).tag (some (.ofCache c)) dayAsker
      "is it my 7").1
    dayLexicon.Uses "my" ∧ ∃ x ∈ found, x.kind = .domainValue ∧ wordsIn "is it my 7".toList x.span = ["my"] ∧
      ∃ e ∈ c.entries none, e.key = "my" ∧ x.canonical = .text e.display := by
  intro c found
  have used : dayLexicon.Uses "my" := .pronoun List.mem_cons_self
  have tagged : ∃ x ∈ found, x.kind = .domainValue ∧ wordsIn "is it my 7".toList x.span = ["my"] := by decide +kernel
  obtain ⟨x, member, kind, alone⟩ := tagged
  have spared := tag_sparesUsed dayLexicon [⟨.unloaded, dayAsker, "today"⟩] c dayAsker "is it my 7" x member kind "my" alone
  exact ⟨used, x, member, kind, alone, spared.2 used⟩

end Tagger

end TableTalk
