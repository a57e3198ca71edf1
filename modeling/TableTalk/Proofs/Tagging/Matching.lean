import TableTalk.Proofs.Domain.Matching
import TableTalk.Proofs.Phrase
import TableTalk.Proofs.Tagging.Placement

namespace TableTalk

open Outcome

namespace Token

section Between

variable {tokens : List Token} (ordered : tokens.Pairwise fun a b => a.stop ≤ b.start)
  (nonempty : ∀ token ∈ tokens, token.start < token.stop)

include ordered in
theorem stop_le_start {j k : Nat} {a b : Token} (atJ : tokens[j]? = some a) (atK : tokens[k]? = some b)
    (less : j < k) : a.stop ≤ b.start := by
  obtain ⟨inside, rfl⟩ := List.getElem?_eq_some_iff.mp atJ
  obtain ⟨inside', rfl⟩ := List.getElem?_eq_some_iff.mp atK
  exact List.pairwise_iff_getElem.mp ordered j k inside inside' less

include ordered nonempty in
theorem between_iff {i k j : Nat} {first last token : Token} (here : tokens[i]? = some first)
    (there : tokens[k]? = some last) (atJ : tokens[j]? = some token) :
    (first.start ≤ token.start ∧ token.stop ≤ last.stop) ↔ i ≤ j ∧ j ≤ k := by
  have long {j : Nat} {a : Token} (atJ : tokens[j]? = some a) : a.start < a.stop :=
    nonempty a (List.mem_of_getElem? atJ)
  have length := long atJ
  constructor
  · rintro ⟨starts, stops⟩
    constructor
    · refine Nat.le_of_not_lt fun less => ?_
      have apart := stop_le_start ordered atJ here less
      omega
    · refine Nat.le_of_not_lt fun less => ?_
      have apart := stop_le_start ordered there atJ less
      omega
  · rintro ⟨low, high⟩
    constructor
    · rcases Nat.eq_or_lt_of_le low with rfl | less
      · have same := Option.some.inj (here.symm.trans atJ)
        exact Nat.le_of_eq (congrArg Token.start same)
      · have first := long here
        have apart := stop_le_start ordered here atJ less
        omega
    · rcases Nat.eq_or_lt_of_le high with rfl | less
      · have same := Option.some.inj (atJ.symm.trans there)
        exact Nat.le_of_eq (congrArg Token.stop same)
      · have last := long there
        have apart := stop_le_start ordered atJ there less
        omega

include ordered nonempty in
theorem filter_between {i n : Nat} {first last : Token} (here : tokens[i]? = some first)
    (there : tokens[i + n]? = some last) :
    (tokens.filter fun token => first.start ≤ token.start ∧ token.stop ≤ last.stop) =
      (tokens.drop i).take (n + 1) := by
  have inside {j : Nat} {token : Token} (atJ : tokens[j]? = some token) :
      decide (first.start ≤ token.start ∧ token.stop ≤ last.stop) = decide (i ≤ j ∧ j ≤ i + n) :=
    decide_eq_decide.mpr (between_iff ordered nonempty here there atJ)
  have parts : tokens = tokens.take i ++ ((tokens.drop i).take (n + 1) ++ tokens.drop (i + (n + 1))) := by
    rw [← List.drop_drop, List.take_append_drop, List.take_append_drop]
  have front : (tokens.take i).filter (fun token => first.start ≤ token.start ∧ token.stop ≤ last.stop) = [] := by
    rw [List.filter_eq_nil_iff]
    intro token member
    obtain ⟨j, atJ⟩ := List.mem_iff_getElem?.mp member
    rw [List.getElem?_take, Option.ite_none_right_eq_some] at atJ
    rw [inside atJ.2, decide_eq_true_eq]
    omega
  have inner : ((tokens.drop i).take (n + 1)).filter
      (fun token => first.start ≤ token.start ∧ token.stop ≤ last.stop) = (tokens.drop i).take (n + 1) := by
    rw [List.filter_eq_self]
    intro token member
    obtain ⟨j, atJ⟩ := List.mem_iff_getElem?.mp member
    rw [List.getElem?_take, Option.ite_none_right_eq_some, List.getElem?_drop] at atJ
    rw [inside atJ.2, decide_eq_true_eq]
    omega
  have back : (tokens.drop (i + (n + 1))).filter
      (fun token => first.start ≤ token.start ∧ token.stop ≤ last.stop) = [] := by
    rw [List.filter_eq_nil_iff]
    intro token member
    obtain ⟨j, atJ⟩ := List.mem_iff_getElem?.mp member
    rw [List.getElem?_drop] at atJ
    rw [inside atJ, decide_eq_true_eq]
    omega
  rw [parts, List.filter_append, List.filter_append, front, inner, back, List.nil_append, List.append_nil, ← parts]

end Between

end Token

namespace Tagger

def wordsIn (question : List Char) (span : Span) : List String :=
  ((Token.scan question).filter fun token => span.start ≤ token.start ∧ token.stop ≤ span.stop).map Token.text

theorem wordsIn_tokens {question : List Char} {i n : Nat} {start stop : Nat}
    (here : (Token.scan question)[i]?.map Token.start = some start)
    (there : (Token.scan question)[i + n]?.map Token.stop = some stop) :
    wordsIn question ⟨start, stop⟩ = (((Token.scan question).drop i).take (n + 1)).map Token.text := by
  obtain ⟨first, atFirst, rfl⟩ := Option.map_eq_some_iff.mp here
  obtain ⟨last, atLast, rfl⟩ := Option.map_eq_some_iff.mp there
  rw [← Token.filter_between (Token.scan_ordered question) (fun _ member => (Token.scan_bounds member).1)
    atFirst atLast]
  simp only [wordsIn, Int.ofNat_le]

theorem wordsIn_token {question : List Char} {token : Token} (member : token ∈ Token.scan question) :
    wordsIn question (tokenSpan token) = [token.text] := by
  obtain ⟨i, here⟩ := List.mem_iff_getElem?.mp member
  have words := wordsIn_tokens (i := i) (n := 0) (by rw [here]; rfl) (by rw [Nat.add_zero, here]; rfl)
  rw [tokenSpan, words]
  obtain ⟨inside, same⟩ := List.getElem?_eq_some_iff.mp here
  rw [List.drop_eq_getElem_cons inside, List.take_succ_cons, List.take_zero, same]
  rfl

theorem get?_namePhrases {names : List (List String × DomainEntry)}
    (lowered : ∀ entry ∈ names, entry.1.map Text.lower = entry.1) {words : List String} (nonempty : words ≠ []) :
    (namePhrases names).get? words =
      if words ∈ names.map Prod.fst then
        some (.names ((names.filter fun entry => entry.1 = words).map Prod.snd))
      else none := by
  have groups (keys : List (List String)) (kept : ∀ key ∈ keys, key.map Text.lower = key) :
      ((keys.map fun key => (key, names.filter fun entry => entry.1 = key)).map fun group =>
        (group.1, PhraseMeaning.names (group.2.map Prod.snd))).find?
          (fun phrase => phrase.1.map Text.lower = words) =
        if words ∈ keys then
          some (words, .names ((names.filter fun entry => entry.1 = words).map Prod.snd))
        else none := by
    induction keys with
    | nil => rfl
    | cons key rest ih =>
      obtain ⟨here, there⟩ := List.forall_mem_cons.mp kept
      rw [List.map_cons, List.map_cons, List.find?_cons, ih there]
      dsimp only
      rw [here]
      by_cases same : key = words
      · simp [same]
      · have other : ¬ words = key := fun this => same this.symm
        simp [same, other]
  have kept : ∀ key ∈ Assoc.distinct (names.map Prod.fst), key.map Text.lower = key := by
    intro key member
    obtain ⟨entry, among, rfl⟩ := List.mem_map.mp (Assoc.mem_distinct.mp member)
    exact lowered entry among
  rw [namePhrases, Phrasebook.get?_ofList _ nonempty, Assoc.groupBy_eq, groups _ kept]
  simp only [Assoc.mem_distinct]
  split <;> rfl

theorem keywordEntity_kind {p : Part} {k : Keyword} {confidence : Float} {now : Moment} {e : Entity}
    (made : keywordEntity p k confidence now = .ok e) : e.kind = k.kind := by
  unfold keywordEntity at made
  dsimp only at made
  split at made
  · obtain ⟨_, _, made⟩ := bind_ok.mp made
    cases made
    rfl
  · cases made
    rfl
  · cases made
    rfl

end Tagger

theorem Lexicon.keywordPhrase_of_hit {l : Lexicon} {tokens : List Token} {hit : Hit Keyword}
    (member : hit ∈ l.vocabulary.phrases.hits tokens) : ∃ entry ∈ l.keywordPhrases, entry.2 = hit.meaning := by
  obtain ⟨_, occurs⟩ := Phrasebook.mem_hits.mp member
  have meaning := occurs.meaning
  rw [vocabulary, Phrasebook.get?_ofList _ occurs.spelled] at meaning
  obtain ⟨phrase, found, same⟩ := Option.map_eq_some_iff.mp meaning
  exact ⟨phrase, (List.mem_filter.mp (List.mem_of_find?_eq_some found)).1, same⟩

theorem Lexicon.keyword_kind {l : Lexicon} {entry : List String × Keyword} (member : entry ∈ l.keywordPhrases) :
    entry.2.kind ≠ .domainValue := by
  obtain ⟨group, _, inside⟩ := List.mem_flatMap.mp member
  obtain ⟨phrase, _, rfl⟩ := List.mem_map.mp inside
  cases group <;> nofun

theorem Lexicon.keywordWord_kind {l : Lexicon} {entry : String × Keyword} (member : entry ∈ l.keywordWords) :
    entry.2.kind ≠ .domainValue := by
  obtain ⟨phrase, inside, found⟩ := List.mem_filterMap.mp member
  split at found
  · cases found
    exact keyword_kind inside
  · cases found

def Tagger.listed (entries : List DomainEntry) : List String :=
  ((entries.drop 1).take maxAlternatives).map DomainEntry.display

/-- What a known name in a question stands for: the first of the names that match, with a record number if all of
them have its category and its record number. -/
structure Entity.Matches (x : Entity) (question : List Char) (c : DomainCache) (primary : DomainEntry)
    (others : List DomainEntry) : Prop where
  names : c.matching (Tagger.wordsIn question x.span) = primary :: others
  table : x.table = some primary.table
  category : x.category = some primary.category
  display : 1 < (Tagger.wordsIn question x.span).length → x.canonical = .text primary.display
  recordId : x.recordId = if others.all fun e => e.sameRecord primary then primary.recordId else .null
  alternatives : x.alternatives = Tagger.listed (DomainEntry.records (primary :: others))

namespace Tagger

section Passes

variable {question : List Char} {c : DomainCache} {e : Entity}

theorem namesEntity_matches {p : Part} {primary : DomainEntry} {others : List DomainEntry}
    (confidence : Float) {canonical : String} (names : c.matching (wordsIn question p.span) = primary :: others)
    (display : 1 < (wordsIn question p.span).length → canonical = primary.display) :
    (namesEntity p primary others confidence canonical).Matches question c primary others where
  names := names
  table := rfl
  category := rfl
  display := fun several => congrArg Canonical.text (display several)
  recordId := by
    unfold namesEntity
    simp only [DomainEntry.records_single_iff]
  alternatives := rfl

def NamesMatch (question : List Char) (c : DomainCache) (x : Entity) : Prop :=
  x.kind = .domainValue → ∃ primary others, x.Matches question c primary others

theorem nearEntity_matches {p : Part} {token : Token} (word : wordsIn question p.span = [token.text])
    (unnamed : c.named token.text = []) (unformed : c.withForm token.text = [])
    (made : nearEntity (.ofCache c) p token = .ok (some e)) : NamesMatch question c e := by
  unfold nearEntity at made
  obtain ⟨found, answer, made⟩ := bind_ok.mp made
  have near : c.near token.text DomainCache.defaultNearLength = found := Except.ok.inj answer
  split at made
  · cases made
  · rename_i primary form others
    cases made
    intro _
    refine ⟨primary, others.map Prod.fst, namesEntity_matches _ ?_ ?_⟩
    · rw [word]
      simp [DomainCache.matching, DomainCache.matchingWord, unnamed, unformed, near]
    · rw [word]
      nofun

theorem nameEntity_matches {v : Vocabulary} {p : Part} {token : Token}
    (word : wordsIn question p.span = [token.text])
    (made : nameEntity v (.ofCache c) p token = .ok (some e)) : NamesMatch question c e := by
  unfold nameEntity at made
  obtain ⟨whole, answer, made⟩ := bind_ok.mp made
  have named : c.named token.text = whole := Except.ok.inj answer
  split at made
  · rename_i primary others
    cases made
    intro _
    refine ⟨primary, others, namesEntity_matches _ ?_ fun _ => rfl⟩
    rw [word]
    simp [DomainCache.matching, DomainCache.matchingWord, named]
  · split at made
    · cases made
    · obtain ⟨forms, answer, made⟩ := bind_ok.mp made
      have formed : c.withForm token.text = forms := Except.ok.inj answer
      split at made
      · rename_i primary others
        cases made
        intro _
        refine ⟨primary, others, namesEntity_matches _ ?_ ?_⟩
        · rw [word]
          simp [DomainCache.matching, DomainCache.matchingWord, named, formed]
        · rw [word]
          nofun
      · split at made
        · exact nearEntity_matches word named formed made
        · cases made

theorem phraseEntity_matches {p : Part} {now : Moment} {entries : List DomainEntry}
    (several : 1 < (wordsIn question p.span).length)
    (names : entries = (c.multiword.filter fun entry => entry.1 = wordsIn question p.span).map Prod.snd)
    (made : phraseEntity p now (.names entries) = .ok (some e)) : NamesMatch question c e := by
  rw [← c.matching_several several] at names
  cases entries with
  | nil => cases made
  | cons primary others =>
    cases made
    intro _
    exact ⟨primary, others, namesEntity_matches _ names.symm fun _ => rfl⟩

theorem keyword_matches {p : Part} {k : Keyword} {confidence : Float} {now : Moment}
    (other : k.kind ≠ .domainValue) (made : (keywordEntity p k confidence now).map some = .ok (some e)) :
    e.span = p.span ∧ NamesMatch question c e := by
  have made := map_some_ok made
  refine ⟨(keywordEntity_isAt made).2, ?_⟩
  intro kind
  rw [keywordEntity_kind made] at kind
  exact absurd kind other

theorem phrasePass_matches (l : Lexicon) (asker : Asker) :
    (phrasePass l.vocabulary (namePhrases c.multiword) asker question (Token.scan question)).Finds
      (NamesMatch question c) := by
  intro claims
  apply Claims.sweep_yields
  intro hit member e made
  refine ⟨(phraseEntity_isAt made).2, ?_⟩
  rcases List.mem_append.mp (List.mem_mergeSort.mp member) with name | keyword
  · obtain ⟨_, occurs⟩ := Phrasebook.mem_hits.mp name
    have meaning := occurs.meaning
    rw [get?_namePhrases (fun entry member => c.lower_multiword member) occurs.spelled,
      ← wordsIn_tokens occurs.start occurs.stop] at meaning
    split at meaning
    · rename_i known
      obtain ⟨entry, among, same⟩ := List.mem_map.mp known
      have several := (DomainCache.mem_multiword.mp among).2.2
      rw [same] at several
      rw [← Option.some.inj meaning] at made
      exact phraseEntity_matches several rfl made
    · cases meaning
  · obtain ⟨original, among, rfl⟩ := List.mem_map.mp keyword
    obtain ⟨phrase, inside, same⟩ := Lexicon.keywordPhrase_of_hit among
    have other := Lexicon.keyword_kind inside
    rw [same] at other
    exact (keyword_matches other made).2

theorem passes_match (l : Lexicon) (asker : Asker) :
    ∀ pass ∈ passes l.vocabulary (namePhrases c.multiword) (some (.ofCache c)) asker question,
      pass.Finds (NamesMatch question c) := by
  simp only [passes, List.forall_mem_cons, List.not_mem_nil, false_implies, implies_true, and_true]
  refine ⟨?_, phrasePass_matches l asker, ?_, ?_, ?_, ?_, ?_⟩
  · apply tokenPass_yields
    intro token _ word _ e made
    cases made
    exact ⟨rfl, fun kind => by cases kind⟩
  · intro claims
    apply tokenPass_yields
    intro token member _ _ e made
    exact ⟨(nameEntity_isAt made).2, nameEntity_matches (wordsIn_token member) made⟩
  · apply tokenPass_yields
    intro token _ _ _ e made
    cases made
    exact ⟨rfl, fun kind => by cases kind⟩
  · apply tokenPass_yields
    intro token _ k found e made
    have member := (List.mem_filter.mp (Assoc.mem_of_get? found)).1
    exact keyword_matches (Lexicon.keywordWord_kind member) made
  · intro claims
    apply Claims.sweep_yields
    intro hit _ e made
    obtain ⟨here, kind⟩ := comparisonEntity_isAt made
    refine ⟨here.2, ?_⟩
    intro other
    rw [kind] at other
    cases other
  · apply tokenPass_yields
    intro token _ k found e made
    have member := (List.mem_filter.mp (Assoc.mem_of_get? found)).1
    exact keyword_matches (Lexicon.keywordWord_kind member) made

end Passes

theorem tag_namesMatch (l : Lexicon) (c : DomainCache) (asker : Asker) (question : String) :
    ∀ x ∈ ((ofLexicon l).tag (some (.ofCache c)) asker question).1, NamesMatch question.toList c x := by
  apply tag_all
  unfold passesOver
  split
  · simp
  · exact passes_match l asker

end Tagger

end TableTalk
