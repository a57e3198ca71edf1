import TableTalk.Proofs.Tagging.Degradation

namespace TableTalk

/-- The words that tokens are looked up for, on their own or in phrases: words for tables and for the asker, and those
of synonyms. -/
def Lexicon.vocabularyWords (l : Lexicon) : List String :=
  Assoc.keys l.tableWords ++ (l.pronouns ++ l.keywordPhrases.flatMap Prod.fst)

theorem Lexicon.lower_keywordPhrase {l : Lexicon} {entry : List String × Keyword} (member : entry ∈ l.keywordPhrases) :
    ∀ word ∈ entry.1, Text.lower word = word := by
  obtain ⟨group, _, inside⟩ := List.mem_flatMap.mp member
  obtain ⟨phrase, declared, rfl⟩ := List.mem_map.mp inside
  obtain ⟨meaning, _, among⟩ := List.mem_flatMap.mp declared
  obtain ⟨text, _, found⟩ := List.mem_filterMap.mp among
  split at found
  · cases found
  · cases found
    exact fun word => Text.lower_word

namespace Pass

theorem run_idles {passes : List Pass} (idle : ∀ pass ∈ passes, pass.Idle) (claims : Claims) :
    run passes claims = (claims, []) := by
  induction passes with
  | nil => rfl
  | cons first rest ih =>
    obtain ⟨here, later⟩ := List.forall_mem_cons.mp idle
    exact (run_idle here [] rest claims).trans (ih later)

theorem run_alone (pass : Pass) {front back : List Pass} (idle : ∀ other ∈ front ++ back, other.Idle)
    (claims : Claims) : run (front ++ pass :: back) claims = returned (pass claims) := by
  obtain ⟨before, behind⟩ := List.forall_mem_append.mp idle
  induction front with
  | nil => rw [List.nil_append, run_cons, run_idles behind, List.append_nil, returned]
  | cons first rest ih =>
    obtain ⟨here, later⟩ := List.forall_mem_cons.mp before
    exact (run_idle here [] _ claims).trans (ih (List.forall_mem_append.mpr ⟨later, behind⟩) later)

end Pass

namespace Tagger

theorem tokenPass_idle {β : Type} {tokens : List Token} {find : Token → Option β}
    {build : Token → β → Except TagFault (Option Entity)} (none : ∀ token ∈ tokens, find token = none) :
    (tokenPass tokens find build).Idle := by
  intro claims
  have nothing : tokens.filterMap (fun token => (find token).map fun found => (token, found)) = [] :=
    List.filterMap_eq_nil_iff.mpr fun token member => by rw [none token member, Option.map_none]
  rw [tokenPass, nothing]
  rfl

section Quiet

variable {l : Lexicon} {question : List Char} (quiet : ∀ token ∈ Token.scan question, token.text ∉ l.vocabularyWords)

include quiet

theorem quiet_keyword {entry : List String × Keyword} (known : entry ∈ l.keywordPhrases) {token : Token}
    (member : token ∈ Token.scan question) : token.text ∉ entry.1 := fun word =>
  quiet token member (List.mem_append_right _ (List.mem_append_right _ (List.mem_flatMap.mpr ⟨entry, known, word⟩)))

theorem quiet_keywordWord {token : Token} (member : token ∈ Token.scan question) {entries : List (String × Keyword)}
    (known : ∀ entry ∈ entries, entry ∈ l.keywordWords) : Assoc.get? token.text entries = none := by
  rw [Assoc.get?_eq_none_iff]
  intro key
  obtain ⟨entry, among, same⟩ := List.mem_map.mp key
  obtain ⟨phrase, declared, single⟩ := List.mem_filterMap.mp (known entry among)
  split at single
  · rename_i word words
    cases single
    refine quiet_keyword quiet declared member ?_
    rw [words, ← same]
    exact List.mem_singleton_self _
  · cases single

theorem tablePass_quiet : (tablePass l.vocabulary question (Token.scan question)).Idle :=
  tokenPass_idle fun _ member => Assoc.get?_eq_none_iff.mpr fun known =>
    quiet _ member (List.mem_append_left _ known)

theorem pronounPass_quiet (asker : Asker) :
    (pronounPass l.vocabulary asker question (Token.scan question)).Idle := by
  refine tokenPass_idle fun token member => if_neg fun listed => ?_
  exact quiet token member (List.mem_append_right _ (List.mem_append_left _ (List.contains_iff_mem.mp listed)))

theorem temporalPass_quiet (asker : Asker) :
    (temporalPass l.vocabulary asker question (Token.scan question)).Idle :=
  tokenPass_idle fun _ member => quiet_keywordWord quiet member fun _ among => (List.mem_filter.mp among).1

theorem keywordPass_quiet (asker : Asker) :
    (keywordPass l.vocabulary asker question (Token.scan question)).Idle :=
  tokenPass_idle fun _ member => quiet_keywordWord quiet member fun _ among => (List.mem_filter.mp among).1

theorem hits_quiet : l.vocabulary.phrases.hits (Token.scan question) = [] := by
  refine List.eq_nil_iff_forall_not_mem.mpr fun hit member => ?_
  obtain ⟨_, occurs⟩ := Phrasebook.mem_hits.mp member
  have spelled := occurs.spelled
  have meaning := occurs.meaning
  rw [Lexicon.vocabulary, Phrasebook.get?_ofList _ spelled] at meaning
  obtain ⟨phrase, found, _⟩ := Option.map_eq_some_iff.mp meaning
  have known := (List.mem_filter.mp (List.mem_of_find?_eq_some found)).1
  have words := List.find?_some found
  rw [decide_eq_true_eq] at words
  -- the words of a phrase are lower case, so a token that spells one of them is that word
  obtain ⟨_, among⟩ := List.exists_mem_of_ne_nil _ spelled
  obtain ⟨token, inside, rfl⟩ := List.mem_map.mp among
  rw [← words] at among
  obtain ⟨word, listed, same⟩ := List.mem_map.mp among
  rw [Lexicon.lower_keywordPhrase known word listed] at same
  exact quiet_keyword quiet known (List.mem_of_mem_drop (List.mem_of_mem_take inside)) (same ▸ listed)

theorem phrasePass_quiet (asker : Asker) :
    (phrasePass l.vocabulary {} asker question (Token.scan question)).Idle := by
  intro claims
  rw [phrasePass, Phrasebook.hits_empty, hits_quiet quiet, List.map_nil, List.append_nil, Hit.longestFirst, List.mergeSort_nil]
  rfl

end Quiet

/-- If no token of a question is looked up and there are no known names, only comparisons are found. -/
theorem tag_quiet {t : Tagger} {l : Lexicon} (serves : t.Serves l) (asker : Asker) {question : String}
    (visible : Text.isBlankText question = false)
    (quiet : ∀ token ∈ Token.scan question.toList, token.text ∉ l.vocabularyWords) :
    (t.tag none asker question).1 =
      Entity.inOrder (Pass.returned (comparisonPass l.vocabulary question.toList [])).2 := by
  have passes : t.passesOver none asker question =
      [tablePass l.vocabulary question.toList (Token.scan question.toList),
        phrasePass l.vocabulary {} asker question.toList (Token.scan question.toList),
        namePass l.vocabulary none question.toList (Token.scan question.toList),
        pronounPass l.vocabulary asker question.toList (Token.scan question.toList),
        temporalPass l.vocabulary asker question.toList (Token.scan question.toList)] ++
      comparisonPass l.vocabulary question.toList ::
        [keywordPass l.vocabulary asker question.toList (Token.scan question.toList)] := by
    rw [passesOver, visible, if_neg Bool.false_ne_true, serves.vocabulary]
    rfl
  rw [t.tag_eq, passes, Pass.run_alone]
  simp only [List.cons_append, List.nil_append, List.forall_mem_cons, List.not_mem_nil, false_implies, implies_true,
    and_true]
  exact ⟨tablePass_quiet quiet, phrasePass_quiet quiet asker, namePass_none _ _ _, pronounPass_quiet quiet asker,
    temporalPass_quiet quiet asker, keywordPass_quiet quiet asker⟩

end Tagger

end TableTalk
