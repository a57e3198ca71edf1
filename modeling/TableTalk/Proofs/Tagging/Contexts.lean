import TableTalk.Proofs.Routing
import TableTalk.Proofs.Tagging.Serving
import TableTalk.Proofs.Tagging.Views

namespace TableTalk

namespace Entity

def withoutAsker (e : Entity) : Entity :=
  match e.kind with
  | .pronoun => { e with canonical := .nothing, recordId := .null, isFilter := false, hover := "" }
  | _ => e

def withoutTime (e : Entity) : Entity :=
  match e.kind with
  | .temporal => { e with canonical := .nothing }
  | _ => e

theorem span_withoutAsker (e : Entity) : e.withoutAsker.span = e.span := by
  unfold withoutAsker
  split <;> rfl

theorem span_withoutTime (e : Entity) : e.withoutTime.span = e.span := by
  unfold withoutTime
  split <;> rfl

theorem clue_withoutAsker (e : Entity) : e.withoutAsker.clue = e.clue := by
  unfold withoutAsker
  split <;> rfl

theorem clue_withoutTime (e : Entity) : e.withoutTime.clue = e.clue := by
  unfold withoutTime
  split <;> rfl

theorem clues_eq_of_view {view : Entity → Entity} (clues : ∀ e, (view e).clue = e.clue) {found found' : List Entity}
    (same : found.map view = found'.map view) : found.map clue = found'.map clue := by
  have seen (entities : List Entity) : (entities.map view).map clue = entities.map clue := by
    rw [List.map_map]
    exact List.map_congr_left fun e _ => clues e
  rw [← seen found, same, seen]

end Entity

def Lexicon.TimesResolve (l : Lexicon) (now : Moment) : Prop :=
  ∀ entry ∈ l.synonyms.temporal, ∃ range, TimeRange.resolve entry.1 now = .ok range

namespace Tagger

variable {l : Lexicon}

theorem pronounPass_viewed (v : Vocabulary) (question : List Char) (tokens : List Token) (asker asker' : Asker) :
    (pronounPass v asker question tokens).viewed Entity.withoutAsker =
      (pronounPass v asker' question tokens).viewed Entity.withoutAsker :=
  tokenPass_viewed fun _ _ _ => rfl

theorem passes_withoutAsker (v : Vocabulary) (names : Phrasebook PhraseMeaning) (directory : Option Directory)
    (question : List Char) (now : Moment) (user user' : Option String) :
    (passes v names directory ⟨user, now⟩ question).map (Pass.viewed Entity.withoutAsker) =
      (passes v names directory ⟨user', now⟩ question).map (Pass.viewed Entity.withoutAsker) := by
  simp only [passes, List.map_cons, pronounPass_viewed v question _ ⟨user, now⟩ ⟨user', now⟩]
  rfl

section Times

variable {now now' : Moment} (times : l.TimesResolve now) (times' : l.TimesResolve now')

include times times'

theorem keywordEntity_withoutTime {k : Keyword} (means : l.Means k) (p : Part) (confidence : Float) :
    ((keywordEntity p k confidence now).map some).map (Option.map Entity.withoutTime) =
      ((keywordEntity p k confidence now').map some).map (Option.map Entity.withoutTime) := by
  obtain ⟨group, meaning, declared, rfl⟩ := means
  cases group with
  | temporal =>
    obtain ⟨range, resolved⟩ := times meaning declared
    obtain ⟨range', resolved'⟩ := times' meaning declared
    simp only [keywordEntity, SynonymGroup.keyword, resolved, resolved']
    rfl
  | _ => rfl

theorem phraseEntity_withoutTime {meaning : PhraseMeaning} (p : Part)
    (known : (∃ entries, meaning = .names entries) ∨ ∃ k, meaning = .keyword k ∧ l.Means k) :
    (phraseEntity p now meaning).map (Option.map Entity.withoutTime) =
      (phraseEntity p now' meaning).map (Option.map Entity.withoutTime) := by
  rcases known with ⟨entries, rfl⟩ | ⟨k, rfl, means⟩
  · cases entries <;> rfl
  · exact keywordEntity_withoutTime times times' means p 0.9

theorem passes_withoutTime (names : List (List String × DomainEntry)) (directory : Option Directory)
    (question : List Char) (user : Option String) :
    (passes l.vocabulary (namePhrases names) directory ⟨user, now⟩ question).map (Pass.viewed Entity.withoutTime) =
      (passes l.vocabulary (namePhrases names) directory ⟨user, now'⟩ question).map
        (Pass.viewed Entity.withoutTime) := by
  let tokens := Token.scan question
  have phrases : (phrasePass l.vocabulary (namePhrases names) ⟨user, now⟩ question tokens).viewed Entity.withoutTime =
      (phrasePass l.vocabulary (namePhrases names) ⟨user, now'⟩ question tokens).viewed Entity.withoutTime := by
    refine funext fun claims => Claims.sweep_viewed_congr (fun hit member => ?_) claims
    refine phraseEntity_withoutTime times times' _ ((phraseHits_meaning (List.mem_mergeSort.mp member)).imp_left ?_)
    rintro ⟨entries, meaning, _⟩
    exact ⟨entries, meaning⟩
  have words : (temporalPass l.vocabulary ⟨user, now⟩ question tokens).viewed Entity.withoutTime =
      (temporalPass l.vocabulary ⟨user, now'⟩ question tokens).viewed Entity.withoutTime :=
    tokenPass_viewed fun _ _ found => keywordEntity_withoutTime times times' (means_temporalWord found).1 _ _
  have keywords : (keywordPass l.vocabulary ⟨user, now⟩ question tokens).viewed Entity.withoutTime =
      (keywordPass l.vocabulary ⟨user, now'⟩ question tokens).viewed Entity.withoutTime :=
    tokenPass_viewed fun _ _ found => keywordEntity_withoutTime times times' (means_keyword found).1 _ _
  simp only [passes, List.map_cons, show Token.scan question = tokens from rfl, phrases, words, keywords]
  rfl

end Times

/-- The entities that two askers get for a question differ in nothing but what pronouns say of them, and those that one
gets at two times in nothing but the ranges of times, if every time has a range at both. So whoever asks, and whenever,
the question leads to the same tables by the same method. -/
theorem tag_contexts (l : Lexicon) (asked : List Asked) (directory : Option Directory) (question : String) :
    let found (user : Option String) (now : Moment) := ((after l asked).tag directory ⟨user, now⟩ question).1
    (∀ user user' now, (found user now).map Entity.withoutAsker = (found user' now).map Entity.withoutAsker) ∧
      (∀ user now now', l.TimesResolve now → l.TimesResolve now' →
        (found user now).map Entity.withoutTime = (found user now').map Entity.withoutTime) ∧
      ∀ user user' now now', now = now' ∨ l.TimesResolve now ∧ l.TimesResolve now' → ∀ routed : Lexicon,
        (Routing.route routed (found user now)).tables = (Routing.route routed (found user' now')).tables ∧
          (Routing.route routed (found user now)).method = (Routing.route routed (found user' now')).method := by
  intro found
  obtain ⟨names, passes⟩ := (serves_after l asked).passesOver directory
  have askers (user user' : Option String) (now : Moment) :
      (found user now).map Entity.withoutAsker = (found user' now).map Entity.withoutAsker := by
    apply tag_viewed Entity.span_withoutAsker
    rw [passes, passes]
    split
    · rfl
    · exact passes_withoutAsker l.vocabulary (namePhrases names) directory question.toList now user user'
  have moments (user : Option String) (now now' : Moment) (times : l.TimesResolve now) (times' : l.TimesResolve now') :
      (found user now).map Entity.withoutTime = (found user now').map Entity.withoutTime := by
    apply tag_viewed Entity.span_withoutTime
    rw [passes, passes]
    split
    · rfl
    · exact passes_withoutTime times times' names directory question.toList user
  refine ⟨askers, moments, fun user user' now now' either routed => Routing.route_congr routed ?_⟩
  -- first the asker changes, then the time
  refine (Entity.clues_eq_of_view Entity.clue_withoutAsker (askers user user' now)).trans ?_
  rcases either with rfl | ⟨times, times'⟩
  · rfl
  · exact Entity.clues_eq_of_view Entity.clue_withoutTime (moments user' now now' times times')

theorem day_resolves {now : Moment} (resolved : (TimeRange.resolve "today" now).isOk = true) :
    dayLexicon.TimesResolve now := by
  intro entry member
  rw [List.mem_singleton.mp member]
  cases found : TimeRange.resolve "today" now with
  | error fault =>
    rw [found] at resolved
    cases resolved
  | ok range => exact ⟨range, rfl⟩

theorem day_contexts :
    let june := Moment.midnight ⟨2024, 6, 12⟩
    let january := Moment.midnight ⟨2025, 1, 1⟩
    let found (user : Option String) (now : Moment) :=
      ((after dayLexicon []).tag none ⟨user, now⟩ "my tasks today").1
    (dayLexicon.TimesResolve june ∧ dayLexicon.TimesResolve january) ∧
      (found none june).map Entity.withoutTime = (found none january).map Entity.withoutTime ∧
        (Routing.route dayLexicon (found none june)).tables =
          (Routing.route dayLexicon (found (some "7") january)).tables := by
  intro june january found
  have times : dayLexicon.TimesResolve june := day_resolves (by decide +kernel)
  have times' : dayLexicon.TimesResolve january := day_resolves (by decide +kernel)
  obtain ⟨_, moments, routes⟩ := tag_contexts dayLexicon [] none "my tasks today"
  exact ⟨⟨times, times'⟩, moments none june january times times',
    (routes none (some "7") june january (Or.inr ⟨times, times'⟩) dayLexicon).1⟩

end Tagger

end TableTalk
