import TableTalk.Proofs.Engine

namespace TableTalk

/-- Whichever phrases a tagger keeps of older names, it tags as one that keeps none. -/
theorem Tagger.Current.tag_new {t : Tagger} {l : Lexicon} {c : DomainCache} (current : t.Current l c) (asker : Asker)
    (question : String) :
    (t.tag (some (.ofCache c)) asker question).1 = ((ofLexicon l).tag (some (.ofCache c)) asker question).1 := by
  have phrases : (t.indexed (some (.ofCache c))).1 = ((ofLexicon l).indexed (some (.ofCache c))).1 :=
    current.indexed.1.trans (current_ofLexicon l c).indexed.1.symm
  rw [tag_eq, tag_eq, passesOver, passesOver, current.vocabulary, phrases]
  rfl

namespace Engine

/-- What happens to an engine: a question is only tagged, any other call is made, its store changes or fails in other
places, or time passes. -/
inductive Event where
  | tagged (userId : Option String) (question : String)
  | call (made : Call)
  | changed (store : Store)
  | later (now : Moment)

def happen (g : Engine) : Event → Engine
  | .tagged userId question => (g.tag userId question).2
  | .call made => g.call made
  | .changed store => { g with store := store }
  | .later now => { g with now := now }

def live (g : Engine) (events : List Event) : Engine :=
  events.foldl happen g

/-- The tagger of an engine has the vocabulary of its lexicon, and no phrases that claim to be of the names that the
engine knows and are not. -/
structure InStep (l : Lexicon) (g : Engine) : Prop where
  lexicon : g.lexicon = l
  tagger : g.tagger.Current l g.cache

theorem keeps_inStep (l : Lexicon) : Keeps (InStep l) where
  refresh _ inStep := ⟨inStep.lexicon, inStep.tagger.of_newer (Nat.lt_succ_self _)⟩
  tagged _ _ question inStep := ⟨inStep.lexicon, inStep.tagger.tag question⟩
  selected _ _ inStep := ⟨inStep.lexicon, inStep.tagger⟩

theorem InStep.live {l : Lexicon} {g : Engine} (inStep : g.InStep l) (events : List Event) :
    (g.live events).InStep l := by
  induction events generalizing g with
  | nil => exact inStep
  | cons event rest ih =>
    refine ih ?_
    cases event with
    | tagged userId question => exact (keeps_inStep l).tag inStep userId question
    | call made => exact (keeps_inStep l).call inStep made
    | changed store => exact ⟨inStep.lexicon, inStep.tagger⟩
    | later now => exact ⟨inStep.lexicon, inStep.tagger⟩

def renewed (g : Engine) : Engine :=
  { g with tagger := .ofLexicon g.lexicon }

theorem loaded_renewed (g : Engine) : g.renewed.loaded = g.loaded.renewed := by
  have cache : g.renewed.cache = g.cache := rfl
  unfold loaded
  rw [cache]
  cases g.cache.isLoaded <;> rfl

section Renewed

variable {l : Lexicon} {g : Engine} (inStep : g.InStep l)

include inStep

theorem InStep.tag_renewed (userId : Option String) (question : String) :
    (g.tag userId question).1 = (g.renewed.tag userId question).1 ∧
      (g.tag userId question).2.renewed = (g.renewed.tag userId question).2.renewed := by
  unfold tag
  split
  · exact ⟨rfl, rfl⟩
  · rw [loaded_renewed]
    obtain ⟨lexicon, tagger⟩ := (keeps_inStep l).loaded inStep
    refine ⟨?_, rfl⟩
    have made : g.loaded.renewed.tagger = .ofLexicon l := by
      rw [renewed, lexicon]
    dsimp only
    rw [made]
    exact tagger.tag_new _ question

theorem InStep.extract_renewed (userId : Option String) (question : Value) :
    (g.extract userId question).1 = (g.renewed.extract userId question).1 ∧
      (g.extract userId question).2.renewed = (g.renewed.extract userId question).2.renewed := by
  unfold extract
  split
  · rename_i s
    obtain ⟨found, left⟩ := inStep.tag_renewed userId s
    exact ⟨congrArg Except.ok found, left⟩
  · split
    · exact ⟨rfl, rfl⟩
    · exact ⟨rfl, rfl⟩

theorem InStep.process_renewed (userId : Option String) (question : Value) :
    (g.process userId question).1 = (g.renewed.process userId question).1 := by
  obtain ⟨found, left⟩ := inStep.extract_renewed userId question
  unfold process run
  generalize g.extract userId question = first at found left ⊢
  generalize g.renewed.extract userId question = second at found left ⊢
  obtain ⟨outcome, g₁⟩ := first
  obtain ⟨outcome', g₂⟩ := second
  cases show outcome = outcome' from found
  -- behind tagging, nothing looks at the tagger
  simp only [renewed, mk.injEq] at left
  obtain ⟨store, lexicon, _, _, execution, now⟩ := left
  cases outcome with
  | error fault => simp only [failure, metadata, now]
  | ok entities =>
    have compiled : ∀ tables, g₁.compileAll tables entities question = g₂.compileAll tables entities question := by
      intro tables
      unfold compileAll
      rw [lexicon]
    dsimp only
    rw [lexicon, compiled, store, execution]
    cases g₂.compileAll (Routing.route g₂.lexicon entities).tables entities question with
    | error fault => simp only [failure, metadata, now]
    | ok predicates => simp only [answer, metadata, now]

end Renewed

/-- Whatever happened to an engine and its store before, it tags and answers a question as it would with a new
tagger. -/
theorem live_renewed (store : Store) (l : Lexicon) (cache : CacheOptions) (execution : ExecutionOptions) (now : Moment)
    (events : List Event) (userId : Option String) :
    let g := (create store l cache execution now).live events
    (∀ question, (g.tag userId question).1 = (g.renewed.tag userId question).1) ∧
      ∀ question, (g.process userId question).1 = (g.renewed.process userId question).1 := by
  intro g
  have created : (create store l cache execution now).InStep l := ⟨rfl, Tagger.current_ofLexicon l _⟩
  have inStep : g.InStep l := created.live events
  exact ⟨fun question => (inStep.tag_renewed userId question).1, inStep.process_renewed userId⟩

end Engine

end TableTalk
