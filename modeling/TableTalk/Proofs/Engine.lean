import TableTalk.Engine
import TableTalk.Proofs.Domain.Entries
import TableTalk.Proofs.Tagging.Origins

namespace TableTalk

open Outcome

namespace Store

/-- A store over tables of a database; which of them fail, hang or are listed may change. -/
def Holds (store : Store) (tables : List (String × Frame)) : Prop :=
  ∃ d, store.contents = .database d ∧ d.tables = tables

theorem Holds.listed {store : Store} {tables : List (String × Frame)} (holds : store.Holds tables) :
    store.listed.Holds tables := by
  obtain ⟨d, contents, rfl⟩ := holds
  refine ⟨d.listed, by rw [Store.listed, contents], ?_⟩
  unfold Database.listed
  split <;> rfl

theorem Holds.afterSelect {store : Store} {tables : List (String × Frame)} (holds : store.Holds tables)
    (selected : List String) : (store.afterSelect selected).Holds tables := by
  unfold Store.afterSelect
  split
  · exact holds.listed
  · exact holds

end Store

namespace Engine

inductive Call where
  | ask (userId : Option String) (question : Value)
  | suggest (query : String) (category : Option String) (limit : Int)
  | refresh

def call (g : Engine) : Call → Engine
  | .ask userId question => (g.run userId question).2
  | .suggest query category limit => (g.suggest query category limit).2
  | .refresh => g.refresh

def calls (g : Engine) (made : List Call) : Engine :=
  made.foldl call g

/-- What calls do to an engine keeps a property: loading the names, tagging a question and looking up tables. -/
structure Keeps (I : Engine → Prop) : Prop where
  refresh : ∀ g, I g → I g.refresh
  tagged : ∀ g asker question, I g → I { g with tagger := (g.tagger.tag (some (.ofCache g.cache)) asker question).2 }
  selected : ∀ g tables, I g → I { g with store := g.store.afterSelect tables }

namespace Keeps

variable {I : Engine → Prop} (keeps : Keeps I) {g : Engine} (holds : I g)

include keeps holds

theorem loaded : I g.loaded := by
  unfold Engine.loaded
  split
  · exact holds
  · rename_i fresh
    have load : g.cache.ensureLoaded g.lexicon.domainSources g.store =
        g.cache.refresh g.lexicon.domainSources g.store :=
      if_neg fresh
    simp only [load]
    exact keeps.refresh g holds

theorem tag (userId : Option String) (question : String) : I (g.tag userId question).2 := by
  unfold Engine.tag
  split
  · exact holds
  · exact keeps.tagged g.loaded ⟨userId, g.loaded.now⟩ question (keeps.loaded holds)

theorem extract (userId : Option String) (question : Value) : I (g.extract userId question).2 := by
  unfold Engine.extract
  split
  · exact keeps.tag holds userId _
  · split
    · exact holds
    · exact holds

theorem run (userId : Option String) (question : Value) : I (g.run userId question).2 := by
  have extracted := keeps.extract holds userId question
  unfold Engine.run
  split
  · rename_i same
    rw [same] at extracted
    exact extracted
  · rename_i entities g' same
    rw [same] at extracted
    dsimp only
    split
    · exact extracted
    · exact keeps.selected g' _ extracted

theorem call (made : Call) : I (g.call made) := by
  cases made with
  | ask userId question => exact keeps.run holds userId question
  | suggest query category limit => exact keeps.loaded holds
  | refresh => exact keeps.refresh g holds

theorem calls (made : List Call) : I (g.calls made) := by
  induction made generalizing g with
  | nil => exact holds
  | cons c rest ih => exact ih (keeps.call holds c)

end Keeps

/-- What stays of an engine, and what holds of its names at any time. -/
structure Steady (l : Lexicon) (tables : List (String × Frame)) (P : DomainEntry → Prop) (g : Engine) : Prop where
  lexicon : g.lexicon = l
  store : g.store.Holds tables
  names : DomainCache.All P g.cache.byCategory
  tagger : g.tagger.Current l g.cache

section Steady

variable {l : Lexicon} {tables : List (String × Frame)} {P : DomainEntry → Prop} {g : Engine}

theorem steady_create {store : Store} (holds : store.Holds tables) (cache : CacheOptions) (execution : ExecutionOptions)
    (now : Moment) : Steady l tables P (create store l cache execution now) where
  lexicon := rfl
  store := holds
  names := nofun
  tagger := Tagger.current_ofLexicon l _

variable (yields : ∀ s ∈ l.domainSources, ∀ store : Store, store.Holds tables → ∀ lengths limit found,
  s.load lengths limit store = .ok found → ∀ e ∈ found, P e)

include yields

theorem keeps_steady : Keeps (Steady l tables P) where
  refresh g steady :=
    { lexicon := steady.lexicon
      store := steady.store.afterSelect _
      names := by
        refine DomainCache.all_refresh (fun s member => ?_) steady.names
        rw [steady.lexicon] at member
        exact yields s member g.store steady.store _ _
      tagger := steady.tagger.of_newer (Nat.lt_succ_self _) }
  tagged _ _ question steady := ⟨steady.lexicon, steady.store, steady.names, steady.tagger.tag question⟩
  selected _ tables steady := ⟨steady.lexicon, steady.store.afterSelect tables, steady.names, steady.tagger⟩

theorem Steady.tag (steady : Steady l tables P g) (userId : Option String) (question : String) :
    Steady l tables P (g.tag userId question).2 :=
  (keeps_steady yields).tag steady userId question

theorem Steady.calls (steady : Steady l tables P g) (made : List Call) : Steady l tables P (g.calls made) :=
  (keeps_steady yields).calls steady made

/-- Whatever an engine finds in a question stems from its lexicon, the names that it knows by then, and the asker. -/
theorem Steady.tag_origins (steady : Steady l tables P g) (userId : Option String) (question : String) :
    ∃ c : DomainCache, DomainCache.All P c.byCategory ∧
      ∀ x ∈ (g.tag userId question).1, x.Origin l c ⟨userId, g.now⟩ := by
  unfold Engine.tag
  split
  · exact ⟨g.cache, steady.names, fun x member => absurd member List.not_mem_nil⟩
  · obtain ⟨lexicon, store, names, tagger⟩ := (keeps_steady yields).loaded steady
    have now : g.loaded.now = g.now := by
      unfold Engine.loaded
      split <;> rfl
    refine ⟨g.loaded.cache, names, fun x member => ?_⟩
    rw [← now]
    exact tagger.tag_origins question x member

end Steady

def predicatesFor (g : Engine) (entities : List Entity) (question table : String) : List Predicate :=
  (g.lexicon.taxonomy? table).elim [] fun t => Filter.compile table t entities question g.lexicon.homeTables

theorem compileAll_text (g : Engine) (tables : List String) (entities : List Entity) (question : String) :
    g.compileAll tables entities (.text question) =
      .ok (tables.map fun table => (table, g.predicatesFor entities question table)) := by
  unfold compileAll
  induction tables with
  | nil => rfl
  | cons table rest ih =>
    rw [List.mapM_cons, ih, List.map_cons, predicatesFor]
    cases g.lexicon.taxonomy? table <;> rfl

theorem run_text (g : Engine) (userId : Option String) (question : String) :
    ∃ r, (g.run userId (.text question)).1 = .ok r ∧ r.entities = (g.tag userId question).1 ∧
      r.predicates = r.routing.tables.map (fun table =>
        (table, (g.tag userId question).2.predicatesFor r.entities question table)) ∧
      r.execution = Execution.run (g.tag userId question).2.store (g.tag userId question).2.execution r.routing.tables
        r.predicates := by
  unfold run extract
  dsimp only
  rw [compileAll_text]
  exact ⟨_, rfl, rfl, rfl, rfl⟩

end Engine

end TableTalk
