import TableTalk.Domain.Cache
import TableTalk.Proofs.Assoc

namespace TableTalk

def DomainSource.fails (s : DomainSource) (o : CacheOptions) (store : Store) : Bool :=
  match s.load o.lengths o.rowLimit store with
  | .ok _ => false
  | .error _ => true

def DomainSource.yields (s : DomainSource) (o : CacheOptions) (store : Store) : List DomainEntry :=
  match s.load o.lengths o.rowLimit store with
  | .ok found => found
  | .error _ => []

/-- The items behind the last one that fails, or all of them if none does. -/
def behindFailures {α : Type} (fails : α → Bool) : List α → List α
  | [] => []
  | a :: rest =>
    if rest.any fails then behindFailures fails rest else if fails a then rest else a :: rest

theorem behindFailures_none {α : Type} {fails : α → Bool} {items : List α}
    (none : items.any fails = false) : behindFailures fails items = items := by
  cases items with
  | nil => rfl
  | cons a rest =>
    rw [List.any_cons, Bool.or_eq_false_iff] at none
    rw [behindFailures, none.1, none.2]
    rfl

namespace DomainCache

def sourcesOf (category : String) (sources : List DomainSource) : List DomainSource :=
  sources.filter fun s => s.category = category

/-- What the sources of a category yield that stand behind the last one that fails. -/
def late (o : CacheOptions) (store : Store) (category : String) (sources : List DomainSource) :
    List DomainEntry :=
  (behindFailures (fun s => s.fails o store) (sourcesOf category sources)).flatMap fun s => s.yields o store

/-- What a category should hold after a load: what its sources yield, or what it held if one of them
fails. -/
def promised (c : DomainCache) (store : Store) (category : String) (sources : List DomainSource) :
    List DomainEntry :=
  if (sourcesOf category sources).any fun s => s.fails c.options store then c.ofCategory category
  else (sourcesOf category sources).flatMap fun s => s.yields c.options store

def Loading.ofCategory (state : Loading) (category : String) : List DomainEntry :=
  (Assoc.get? category state.byCategory).getD []

theorem loadSource_ofCategory (c : DomainCache) (store : Store) (state : Loading) (s : DomainSource)
    (category : String) :
    (c.loadSource store state s).ofCategory category =
      if s.category = category then
        if s.fails c.options store then c.ofCategory category
        else state.ofCategory category ++ s.yields c.options store
      else state.ofCategory category := by
  unfold loadSource DomainSource.fails DomainSource.yields Loading.ofCategory
  cases s.load c.options.lengths c.options.rowLimit store with
  | ok found =>
    simp only [Assoc.get?_put]
    by_cases same : s.category = category
    · simp [same]
    · have apart : ¬ category = s.category := fun here => same here.symm
      simp [same, apart]
  | error error =>
    simp only [Assoc.get?_put]
    by_cases same : s.category = category
    · simp [same]
    · have apart : ¬ category = s.category := fun here => same here.symm
      simp [same, apart]

theorem loadSources_ofCategory (c : DomainCache) (store : Store) (sources : List DomainSource)
    (state : Loading) (category : String) :
    (sources.foldl (c.loadSource store) state).ofCategory category =
      (if (sourcesOf category sources).any fun s => s.fails c.options store then c.ofCategory category
        else state.ofCategory category) ++ late c.options store category sources := by
  induction sources generalizing state with
  | nil => simp [sourcesOf, late, behindFailures]
  | cons s rest ih =>
    rw [List.foldl_cons, ih, loadSource_ofCategory]
    by_cases mine : s.category = category
    · have front : sourcesOf category (s :: rest) = s :: sourcesOf category rest := by
        simp [sourcesOf, mine]
      simp only [late, front, behindFailures, List.any_cons, mine, ↓reduceIte]
      -- a failure further on overwrites whatever this source leaves
      cases later : (sourcesOf category rest).any fun s => s.fails c.options store with
      | true => simp
      | false =>
        rw [behindFailures_none later]
        cases s.fails c.options store with
        | true => simp
        | false => simp
    · have same : sourcesOf category (s :: rest) = sourcesOf category rest := by
        simp [sourcesOf, mine]
      simp only [late, same, mine, ↓reduceIte]

theorem refresh_ofCategory (c : DomainCache) (sources : List DomainSource) (store : Store)
    (category : String) :
    (c.refresh sources store).ofCategory category =
      if (sourcesOf category sources).any fun s => s.fails c.options store then
        c.ofCategory category ++ late c.options store category sources
      else (sourcesOf category sources).flatMap fun s => s.yields c.options store := by
  have loaded := loadSources_ofCategory c store sources {} category
  change (c.refresh sources store).ofCategory category = _ at loaded
  rw [loaded]
  cases failing : (sourcesOf category sources).any fun s => s.fails c.options store with
  | true => simp
  | false =>
    rw [late, behindFailures_none failing]
    simp [Loading.ofCategory, Assoc.get?]

theorem refresh_eq_promised (c : DomainCache) (sources : List DomainSource) (store : Store)
    (category : String) :
    (c.refresh sources store).ofCategory category = c.promised store category sources ↔
      (((sourcesOf category sources).any fun s => s.fails c.options store) = true →
        late c.options store category sources = []) := by
  rw [refresh_ofCategory, promised]
  cases failing : (sourcesOf category sources).any fun s => s.fails c.options store with
  | true => simp
  | false => simp

inductive LoadCall where
  | ensureLoaded
  | refresh

def call (sources : List DomainSource) (c : DomainCache) (step : LoadCall × Store) : DomainCache :=
  match step.1 with
  | .ensureLoaded => c.ensureLoaded sources step.2
  | .refresh => c.refresh sources step.2

def calls (sources : List DomainSource) (c : DomainCache) (steps : List (LoadCall × Store)) : DomainCache :=
  steps.foldl (call sources) c

def loadsOn (c : DomainCache) : LoadCall → Bool
  | .ensureLoaded => !c.isLoaded
  | .refresh => true

theorem call_eq (sources : List DomainSource) (c : DomainCache) (step : LoadCall × Store) :
    call sources c step = if c.loadsOn step.1 then c.refresh sources step.2 else c := by
  obtain ⟨kind, store⟩ := step
  cases kind with
  | ensureLoaded =>
    simp only [call, ensureLoaded, loadsOn]
    by_cases loaded : c.isLoaded = true <;> simp [loaded]
  | refresh => rfl

theorem call_options (sources : List DomainSource) (c : DomainCache) (step : LoadCall × Store) :
    (call sources c step).options = c.options := by
  rw [call_eq]
  split <;> rfl

theorem calls_options (sources : List DomainSource) (c : DomainCache) (steps : List (LoadCall × Store)) :
    (calls sources c steps).options = c.options := by
  induction steps generalizing c with
  | nil => rfl
  | cons step rest ih => exact (ih (call sources c step)).trans (call_options sources c step)

/-- Every load over an unchanged store in which a source of a category fails adds the same names to it. -/
theorem refreshes_ofCategory (c : DomainCache) (sources : List DomainSource) (store : Store)
    (category : String) (n : Nat)
    (failing : ((sourcesOf category sources).any fun s => s.fails c.options store) = true) :
    (calls sources c (List.replicate n (.refresh, store))).ofCategory category =
      c.ofCategory category ++ (List.replicate n (late c.options store category sources)).flatten := by
  induction n generalizing c with
  | zero => simp [calls]
  | succ n ih =>
    have first := refresh_ofCategory c sources store category
    rw [failing, if_pos rfl] at first
    have later := ih (c.refresh sources store) failing
    rw [first, List.append_assoc] at later
    rw [List.replicate_succ, List.replicate_succ, List.flatten_cons]
    exact later

/-- What a category holds after any calls and one more: a call that loads keeps the promise exactly if no
source of the category fails or those behind the last one that does yield nothing, and otherwise every such
load adds the same names again. -/
theorem calls_ofCategory (o : CacheOptions) (sources : List DomainSource)
    (steps : List (LoadCall × Store)) (kind : LoadCall) (store : Store) (category : String) :
    let before := calls sources { options := o } steps
    let after := call sources before (kind, store)
    let failing := (sourcesOf category sources).any fun s => s.fails o store
    let added := late o store category sources
    (after.ofCategory category =
      if before.loadsOn kind then
        if failing then before.ofCategory category ++ added
        else (sourcesOf category sources).flatMap fun s => s.yields o store
      else before.ofCategory category) ∧
      (before.loadsOn kind = true →
        (after.ofCategory category = before.promised store category sources ↔
          (failing = true → added = []))) ∧
        ∀ n, failing = true →
          (calls sources before (List.replicate n (.refresh, store))).ofCategory category =
            before.ofCategory category ++ (List.replicate n added).flatten := by
  intro before after failing added
  -- calls never change the options, so all loads see the same failures and entries
  have options : before.options = o := calls_options sources { options := o } steps
  have loaded := before.refresh_ofCategory sources store category
  have kept := before.refresh_eq_promised sources store category
  have repeated := fun n => before.refreshes_ofCategory sources store category n
  rw [options] at loaded kept repeated
  have here : after = if before.loadsOn kind then before.refresh sources store else before :=
    call_eq sources before (kind, store)
  rw [here]
  cases loads : before.loadsOn kind with
  | true => exact ⟨loaded, fun _ => kept, repeated⟩
  | false => exact ⟨rfl, nofun, repeated⟩

def recordFrame (record : Int) (name : String) : Frame :=
  { columns := [{ name := "id" }, { name := "name" }], rows := [[.int record, .text name]] }

def pairStore (failing : List String) : Store :=
  { contents := .memory [("a", recordFrame 1 "pen"), ("b", recordFrame 2 "ink")], failing := failing }

def pairSources : List DomainSource :=
  [{ category := "x", table := "a", valueColumns := ["name"] },
    { category := "x", table := "b", valueColumns := ["name"] }]

/-- If only the first of two sources fails, the category keeps its names and has those of the second one
again. -/
theorem second_source_repeated :
    let before := calls pairSources {} [(.ensureLoaded, pairStore [])]
    let after := call pairSources before (.refresh, pairStore ["a"])
    (before.ofCategory "x").map DomainEntry.display = ["pen", "ink"] ∧
      (before.promised (pairStore ["a"]) "x" pairSources).map DomainEntry.display = ["pen", "ink"] ∧
        (after.ofCategory "x").map DomainEntry.display = ["pen", "ink", "ink"] := by
  decide +kernel

end DomainCache

end TableTalk
