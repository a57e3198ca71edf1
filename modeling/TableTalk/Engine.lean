import TableTalk.Execution
import TableTalk.Filter.Compile
import TableTalk.Routing
import TableTalk.Store.Records
import TableTalk.Summary
import TableTalk.Tagging.Tagger

namespace TableTalk

inductive QuestionFault where
  | notTaggable (kind : String)
  | notSplittable (kind : String)
deriving Repr, DecidableEq

def QuestionFault.message : QuestionFault → String
  | .notTaggable kind => s!"'{kind}' object has no attribute 'strip'"
  | .notSplittable kind => s!"expected string or bytes-like object, got '{kind}'"

structure Engine where
  store : Store
  lexicon : Lexicon
  cache : DomainCache
  tagger : Tagger
  execution : ExecutionOptions
  now : Moment

namespace Engine

def create (store : Store) (lexicon : Lexicon) (cache : CacheOptions) (execution : ExecutionOptions)
    (now : Moment) : Engine :=
  { store := store, lexicon := lexicon, cache := .unloaded cache
    tagger := .ofLexicon lexicon, execution := execution, now := now }

def loaded (g : Engine) : Engine :=
  if g.cache.isLoaded then g
  else
    let sources := g.lexicon.domainSources
    { g with
      cache := g.cache.ensureLoaded sources g.store
      store := DomainCache.storeAfterLoad sources g.store }

def refresh (g : Engine) : Engine :=
  let sources := g.lexicon.domainSources
  { g with
    cache := g.cache.refresh sources g.store
    store := DomainCache.storeAfterLoad sources g.store }

def tag (g : Engine) (userId : Option String) (question : String) : List Entity × Engine :=
  if Text.isBlankText question then ([], g)
  else
    let g := g.loaded
    let (entities, tagger) := g.tagger.tag (some (.ofCache g.cache)) ⟨userId, g.now⟩ question
    (entities, { g with tagger := tagger })

def extract (g : Engine) (userId : Option String) (question : Value) :
    Except QuestionFault (List Entity) × Engine :=
  match question with
  | .text s =>
    let (entities, g) := g.tag userId s
    (.ok entities, g)
  | value => if value.isEmpty then (.ok [], g) else (.error (.notTaggable value.kind), g)

def compileAll (g : Engine) (tables : List String) (entities : List Entity) (question : Value) :
    Except QuestionFault (List (String × List Predicate)) :=
  tables.mapM fun table => match g.lexicon.taxonomy? table with
    | none => .ok (table, [])
    | some taxonomy => match question with
      | .text s => .ok (table, Filter.compile table taxonomy entities s g.lexicon.homeTables)
      | value => .error (.notSplittable value.kind)

def suggest (g : Engine) (query : String) (category : Option String) (limit : Int) :
    List Suggestion × Engine :=
  let g := g.loaded
  (g.cache.suggest query category limit, g)

structure Run where
  entities : List Entity
  routing : Routing
  predicates : List (String × List Predicate)
  execution : Execution

namespace Run

def summary (r : Run) : Summary :=
  .of r.execution.frames r.execution.errors r.entities r.predicates

def rows (r : Run) : List (String × List (List (String × Value))) :=
  r.execution.frames.map fun entry => (entry.1, entry.2.toRecords)

def mergedRows (r : Run) : List (List (String × Value)) :=
  r.rows.flatMap fun entry => entry.2.map fun record =>
    record.foldl (fun merged field => Assoc.put field.1 field.2 merged) [("_table", .text entry.1)]

end Run

def run (g : Engine) (userId : Option String) (question : Value) : Except QuestionFault Run × Engine :=
  match g.extract userId question with
  | (.error fault, g) => (.error fault, g)
  | (.ok entities, g) =>
    let routing := Routing.route g.lexicon entities
    match g.compileAll routing.tables entities question with
    | .error fault => (.error fault, g)
    | .ok predicates =>
      let execution := Execution.run g.store g.execution routing.tables predicates
      (.ok ⟨entities, routing, predicates, execution⟩,
        { g with store := g.store.afterSelect routing.tables })

def metadata (g : Engine) (userId : Option String) (method : Option RoutingMethod) : Value :=
  .record [("user_id", .ofText? userId), ("now", .text g.now.iso),
    ("routing_method", .ofText? (method.map RoutingMethod.name))]

def answer (g : Engine) (userId : Option String) (question : Value) (r : Run) : Value :=
  let summary := r.summary
  let rowsValue (rows : List (List (String × Value))) : Value := .list (rows.map .record)
  .record [
    ("question", question),
    ("entities", .list (r.entities.map Entity.toRecord)),
    ("target_tables", .texts r.routing.tables),
    ("routing", .record (r.routing.reasons.map fun entry => (entry.1, .text entry.2))),
    ("predicates", .record (r.predicates.map fun entry =>
      (entry.1, .list (entry.2.map Predicate.toRecord)))),
    ("rows_by_table", .record (r.rows.map fun entry => (entry.1, rowsValue entry.2))),
    ("merged_rows", rowsValue r.mergedRows),
    ("counts", .record (summary.counts.map fun entry => (entry.1, .int entry.2))),
    ("total_rows", .int summary.totalRows),
    ("summary_text", .text summary.text),
    ("applied_filters", .texts summary.appliedFilters),
    ("homogeneity", .float summary.homogeneity),
    ("errors_by_table", .record (r.execution.errors.map fun entry => (entry.1, .text entry.2))),
    ("error", .null),
    ("metadata", g.metadata userId (some r.routing.method))]

def failure (g : Engine) (userId : Option String) (question : Value) (fault : QuestionFault) : Value :=
  let error := fault.message
  .record [
    ("question", question), ("entities", .list []), ("target_tables", .list []),
    ("routing", .record []), ("predicates", .record []), ("rows_by_table", .record []),
    ("merged_rows", .list []), ("counts", .record []), ("total_rows", .int 0),
    ("summary_text", .text s!"Sorry, that question could not be processed ({error})."),
    ("applied_filters", .list []), ("homogeneity", .float 0), ("errors_by_table", .record []),
    ("error", .text error), ("metadata", g.metadata userId none)]

def process (g : Engine) (userId : Option String) (question : Value) : Value × Engine :=
  match g.run userId question with
  | (.ok r, g) => (g.answer userId question r, g)
  | (.error fault, g) => (g.failure userId question fault, g)

end Engine

end TableTalk
