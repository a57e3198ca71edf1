import TableTalk.Domain.Entry

namespace TableTalk

structure CacheOptions where
  rowLimit : Value := .int 500
  lengths : PrefixLengths := {}

/-- Where names are looked up: under their keys, under every one of their forms, and under their whole forms
alone. Names with the same key or form stand in the order in which they were added. -/
structure NameIndex where
  byKey : List (String × List DomainEntry) := []
  byForm : List (String × List DomainEntry) := []
  byWhole : List (String × List DomainEntry) := []

namespace NameIndex

def add (index : NameIndex) (e : DomainEntry) : NameIndex :=
  { byKey := Assoc.addTo e.key e index.byKey
    byForm := e.forms.all.foldl (fun found form => Assoc.addTo form e found) index.byForm
    byWhole := e.forms.whole.foldl (fun found form => Assoc.addTo form e found) index.byWhole }

def of (entries : List DomainEntry) : NameIndex :=
  entries.foldl add {}

end NameIndex

structure Snapshot where
  version : Nat := 0
  byCategory : List (String × List DomainEntry) := []
  index : NameIndex := .of (byCategory.flatMap Prod.snd)
  indexed : index = .of (byCategory.flatMap Prod.snd) := by rfl

structure DomainCache extends Snapshot where
  options : CacheOptions := {}
  isLoaded : Bool := false
  loads : Nat := 0
  errors : List (String × String) := []

structure Suggestion where
  value : String
  category : String
  table : String
  recordId : Value
  score : Float

namespace Suggestion

def toRecord (s : Suggestion) : Value :=
  .record [("value", .text s.value), ("category", .text s.category), ("table", .text s.table),
    ("record_id", s.recordId), ("score", .float s.score)]

end Suggestion

namespace DomainCache

def unloaded (options : CacheOptions := {}) : DomainCache :=
  { options := options }

def ofCategory (c : DomainCache) (category : String) : List DomainEntry :=
  (Assoc.get? category c.byCategory).getD []

def entries (c : DomainCache) (category : Option String) : List DomainEntry :=
  match category with
  | some category => c.ofCategory category
  | none => c.byCategory.flatMap Prod.snd

def stats (c : DomainCache) : List (String × Nat) :=
  c.byCategory.map fun entry => (entry.1, entry.2.length)

structure Loading where
  byCategory : List (String × List DomainEntry) := []
  errors : List (String × String) := []

/-- Adds what a source yields to its category. If the source fails, the category falls back to the names
it had before the load. -/
def loadSource (c : DomainCache) (store : Store) (state : Loading) (source : DomainSource) : Loading :=
  match source.load c.options.lengths c.options.rowLimit store with
  | .ok found =>
    let before := (Assoc.get? source.category state.byCategory).getD []
    { state with byCategory := Assoc.put source.category (before ++ found) state.byCategory }
  | .error error =>
    { byCategory := Assoc.put source.category (c.ofCategory source.category) state.byCategory
      errors := Assoc.put source.category error.message state.errors }

def refresh (c : DomainCache) (sources : List DomainSource) (store : Store) : DomainCache :=
  let loaded := sources.foldl (c.loadSource store) {}
  { toSnapshot := { version := c.version + 1, byCategory := loaded.byCategory }
    options := c.options
    isLoaded := true
    loads := c.loads + 1
    errors := loaded.errors }

def ensureLoaded (c : DomainCache) (sources : List DomainSource) (store : Store) : DomainCache :=
  if c.isLoaded then c else c.refresh sources store

def storeAfterLoad (sources : List DomainSource) (store : Store) : Store :=
  store.afterSelect (sources.map DomainSource.table)

def named (c : DomainCache) (key : String) : List DomainEntry :=
  (Assoc.get? (Variations.normalized key) c.index.byKey).getD []

def withForm (c : DomainCache) (token : String) : List DomainEntry :=
  (Assoc.get? (Text.lower token) c.index.byForm).getD []

def multiword (c : DomainCache) : List (List String × DomainEntry) :=
  let ordered := c.index.byKey.flatMap Prod.snd
  (ordered.map fun e => (e.words, e)).filter fun entry => 1 < entry.1.length

def defaultNearLength : Int := 4

/-- Whether a form is near a token: the token contains the form, which is long enough, or the form starts
as the token does. -/
def isNear (least : Int) (token form : String) : Bool :=
  (least ≤ form.length && Text.contains token form) || Text.startsWith form (Text.front token least)

def keepShorter (form : String) (e : DomainEntry) : List (DomainEntry × String) → List (DomainEntry × String)
  | [] => [(e, form)]
  | found :: rest =>
    if e.sameName found.1 then (if form.length < found.2.length then (e, form) else found) :: rest
    else found :: keepShorter form e rest

/-- The names with a whole form that is near a token, each with the shortest one. Of forms of the same length
the one that came into the index first counts. -/
def nearest (c : DomainCache) (least : Int) (token : String) : List (DomainEntry × String) :=
  (c.index.byWhole.filter fun group => isNear least token group.1).foldl
    (fun found group => group.2.foldl (fun found e => keepShorter group.1 e found) found) []

/-- The names near a token, each with the shortest form that is; names with shorter forms come first, and
those with equally long ones in the order of their texts. -/
def near (c : DomainCache) (token : String) (least : Int) : List (DomainEntry × String) :=
  (c.nearest least (Text.lower token)).mergeSort fun a b =>
    a.2.length < b.2.length || (a.2.length == b.2.length && a.1.display ≤ b.1.display)

def score? (query : String) (e : DomainEntry) : Option Float :=
  if (e.key :: e.forms.all).any fun form => Text.contains form query then
    some (if (e.key :: e.words).any fun word => Text.startsWith word query then 0.9 else 0.7)
  else none

def suggestions (c : DomainCache) (query : String) (category : Option String) : List Suggestion :=
  let query := Variations.normalized query
  if query.isEmpty then []
  else
    let found := (c.entries category).filterMap fun e =>
      (score? query e).map fun score =>
        (⟨e.display, e.category, e.table, e.recordId, score⟩ : Suggestion)
    found.mergeSort fun a b =>
      b.score < a.score || (a.score == b.score && Text.lower a.value ≤ Text.lower b.value)

def suggest (c : DomainCache) (query : String) (category : Option String) (limit : Int) :
    List Suggestion :=
  let found := c.suggestions query category
  found.take (Text.frontCount found.length limit)

end DomainCache

end TableTalk
