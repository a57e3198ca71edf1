import TableTalk.Engine
import TableTalk.Service.Request

namespace TableTalk.Service

def version : String := "1.0.0"

inductive Address where
  | root
  | health
  | tag
  | query
  | suggestions
  | refresh
deriving Repr, DecidableEq

namespace Address

def all : List Address := [.root, .health, .tag, .query, .suggestions, .refresh]

def path : Address → String
  | .root => "/"
  | .health => "/api/health"
  | .tag => "/api/extract"
  | .query => "/api/query"
  | .suggestions => "/api/suggestions"
  | .refresh => "/api/cache/refresh"

def method : Address → String
  | .root | .health => "GET"
  | _ => "POST"

def plainPath (path : String) : String :=
  let chars := path.toList.takeWhile (· != '?')
  let cut := (chars.reverse.dropWhile (· == '/')).reverse
  if cut.isEmpty then "/" else String.ofList cut

def ofPath? (path : String) : Option Address :=
  all.find? fun address => address.path = plainPath path

end Address

structure Request where
  method : String := "POST"
  path : String
  body : Body := .absent

inductive Response where
  | ok (body : Value)
  | refused (status : Nat) (detail : String)
  | invalid (faults : List Fault)

namespace Response

def status : Response → Nat
  | .ok _ => 200
  | .refused status _ => status
  | .invalid _ => 422

def inOrder (faults : List Fault) : List (List String) :=
  let rows := faults.map fun fault => (".".intercalate fault.place, fault.kind)
  let sorted := rows.mergeSort fun a b => a.1 < b.1 || (a.1 == b.1 && a.2 ≤ b.2)
  sorted.map fun row => [row.1, row.2]

def body : Response → Value
  | .ok body => body
  | .refused _ detail => .record [("detail", .text detail)]
  | .invalid faults => .list ((inOrder faults).map .texts)

end Response

def refuse (fault : BodyFault) : Response :=
  match fault with
  | .faults faults => .invalid faults
  | .unparsable => .refused 400 "There was an error parsing the body"

def rootBody : Value :=
  .record [("status", .text "ok"), ("message", .text "Lexiquery API is running"),
    ("version", .text version)]

def statsValue (c : DomainCache) : Value :=
  .record (c.stats.map fun entry => (entry.1, .int entry.2))

def healthBody (g : Engine) : Value :=
  let names := Value.record [("loaded", .bool g.cache.isLoaded),
    ("values_by_category", statsValue g.cache)]
  match g.store.listTables with
  | .ok tables =>
    .record [("status", .text "healthy"), ("version", .text version), ("cache", names),
      ("tables", .texts tables)]
  | .error error =>
    .record [("status", .text "degraded"), ("version", .text version), ("cache", names),
      ("tables", .list []), ("error", .text error.message)]

def refreshBody (g : Engine) : Value :=
  .record [
    ("status", .text (if g.cache.errors.isEmpty then "ok" else "partial")),
    ("values_by_category", statsValue g.cache),
    ("errors", .record (g.cache.errors.map fun entry => (entry.1, .text entry.2)))]

def respond (g : Engine) (address : Address) (body : Body) : Response × Engine :=
  match address with
  | .root => (.ok rootBody, g)
  | .health => (.ok (healthBody g), { g with store := g.store.listed })
  | .tag => match TagRequest.ofBody body with
    | .error fault => (refuse fault, g)
    | .ok request =>
      let (entities, g) := g.tag request.userId request.text
      (.ok (.record [("entities", .list (entities.map Entity.toRecord))]), g)
  | .query => match QueryRequest.ofBody body with
    | .error fault => (refuse fault, g)
    | .ok request =>
      if Text.isBlankText request.text then (.refused 400 "Query text is required", g)
      else
        let (answer, g) := g.process request.userId (.text request.text)
        (.ok answer, g)
  | .suggestions => match SuggestRequest.ofBody body with
    | .error fault => (refuse fault, g)
    | .ok request =>
      let (found, g) := g.suggest request.query request.category request.limit
      (.ok (.record [("suggestions", .list (found.map Suggestion.toRecord))]), g)
  | .refresh =>
    let g := g.refresh
    (.ok (refreshBody g), g)

def handle (g : Engine) (request : Request) : Response × Engine :=
  match Address.ofPath? request.path with
  | none => (.refused 404 "Not Found", g)
  | some address =>
    if address.method = request.method then respond g address request.body
    else (.refused 405 "Method Not Allowed", g)

end TableTalk.Service
