import TableTalk.Tagging.Comparison
import TableTalk.Tagging.Directory
import TableTalk.Tagging.Vocabulary

namespace TableTalk

structure Asker where
  userId : Option String := none
  now : Moment
deriving Repr, DecidableEq

inductive PhraseMeaning where
  | names (entries : List DomainEntry)
  | keyword (k : Keyword)

structure PhraseIndex where
  version : Nat
  phrases : Phrasebook PhraseMeaning

structure Tagger where
  vocabulary : Vocabulary
  index : Option PhraseIndex := none

namespace Tagger

def ofLexicon (l : Lexicon) : Tagger :=
  { vocabulary := l.vocabulary }

structure Part where
  text : String
  span : Span

def part (question : List Char) (start stop : Nat) : Part :=
  ⟨Text.slice question start stop, ⟨start, stop⟩⟩

def tokenPart (question : List Char) (token : Token) : Part :=
  part question token.start token.stop

def tokenSpan (token : Token) : Span :=
  ⟨token.start, token.stop⟩

def tableEntity (p : Part) (word : TableWord) : Entity :=
  { text := p.text, kind := .table, span := p.span, confidence := word.confidence
    table := some word.table, canonical := .text word.table, isFilter := false
    hover := s!"Table: {word.table}" }

def pronounEntity (p : Part) (asker : Asker) : Entity :=
  let user := asker.userId.filter fun user => !user.isEmpty
  { text := p.text, kind := .pronoun, span := p.span, confidence := 0.9
    canonical := .ofText? asker.userId, category := some "user", recordId := .ofText? asker.userId
    isFilter := asker.userId.isSome
    hover := "User: " ++ user.getD "(anonymous)" }

def keywordEntity (p : Part) (k : Keyword) (confidence : Float) (now : Moment) :
    Except TagFault Entity := do
  let (canonical, hover) ← match k.kind with
    | .temporal => do
      let range ← (TimeRange.resolve k.canonical now).mapError .calendar
      pure (.range range, s!"Time: {TimeRange.describe k.canonical}")
    | .locationFilter => pure (.text k.canonical, s!"Location: {k.canonical}")
    | _ =>
      let label := Text.capitalize (k.category.getD "status")
      pure (Canonical.text k.canonical, s!"{label}: {k.canonical}")
  return {
    text := p.text, kind := k.kind, span := p.span, confidence := confidence
    canonical := canonical, category := k.category, hover := hover }

def maxAlternatives : Nat := 5

/-- The entity of names that were found. Only a match of a single record stands for that record. -/
def namesEntity (p : Part) (primary : DomainEntry) (others : List DomainEntry) (confidence : Float)
    (canonical : String) : Entity :=
  let records := DomainEntry.records (primary :: others)
  { text := p.text, kind := .domainValue, span := p.span, confidence := confidence
    table := some primary.table, canonical := .text canonical, category := some primary.category
    recordId := if records.length = 1 then primary.recordId else .null
    alternatives := ((records.drop 1).take maxAlternatives).map DomainEntry.display
    hover := s!"{Text.capitalize primary.category}: {primary.display}" }

def isSingle (entries : List DomainEntry) : Bool :=
  (DomainEntry.records entries).length = 1

def phraseEntity (p : Part) (now : Moment) : PhraseMeaning → Except TagFault (Option Entity)
  | .names [] => .ok none
  | .names (primary :: others) => .ok (some (namesEntity p primary others 0.95 primary.display))
  | .keyword k => (keywordEntity p k 0.9 now).map some

def minNearLength : Nat := 3

def nearEntity (d : Directory) (p : Part) (token : Token) : Except TagFault (Option Entity) := do
  match ← d.near token.text with
  | [] => return none
  | (primary, form) :: others =>
    let entries := others.map Prod.fst
    let confidence := if isSingle (primary :: entries) then 0.8 else 0.75
    return some (namesEntity p primary entries confidence form)

/-- The entity of a token that is a whole name, a form of a name or near one. Words of the vocabulary are
never taken for anything but whole names. -/
def nameEntity (v : Vocabulary) (d : Directory) (p : Part) (token : Token) :
    Except TagFault (Option Entity) := do
  match ← d.named token.text with
  | primary :: others => return some (namesEntity p primary others 0.95 primary.display)
  | [] =>
    if v.reserved.contains token.text then return none
    else match ← d.withForm token.text with
      | primary :: others =>
        let confidence := if isSingle (primary :: others) then 0.9 else 0.85
        return some (namesEntity p primary others confidence token.text)
      | [] => if minNearLength ≤ token.text.length then nearEntity d p token else return none

def comparisonEntity (p : Part) (comparisons : List (String × Bound)) (hit : ComparisonHit) :
    Except TagFault (Option Entity) :=
  match hit.bound? comparisons with
  | none => .ok none
  | some bound => match hit.number with
    | .error _ => .error .numeral
    | .ok value =>
      let operator : Operator := match bound with
        | .above => .gt
        | .below => .lt
      .ok <| some {
        text := p.text, kind := .numericFilter, span := p.span, confidence := 0.9
        canonical := .comparison ⟨operator, value⟩
        hover := s!"Filter: {operator.symbol} {String.ofList hit.numeral}" }

def tokenPass {β : Type} (tokens : List Token) (find : Token → Option β)
    (build : Token → β → Except TagFault (Option Entity)) : Pass := fun claims =>
  let candidates := tokens.filterMap fun token => (find token).map fun found => (token, found)
  Claims.sweep (fun entry => tokenSpan entry.1) (fun entry => build entry.1 entry.2) claims candidates

def tablePass (v : Vocabulary) (question : List Char) (tokens : List Token) : Pass :=
  tokenPass tokens (fun token => Assoc.get? token.text v.tableWords) fun token word =>
    .ok (some (tableEntity (tokenPart question token) word))

def phrasePass (v : Vocabulary) (names : Phrasebook PhraseMeaning) (asker : Asker)
    (question : List Char) (tokens : List Token) : Pass := fun claims =>
  let keywordHits := (v.phrases.hits tokens).map fun hit => { hit with meaning := .keyword hit.meaning }
  let hits := Hit.longestFirst (names.hits tokens ++ keywordHits)
  Claims.sweep (fun hit => (⟨hit.start, hit.stop⟩ : Span))
    (fun hit => phraseEntity (part question hit.start hit.stop) asker.now hit.meaning) claims hits

def namePass (v : Vocabulary) (directory : Option Directory) (question : List Char)
    (tokens : List Token) : Pass := fun claims =>
  match directory with
  | none => (claims, .ok [])
  | some d => match d.load with
    | .error fault => (claims, .error fault)
    | .ok () =>
      tokenPass tokens (fun token => if token.isNumber then none else some ())
        (fun token _ => nameEntity v d (tokenPart question token) token) claims

def pronounPass (v : Vocabulary) (asker : Asker) (question : List Char) (tokens : List Token) : Pass :=
  tokenPass tokens (fun token => if v.pronouns.contains token.text then some () else none)
    fun token _ => .ok (some (pronounEntity (tokenPart question token) asker))

def temporalPass (v : Vocabulary) (asker : Asker) (question : List Char) (tokens : List Token) : Pass :=
  tokenPass tokens (fun token => Assoc.get? token.text v.temporalWords) fun token k =>
    (keywordEntity (tokenPart question token) k 0.9 asker.now).map some

def comparisonPass (v : Vocabulary) (question : List Char) : Pass := fun claims =>
  Claims.sweep (fun hit => (⟨hit.start, hit.stop⟩ : Span))
    (fun hit => comparisonEntity (part question hit.start hit.stop) v.comparisons hit) claims
    (ComparisonHit.scan v.comparisons question)

def keywordPass (v : Vocabulary) (asker : Asker) (question : List Char) (tokens : List Token) : Pass :=
  tokenPass tokens (fun token => Assoc.get? token.text v.keywords) fun token k =>
    (keywordEntity (tokenPart question token) k 0.8 asker.now).map some

def namePhrases (names : List (List String × DomainEntry)) : Phrasebook PhraseMeaning :=
  .ofList ((Assoc.groupBy Prod.fst names).map fun group => (group.1, .names (group.2.map Prod.snd)))

/-- The phrases of the known names, collected anew if the names changed; without an answer from the
directory there are none. -/
def indexed (t : Tagger) (directory : Option Directory) : Phrasebook PhraseMeaning × Tagger :=
  match directory with
  | none => ({}, t)
  | some d => match d.load with
    | .error _ => ({}, t)
    | .ok () => match t.index.filter fun index => index.version = d.version with
      | some index => (index.phrases, t)
      | none => match d.multiword with
        | .error _ => ({}, t)
        | .ok names =>
          let phrases := namePhrases names
          (phrases, { t with index := some ⟨d.version, phrases⟩ })

def passes (v : Vocabulary) (names : Phrasebook PhraseMeaning) (directory : Option Directory)
    (asker : Asker) (question : List Char) : List Pass :=
  let tokens := Token.scan question
  [ tablePass v question tokens,
    phrasePass v names asker question tokens,
    namePass v directory question tokens,
    pronounPass v asker question tokens,
    temporalPass v asker question tokens,
    comparisonPass v question,
    keywordPass v asker question tokens ]

def tag (t : Tagger) (directory : Option Directory) (asker : Asker) (question : String) :
    List Entity × Tagger :=
  if Text.isBlankText question then ([], t)
  else
    let (names, t) := t.indexed directory
    let (_, found) := Pass.run (passes t.vocabulary names directory asker question.toList) []
    (Entity.inOrder found, t)

end Tagger

end TableTalk
