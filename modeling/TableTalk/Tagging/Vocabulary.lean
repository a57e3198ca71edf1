import TableTalk.Entity.Basic
import TableTalk.Lexicon.Basic
import TableTalk.Phrase

namespace TableTalk

structure Keyword where
  kind : EntityKind
  canonical : String
  category : Option String := none
deriving Repr, DecidableEq

structure Vocabulary where
  tableWords : List (String × TableWord)
  reserved : List String
  pronouns : List String
  phrases : Phrasebook Keyword
  temporalWords : List (String × Keyword)
  keywords : List (String × Keyword)
  comparisons : List (String × Bound)

namespace SynonymGroup

def collected : List SynonymGroup := [.temporal, .status, .priority, .location]

def keyword (group : SynonymGroup) (canonical : String) : Keyword :=
  match group with
  | .temporal => ⟨.temporal, canonical, none⟩
  | .status => ⟨.statusFilter, canonical, some "status"⟩
  | .priority => ⟨.statusFilter, canonical, some "priority"⟩
  | .location => ⟨.locationFilter, canonical, none⟩

end SynonymGroup

namespace Lexicon

def keywordPhrases (l : Lexicon) : List (List String × Keyword) :=
  SynonymGroup.collected.flatMap fun group =>
    (l.synonymPhrases group).map fun entry => (entry.1, group.keyword entry.2)

def longPhrases (l : Lexicon) : List (List String × Keyword) :=
  l.keywordPhrases.filter fun entry => 1 < entry.1.length

def keywordWords (l : Lexicon) : List (String × Keyword) :=
  l.keywordPhrases.filterMap fun entry => match entry.1 with
    | [word] => some (word, entry.2)
    | _ => none

def vocabulary (l : Lexicon) : Vocabulary :=
  { tableWords := l.tableWords
    reserved := l.reservedWords
    pronouns := l.pronouns
    phrases := .ofList l.longPhrases
    temporalWords := l.keywordWords.filter fun entry => entry.2.kind = .temporal
    keywords := l.keywordWords.filter fun entry => entry.2.kind ≠ .temporal
    comparisons := l.comparisonPhrases }

end Lexicon

end TableTalk
