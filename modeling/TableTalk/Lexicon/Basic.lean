import TableTalk.Lexicon.Taxonomy
import TableTalk.Text.Token
import TableTalk.Text.Quoted

namespace TableTalk

inductive SynonymGroup where
  | status
  | priority
  | location
  | temporal
deriving Repr, DecidableEq

namespace SynonymGroup

def all : List SynonymGroup := [.status, .priority, .location, .temporal]

def name : SynonymGroup → String
  | .status => "status"
  | .priority => "priority"
  | .location => "location"
  | .temporal => "temporal"

def ofName? (name : String) : Option SynonymGroup :=
  all.find? fun group => group.name = name

end SynonymGroup

inductive Bound where
  | above
  | below
deriving Repr, DecidableEq

namespace Bound

def name : Bound → String
  | .above => "gt"
  | .below => "lt"

def ofName? : String → Option Bound
  | "gt" => some .above
  | "lt" => some .below
  | _ => none

end Bound

structure DomainSource where
  category : String
  table : String
  idColumn : String := "id"
  valueColumns : List String
deriving Repr, DecidableEq

structure CategoryRouting where
  category : String
  homeTable : String
  defaultTables : List String
deriving Repr, DecidableEq

abbrev SynonymList := List (String × List String)

structure Synonyms where
  status : SynonymList := []
  priority : SynonymList := []
  location : SynonymList := []
  temporal : SynonymList := []
deriving Repr, DecidableEq

def Synonyms.inGroup (s : Synonyms) : SynonymGroup → SynonymList
  | .status => s.status
  | .priority => s.priority
  | .location => s.location
  | .temporal => s.temporal

structure Lexicon where
  tables : List Taxonomy
  synonyms : Synonyms := {}
  pronouns : List String := []
  comparisons : List (Bound × List String) := []
  stopWords : List String := []
  domainSources : List DomainSource := []
  categories : List CategoryRouting := []
  fallbackTables : List String := []
  personalTables : List String := []
deriving Repr, DecidableEq

structure TableWord where
  table : String
  confidence : Float

inductive LookupError where
  | unknownTable (table : String)
  | unknownRole (role : String)
deriving Repr, DecidableEq

def LookupError.message : LookupError → String
  | .unknownTable table => Text.quoted s!"Table '{table}' is not in the lexicon"
  | .unknownRole role => Text.quoted s!"Unknown column role: {role}"

namespace Lexicon

def tableNames (l : Lexicon) : List String :=
  l.tables.map Taxonomy.table

def hasTable (l : Lexicon) (table : String) : Bool :=
  l.tableNames.contains table

def taxonomy? (l : Lexicon) (table : String) : Option Taxonomy :=
  l.tables.find? fun t => t.table = table

def taxonomy (l : Lexicon) (table : String) : Except LookupError Taxonomy :=
  match l.taxonomy? table with
  | some t => .ok t
  | none => .error (.unknownTable table)

/-- The words for tables. A table's own name beats every alias, and of two tables with the same alias
the earlier one has it. -/
def tableWords (l : Lexicon) : List (String × TableWord) :=
  let aliases := l.tables.flatMap fun t => t.aliases.map fun word => (Text.lower word, t.table)
  let byAlias := aliases.foldl (fun words entry => Assoc.putNew entry.1 ⟨entry.2, 0.9⟩ words) []
  l.tableNames.foldl (fun words name => Assoc.put (Text.lower name) ⟨name, 0.95⟩ words) byAlias

def declaresRelation (l : Lexicon) (one other : String) : Bool :=
  (l.taxonomy? one).any fun t => Assoc.has other t.relationships

def isRelated (l : Lexicon) (table other : String) : Bool :=
  l.hasTable other && table != other &&
    (l.declaresRelation table other || l.declaresRelation other table)

def relatedTables (l : Lexicon) (table : String) : List String :=
  l.tableNames.filter (l.isRelated table)

def categoryRouting? (l : Lexicon) (category : String) : Option CategoryRouting :=
  l.categories.find? fun routing => routing.category = category

def homeTables (l : Lexicon) : List (String × String) :=
  l.categories.map fun routing => (routing.category, routing.homeTable)

def synonymPhrases (l : Lexicon) (group : SynonymGroup) : List (List String × String) :=
  (l.synonyms.inGroup group).flatMap fun entry =>
    entry.2.filterMap fun phrase =>
      match Text.wordsOf phrase with
      | [] => none
      | words => some (words, entry.1)

def comparisonPhrases (l : Lexicon) : List (String × Bound) :=
  let pairs := l.comparisons.flatMap fun entry =>
    entry.2.map fun phrase => (Text.lower phrase, entry.1)
  pairs.mergeSort fun a b => b.1.length ≤ a.1.length

def reservedWords (l : Lexicon) : List String :=
  Assoc.distinct <|
    l.pronouns ++ l.stopWords
      ++ SynonymGroup.all.flatMap (fun group => (l.synonymPhrases group).flatMap Prod.fst)
      ++ l.comparisonPhrases.flatMap (fun entry => Text.wordsOf entry.1)
      ++ Assoc.keys l.tableWords

end Lexicon

end TableTalk
