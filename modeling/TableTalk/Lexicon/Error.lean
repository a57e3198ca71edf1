import TableTalk.Text.Quoted

namespace TableTalk

inductive ShapeFault where
  | notAMapping
  | wrongType
deriving Repr, DecidableEq

inductive SourceFault where
  | missingKey (key : String)
  | textInstead
  | listInstead
  | scalarInstead (kind : String)
deriving Repr, DecidableEq

namespace SourceFault

def message : SourceFault → String
  | .missingKey key => Text.quoted key
  | .textInstead => "string indices must be integers, not 'str'"
  | .listInstead => "list indices must be integers or slices, not str"
  | .scalarInstead kind => s!"'{kind}' object is not subscriptable"

end SourceFault

inductive LexiconError where
  | fileNotFound (path : String)
  | unreadable (path : String)
  | documentNotMapping
  | noTables
  | tableNotMapping (table : String)
  | malformedHint (table : String)
  | noForeignKey (table target : String)
  | notAList (place kind : String)
  | synonymsNotMapping
  | synonymGroupNotMapping (group : String)
  | unsupportedComparison (operator : String)
  | malformedSource (index : Nat) (fault : SourceFault)
  | noHomeTable (category : String)
  | unknownTable (place table : String)
deriving Repr, DecidableEq

namespace LexiconError

def message : LexiconError → String
  | .fileNotFound path => s!"Lexicon file not found: {path}"
  | .unreadable path => s!"Lexicon file {path} is not valid YAML: the text has no reading"
  | .documentNotMapping => "Lexicon document must be a mapping"
  | .noTables => "Lexicon must declare at least one table under 'tables'"
  | .tableNotMapping table => s!"tables.{table} must be a mapping"
  | .malformedHint table => s!"tables.{table}.numeric_hints entries must be [keyword, column]"
  | .noForeignKey table target => s!"tables.{table}.relationships.{target} needs a foreign_key"
  | .notAList place kind => s!"{place} must be a list, got {kind}"
  | .synonymsNotMapping => "synonyms must be a mapping"
  | .synonymGroupNotMapping group => s!"synonyms.{group} must be a mapping"
  | .unsupportedComparison operator =>
    s!"comparisons.{operator}: only 'gt' and 'lt' are supported"
  | .malformedSource index fault =>
    s!"domain_sources[{index}] is malformed: " ++ fault.message
  | .noHomeTable category => s!"categories.{category} needs a home_table"
  | .unknownTable place table => s!"{place} refers to unknown table '{table}'"

end LexiconError

inductive LexiconFailure where
  | rejected (error : LexiconError)
  | fault (fault : ShapeFault)
deriving Repr, DecidableEq

end TableTalk
