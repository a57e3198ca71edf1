import TableTalk.Assoc
import TableTalk.Calendar.Date
import TableTalk.Calendar.Moment
import TableTalk.Calendar.Period
import TableTalk.Decimal.Binary
import TableTalk.Decimal.Fixed
import TableTalk.Decimal.Layout
import TableTalk.Decimal.Numeral
import TableTalk.Decimal.Shortest
import TableTalk.Demo.Arguments
import TableTalk.Demo.Lexicon
import TableTalk.Demo.Seed
import TableTalk.Demo.Tables
import TableTalk.Document.Json
import TableTalk.Document.JsonText
import TableTalk.Document.Yaml.Cursor
import TableTalk.Document.Yaml.Node
import TableTalk.Document.Yaml.Scalar
import TableTalk.Domain.Cache
import TableTalk.Domain.Entry
import TableTalk.Domain.Variations
import TableTalk.Engine
import TableTalk.Entity.Basic
import TableTalk.Entity.Span
import TableTalk.Execution
import TableTalk.Filter.Compile
import TableTalk.Filter.Operator
import TableTalk.Filter.Predicate
import TableTalk.Lexicon.Basic
import TableTalk.Lexicon.Error
import TableTalk.Lexicon.File
import TableTalk.Lexicon.Reading
import TableTalk.Lexicon.Taxonomy
import TableTalk.Main
import TableTalk.Phrase
import TableTalk.Routing
import TableTalk.Service.Request
import TableTalk.Service.Routes
import TableTalk.Settings.Basic
import TableTalk.Settings.Check
import TableTalk.Settings.Options
import TableTalk.Sql.Clause
import TableTalk.Sql.Identifier
import TableTalk.Sql.Lexeme
import TableTalk.Sql.Meaning
import TableTalk.Sql.Pattern
import TableTalk.Sql.Query
import TableTalk.Sql.Rejection
import TableTalk.Sql.Statement
import TableTalk.Store.Basic
import TableTalk.Store.Database
import TableTalk.Store.Frame
import TableTalk.Store.Records
import TableTalk.Summary
import TableTalk.Tagging.Claims
import TableTalk.Tagging.Comparison
import TableTalk.Tagging.Directory
import TableTalk.Tagging.Tagger
import TableTalk.Tagging.Vocabulary
import TableTalk.Text.Blank
import TableTalk.Text.Case
import TableTalk.Text.CaseTable
import TableTalk.Text.Digit
import TableTalk.Text.Printable
import TableTalk.Text.Quoted
import TableTalk.Text.Range
import TableTalk.Text.Run
import TableTalk.Text.Substring
import TableTalk.Text.Token
import TableTalk.Text.Word
import TableTalk.Value
import TableTalk.Value.Shown
import TableTalk.Proofs.Sql.Pattern
import TableTalk.Proofs.Sql.Scanning
import TableTalk.Proofs.Sql.Lexemes
import TableTalk.Proofs.Sql.Reading
import TableTalk.Proofs.Assoc
import TableTalk.Proofs.Outcome
import TableTalk.Proofs.Sql.Truth
import TableTalk.Proofs.Sql.Satisfaction
import TableTalk.Proofs.Tagging.Candidates
import TableTalk.Proofs.Tagging.Placement
import TableTalk.Proofs.Tagging.Losses
import TableTalk.Proofs.Domain.Index
import TableTalk.Proofs.Domain.Loading
import TableTalk.Proofs.Tagging.LetterCase
import TableTalk.Proofs.Routing
import TableTalk.Proofs.Phrase
import TableTalk.Proofs.Tagging.Precedence
import TableTalk.Proofs.Text.Fields
import TableTalk.Proofs.Text.Spacing
import TableTalk.Proofs.Tagging.Scanning
import TableTalk.Proofs.Tagging.Spacing
import TableTalk.Proofs.Text.Words
import TableTalk.Proofs.Domain.Matching
import TableTalk.Proofs.Domain.Views
import TableTalk.Proofs.Tagging.Matching
import TableTalk.Proofs.Tagging.Pinning
import TableTalk.Proofs.Domain.Entries
import TableTalk.Proofs.Tagging.Verbatim
import TableTalk.Proofs.Sql.Tidying
import TableTalk.Proofs.Sql.Refusing
import TableTalk.Proofs.Sql.Statements
import TableTalk.Proofs.Store.Lookups
import TableTalk.Proofs.Filter.Accepting
import TableTalk.Proofs.Summary
import TableTalk.Proofs.Sql.Outlines
import TableTalk.Proofs.Tagging.Coverage
import TableTalk.Proofs.Tagging.Degradation
import TableTalk.Proofs.Tagging.Contexts
import TableTalk.Proofs.Execution
import TableTalk.Proofs.Lexicon.Reading
import TableTalk.Proofs.Routing.Reaching
import TableTalk.Proofs.Tagging.Naming
import TableTalk.Proofs.Calendar.Ranges
import TableTalk.Proofs.Tagging.Longest
import TableTalk.Proofs.Engine.Freshness
import TableTalk.Proofs.Engine.Answers
import TableTalk.Proofs.Sql.Likeness
import TableTalk.Proofs.Routing.Ordering
import TableTalk.Proofs.Filter.Licensing
import TableTalk.Proofs.Sql.Wording
import TableTalk.Proofs.Sql.Rendering
import TableTalk.Proofs.Tagging.ComparisonReading
import TableTalk.Proofs.Decimal.Exact
import TableTalk.Proofs.Value
import TableTalk.Proofs.Domain.Nearest
import TableTalk.Proofs.Domain.Enumerations
import TableTalk.Proofs.Domain.Suggestions
import TableTalk.Proofs.Tagging.ComparisonPhrases
import TableTalk.Proofs.Text.Lines
import TableTalk.Proofs.Summary.Counting
import TableTalk.Proofs.Firsts
import TableTalk.Proofs.Summary.Filters
import TableTalk.Proofs.Phrase.Inserting
import TableTalk.Proofs.Domain.Cells
import TableTalk.Proofs.Text.Tokens
import TableTalk.Proofs.Tagging.Reserved
import TableTalk.Proofs.Sql.Ordering
import TableTalk.Proofs.Settings.Reading
import TableTalk.Proofs.Calendar.Shifts
