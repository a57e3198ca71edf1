import TableTalk.Sql.Clause

namespace TableTalk.Sql

structure Statement where
  text : String
  params : List Value

namespace Statement

/-- A limit is a positive integer, and the truth values count as integers. -/
def checkLimit (limit : Value) : Except Rejection Unit :=
  match limit.asInt? with
  | some n => if 0 < n then .ok () else .error (.badLimit limit.shownInside)
  | none => .error (.badLimit limit.shownInside)

def select (table : String) (candidates : List Candidate) (limit : Value) :
    Except Rejection Statement := do
  checkName "table" table
  checkLimit limit
  let clause ← Clause.ofCandidates candidates
  return {
    text := Text.collapse
      s!"SELECT * FROM {quoteIdentifier table} {clause.text} LIMIT {limit.shown}"
    params := clause.params }

def count (table : String) (candidates : List Candidate) : Except Rejection Statement := do
  checkName "table" table
  let clause ← Clause.ofCandidates candidates
  return {
    text := Text.collapse s!"SELECT COUNT(*) AS n FROM {quoteIdentifier table} {clause.text}"
    params := clause.params }

def literal : Value → String
  | .date d => "'" ++ d.iso ++ "'"
  | .moment m => "'" ++ m.iso ++ "'"
  | .text s => enclosed Text.singleQuote s
  | value => value.shown

/-- The text of a statement with its values put in for display, each in place of the first placeholder
that is left. -/
def render (s : Statement) : String :=
  String.ofList (s.params.foldl
    (fun text value => Text.replaceFirst '?' (literal value).toList text) s.text.toList)

end Statement

end TableTalk.Sql
