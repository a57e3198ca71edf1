import TableTalk.Sql.Lexeme

namespace TableTalk.Sql

inductive Operand where
  | column (name : String)
  | asText (column : String)
  | lowered (inner : Operand)
  | value (v : Value)

inductive Comparator where
  | equal
  | above
  | below
  | atLeast
  | atMost
  | like (escape : Option Char)
deriving Repr, DecidableEq

inductive Expr where
  | compare (left : Operand) (comparator : Comparator) (right : Operand)
  | and (left right : Expr)
  | or (left right : Expr)

inductive Result where
  | rows (limit : Option Nat)
  | count
deriving Repr, DecidableEq

structure Query where
  table : String
  condition : Option Expr
  result : Result

namespace Query

def keywords : List String :=
  ["ALL", "ANALYSE", "ANALYZE", "AND", "ANTI", "ANY", "ARRAY", "AS", "ASC", "ASOF", "ASYMMETRIC",
    "BOTH", "CASE", "CHECK", "COLLATE", "COLLATION", "COLUMN", "CONCURRENTLY", "CONSTRAINT",
    "CREATE", "CROSS", "DEFAULT", "DEFERRABLE", "DESC", "DESCRIBE", "DISTINCT", "DO", "ELSE", "END",
    "EXCEPT", "FALSE", "FETCH", "FOR", "FOREIGN", "FREEZE", "FROM", "FULL", "GLOB", "GRANT", "GROUP",
    "HAVING", "ILIKE", "IN", "INITIALLY", "INNER", "INTERSECT", "INTO", "IS", "ISNULL", "JOIN",
    "LATERAL", "LEADING", "LEFT", "LIKE", "LIMIT", "NATURAL", "NOT", "NOTNULL", "NULL", "OFFSET", "ON",
    "ONLY", "OR", "ORDER", "OUTER", "OVERLAPS", "PIVOT", "PIVOT_LONGER", "PIVOT_WIDER", "PLACING",
    "POSITIONAL", "PRIMARY", "QUALIFY", "REFERENCES", "RETURNING", "RIGHT", "SELECT", "SEMI", "SHOW",
    "SIMILAR", "SOME", "SUMMARIZE", "SYMMETRIC", "TABLE", "TABLESAMPLE", "THEN", "TO", "TRAILING",
    "TRUE", "UNION", "UNIQUE", "UNPIVOT", "USING", "VARIADIC", "VERBOSE", "WHEN", "WHERE", "WINDOW",
    "WITH"]

abbrev Step (α : Type) := Option (α × List Lexeme)

def keyword (word : String) : List Lexeme → Option (List Lexeme)
  | lexeme :: rest => if lexeme.isKeyword word then some rest else none
  | [] => none

def sign (s : String) : List Lexeme → Option (List Lexeme)
  | lexeme :: rest => if lexeme.isSignOf s then some rest else none
  | [] => none

def name : List Lexeme → Option (String × List Lexeme)
  | .name chars :: rest => if chars.isEmpty then none else some (String.ofList chars, rest)
  | .word chars :: rest =>
    if keywords.contains (String.ofList (chars.map Char.toUpper)) then none
    else some (String.ofList chars, rest)
  | _ => none

def castText (lexemes : List Lexeme) : Option (Operand × List Lexeme) := do
  let rest ← keyword "CAST" lexemes
  let rest ← sign "(" rest
  let (column, rest) ← name rest
  let rest ← keyword "AS" rest
  let rest ← keyword "VARCHAR" rest
  let rest ← sign ")" rest
  return (.asText column, rest)

def atom (lexemes : List Lexeme) : Option (Operand × List Lexeme) :=
  match lexemes with
  | .value v :: rest => some (.value v, rest)
  | _ => match castText lexemes with
    | some found => some found
    | none => (name lexemes).map fun (column, rest) => (.column column, rest)

def operand (lexemes : List Lexeme) : Option (Operand × List Lexeme) :=
  match (keyword "LOWER" lexemes).bind (sign "(") with
  | some rest => do
    let (inner, rest) ← atom rest
    let rest ← sign ")" rest
    return (.lowered inner, rest)
  | none => atom lexemes

def comparator : List Lexeme → Option (Comparator × List Lexeme)
  | lexeme :: rest =>
    if lexeme.isSignOf "=" then some (.equal, rest)
    else if lexeme.isSignOf ">" then some (.above, rest)
    else if lexeme.isSignOf "<" then some (.below, rest)
    else if lexeme.isSignOf ">=" then some (.atLeast, rest)
    else if lexeme.isSignOf "<=" then some (.atMost, rest)
    else if lexeme.isKeyword "ILIKE" then some (.like none, rest)
    else none
  | [] => none

def escape (c : Comparator) (lexemes : List Lexeme) : Option (Comparator × List Lexeme) :=
  match c, keyword "ESCAPE" lexemes with
  | .like _, some (.text [mark] :: rest) => some (.like (some mark), rest)
  | _, some _ => none
  | c, none => some (c, lexemes)

def comparison (lexemes : List Lexeme) : Option (Expr × List Lexeme) := do
  let (left, rest) ← operand lexemes
  let (c, rest) ← comparator rest
  let (right, rest) ← operand rest
  let (c, rest) ← escape c rest
  return (.compare left c right, rest)

inductive Level where
  | alternatives
  | conjunction
  | single

/-- Reads a condition; every step down takes from `fuel`. -/
def expr : (fuel : Nat) → Level → List Lexeme → Option (Expr × List Lexeme)
  | 0, _, _ => none
  | fuel + 1, .alternatives, lexemes => do
    let (left, rest) ← expr fuel .conjunction lexemes
    match keyword "OR" rest with
    | some rest => do
      let (right, rest) ← expr fuel .alternatives rest
      return (.or left right, rest)
    | none => return (left, rest)
  | fuel + 1, .conjunction, lexemes => do
    let (left, rest) ← expr fuel .single lexemes
    match keyword "AND" rest with
    | some rest => do
      let (right, rest) ← expr fuel .conjunction rest
      return (.and left right, rest)
    | none => return (left, rest)
  | fuel + 1, .single, lexemes =>
    match sign "(" lexemes with
    | some rest => do
      let (inner, rest) ← expr fuel .alternatives rest
      let rest ← sign ")" rest
      return (inner, rest)
    | none => comparison lexemes

/-- Reads a condition. Between two lexemes there are at most three steps down. -/
def readExpr (lexemes : List Lexeme) : Option (Expr × List Lexeme) :=
  expr (3 * lexemes.length + 3) .alternatives lexemes

def readCondition (lexemes : List Lexeme) : Option (Option Expr × List Lexeme) :=
  match keyword "WHERE" lexemes with
  | some rest => (readExpr rest).map fun (e, rest) => (some e, rest)
  | none => some (none, lexemes)

/-- Reads the limit of a statement; the word for true is the number one. -/
def readLimit (lexemes : List Lexeme) : Option (Option Nat) :=
  match lexemes with
  | [] => some none
  | lexeme :: rest =>
    if lexeme.isKeyword "LIMIT" then
      match rest with
      | [.number chars] => some (some (Decimal.ofDigits (Decimal.digitValues chars)))
      | [word] => if word.isKeyword "TRUE" then some (some 1) else none
      | _ => none
    else none

def ofLexemes (lexemes : List Lexeme) : Option Query := do
  let rest ← keyword "SELECT" lexemes
  match sign "*" rest with
  | some rest => do
    let rest ← keyword "FROM" rest
    let (table, rest) ← name rest
    let (condition, rest) ← readCondition rest
    return ⟨table, condition, .rows (← readLimit rest)⟩
  | none => do
    let rest ← keyword "COUNT" rest
    let rest ← sign "(" rest
    let rest ← sign "*" rest
    let rest ← sign ")" rest
    let rest ← keyword "AS" rest
    let (_, rest) ← name rest
    let rest ← keyword "FROM" rest
    let (table, rest) ← name rest
    let (condition, rest) ← readCondition rest
    guard rest.isEmpty
    return ⟨table, condition, .count⟩

def read (text : String) (params : List Value) : Option Query := do
  ofLexemes (← Lexeme.bind (← Lexeme.scan text.toList) params)

end Query

end TableTalk.Sql
