import TableTalk.Assoc
import TableTalk.Document.Yaml.Cursor
import TableTalk.Document.Yaml.Scalar

namespace TableTalk.Yaml

abbrev Reading := Option (Value × Cursor)

/-- A node that may turn out to be a key; `merges` marks the key under which other mappings are taken
over. -/
structure Node where
  value : Value
  merges : Bool := false

def isKey : Value → Bool
  | .list _ | .mapping _ => false
  | _ => true

def mergedEntries? : Value → Option (List (Value × Value))
  | .mapping entries => some entries
  | .list items => (items.reverse.mapM fun
    | Value.mapping entries => some entries
    | _ => none).map List.flatten
  | _ => none

/-- The mapping of some pairs: what is taken over comes first, and the later value of a key counts. -/
def build? (pairs : List (Node × Value)) : Option Value := do
  let merged ← (pairs.filter fun pair => pair.1.merges).mapM fun pair => mergedEntries? pair.2
  let own := (pairs.filter fun pair => !pair.1.merges).map fun pair => (pair.1.value, pair.2)
  let all := merged.flatten ++ own
  guard (all.all fun entry => isKey entry.1)
  return .mapping (all.foldl (fun entries entry => Value.putEntry entry.1 entry.2 entries) [])

def anchorName? (text : List Char) : Option (String × List Char) :=
  let isNameChar (c : Char) : Bool := c.isAlphanum || c == '-' || c == '_'
  let name := text.takeWhile isNameChar
  if name.isEmpty then none else some (String.ofList name, text.dropWhile isNameChar)

def tagName (text : List Char) : String × List Char :=
  let isTagChar (c : Char) : Bool := !isGap c && !isFlowSign c
  (String.ofList (text.takeWhile isTagChar), text.dropWhile isTagChar)

def taggedScalar? (tag text : String) : Option Value :=
  match tag, plain? text with
  | "!!int", some (.int n) => some (.int n)
  | "!!float", some (.int n) => some (.float (Decimal.ofInt n))
  | "!!float", some (.float x) => some (.float x)
  | "!!bool", some (.bool b) => some (.bool b)
  | _, _ => none

def tagged? (tag : String) (raw : Option String) (value : Value) : Option Value :=
  match tag, raw, value with
  | "!!str", some text, _ => some (.text text)
  | "!!null", some _, _ => some .null
  | "!", some text, _ => plain? text
  | "!", none, value => some value
  | "!!map", none, .mapping entries => some (.mapping entries)
  | "!!seq", none, .list items => some (.list items)
  | tag, some text, _ => taggedScalar? tag text
  | _, none, _ => none

def scalar (inFlow : Bool) (indent : Int) (cur : Cursor) : Option (String × Bool × Cursor) :=
  match cur.rest with
  | [] => none
  | c :: rest =>
    if c = Text.singleQuote then
      (singleQuoted [] rest).map fun (text, left) => (String.ofList text, false, cur.moveTo left)
    else if c = Text.doubleQuote then
      (doubleQuoted (rest.length + 1) rest).map fun (text, left) =>
        (String.ofList text, false, cur.moveTo left)
    else if startsPlain inFlow cur.rest then
      let (text, behind) := plainScalar (cur.rest.length + 1) inFlow indent cur
      some (String.ofList text, true, behind)
    else none

def scalarNode? (text : String) (isPlain : Bool) : Option Node :=
  if !isPlain then some { value := .text text }
  else if text = "<<" then some { value := .text text, merges := true }
  else (plain? text).map fun value => { value := value }

def blockHeader? (text : List Char) : Option (Chomping × Option Nat) :=
  let chomping (c : Char) : Option Chomping :=
    if c = '-' then some .strip else if c = '+' then some .keep else none
  let depth (c : Char) : Option Nat :=
    if '1' ≤ c && c ≤ '9' then some (c.toNat - '0'.toNat) else none
  match text with
  | [] => some (.clip, none)
  | [c] => match chomping c, depth c with
    | some k, _ => some (k, none)
    | none, some d => some (.clip, some d)
    | none, none => none
  | [c, d] => match chomping c, depth d, depth c, chomping d with
    | some k, some n, _, _ => some (k, some n)
    | _, _, some n, some k => some (k, some n)
    | _, _, _, _ => none
  | _ => none

def blockText (folded : Bool) (chomping : Chomping) (lines : List (List Char)) : String :=
  let body := (lines.reverse.dropWhile List.isEmpty).reverse
  let text :=
    if folded then foldLines body else [Char.ofNat 10].intercalate body
  let ending := match chomping with
    | .strip => []
    | .clip => if body.isEmpty then [] else ['\n']
    | .keep => List.replicate (lines.length - body.length + (if body.isEmpty then 0 else 1)) '\n'
  String.ofList (text ++ ending)

def blockScalar (folded : Bool) (indent : Int) (cur : Cursor) : Option (String × Cursor) := do
  let header := cur.rest.takeWhile fun c => !isGap c
  let (chomping, depth) ← blockHeader? header
  let behind := (cur.advance header.length).skipSpaces
  let comment := behind.rest.takeWhile fun c => !isBreak c
  guard (comment.isEmpty || comment.head? = some '#')
  let body := behind.rest.drop (comment.length + 1)
  let lines := linesOf body
  let least : Nat := max 1 (indent + 1).toNat
  let found := (lines.find? fun line => !(line.dropWhile (· == ' ')).isEmpty).elim least indentOf
  let depth := match depth with
    | some d => least + d - 1
    | none => max least found
  let taken := lines.takeWhile fun line =>
    depth ≤ indentOf line || (line.dropWhile (· == ' ')).isEmpty
  let size := taken.foldl (fun n line => n + line.length + 1) 0
  let kept := if taken.length = lines.length then taken.dropLast ++ taken.getLast?.toList.filter (!·.isEmpty)
    else taken
  let next := (cur.moveTo body).advance (min size body.length)
  return (blockText folded chomping (kept.map fun line => line.drop depth), next)

mutual

def single (fuel : Nat) (inFlow : Bool) (indent : Int) (cur : Cursor) : Option (Node × Cursor) :=
  match fuel with
  | 0 => none
  | fuel + 1 =>
    match cur.rest with
    | [] => none
    | c :: rest =>
      if c = '[' then
        (flowItems fuel [] (cur.advance 1)).map fun (value, cur) => ({ value := value }, cur)
      else if c = '\x7b' then
        (flowPairs fuel [] (cur.advance 1)).map fun (value, cur) => ({ value := value }, cur)
      else if c = '*' then do
        let (name, left) ← anchorName? rest
        let value ← Assoc.get? name cur.anchors
        return ({ value := value }, cur.moveTo left)
      else if inFlow && c = '&' then do
        let (name, left) ← anchorName? rest
        let (node, behind) ← single fuel inFlow indent (cur.moveTo left).skip
        return (node, { behind with anchors := Assoc.put name node.value behind.anchors })
      else if inFlow && c = '!' then do
        let (tag, left) := tagName cur.rest
        let start := (cur.moveTo left).skip
        let raw := (scalar inFlow indent start).map fun found => found.1
        let (node, behind) ← single fuel inFlow indent start
        return ({ value := ← tagged? tag raw node.value }, behind)
      else do
        let (text, isPlain, behind) ← scalar inFlow indent cur
        return (← scalarNode? text isPlain, behind)

def flowItems (fuel : Nat) (found : List Value) (cur : Cursor) : Reading :=
  match fuel with
  | 0 => none
  | fuel + 1 => do
    let cur := cur.skip
    if cur.rest.head? = some ']' then return (.list found, cur.advance 1)
    let (node, behind) ← single fuel true (-1) cur
    let next := behind.skip
    let (value, next) ←
      if atColon true next.rest && next.line == cur.line then do
        let (value, behind) ← flowValue fuel (next.advance 1)
        pure (← build? [(node, value)], behind.skip)
      else pure (node.value, next)
    if next.rest.head? = some ',' then flowItems fuel (found ++ [value]) (next.advance 1)
    else if next.rest.head? = some ']' then return (.list (found ++ [value]), next.advance 1)
    else none

def flowValue (fuel : Nat) (cur : Cursor) : Reading :=
  match fuel with
  | 0 => none
  | fuel + 1 =>
    let cur := cur.skip
    if cur.rest.head?.any fun c => c == ',' || c == ']' || c == '\x7d' then some (.null, cur)
    else (single fuel true (-1) cur).map fun (node, cur) => (node.value, cur)

def flowPairs (fuel : Nat) (found : List (Node × Value)) (cur : Cursor) : Reading :=
  match fuel with
  | 0 => none
  | fuel + 1 => do
    let cur := cur.skip
    if cur.rest.head? = some '\x7d' then return (← build? found, cur.advance 1)
    let (node, behind) ← single fuel true (-1) cur
    let next := behind.skip
    let (value, next) ←
      if atColon true next.rest && next.line == cur.line then do
        let (value, behind) ← flowValue fuel (next.advance 1)
        pure (value, behind.skip)
      else pure (Value.null, next)
    let found := found ++ [(node, value)]
    if next.rest.head? = some ',' then flowPairs fuel found (next.advance 1)
    else if next.rest.head? = some '\x7d' then return (← build? found, next.advance 1)
    else none

end

def atSign (sign : Char) (cur : Cursor) : Bool :=
  cur.rest.head? == some sign && gapFollows (cur.rest.drop 1)

def atDash (cur : Cursor) : Bool :=
  atSign '-' cur

mutual

/-- Reads a node whose lines are indented deeper than `indent`; `mayStart` says whether a mapping or a list
may start here. -/
def node (fuel : Nat) (indent : Int) (mayStart : Bool) (cur : Cursor) : Reading :=
  match fuel with
  | 0 => none
  | fuel + 1 =>
    if cur.atEnd || (cur.column : Int) ≤ indent then some (.null, cur)
    else match cur.rest with
      | [] => some (.null, cur)
      | c :: rest =>
        if atDash cur then
          if mayStart then items fuel cur.column false [] cur else none
        else if atSign '?' cur then
          if mayStart then markedPair fuel cur.column [] cur else none
        else if c = '|' || c = '>' then
          (blockScalar (c == '>') indent (cur.advance 1)).map fun (text, cur) => (.text text, cur)
        else if c = '&' then do
          let (name, left) ← anchorName? rest
          let next := (cur.moveTo left).skip
          let (value, behind) ← node fuel indent (mayStart || next.line != cur.line) next
          return (value, { behind with anchors := Assoc.put name value behind.anchors })
        else if c = '!' then do
          let (tag, left) := tagName cur.rest
          let next := (cur.moveTo left).skip
          let raw := (scalar false indent next).map fun found => found.1
          let (value, behind) ← node fuel indent (mayStart || next.line != cur.line) next
          let isCollection := match value with
            | .list _ | .mapping _ => true
            | _ => false
          return (← tagged? tag (if isCollection then none else some (raw.getD "")) value, behind)
        else do
          let (found, behind) ← single fuel false indent cur
          let next := behind.skipSpaces
          if atColon false next.rest then
            if mayStart && next.line == cur.line then pairs fuel cur.column [] found next else none
          else return (found.value, behind)

def pairs (fuel : Nat) (column : Nat) (found : List (Node × Value)) (key : Node) (cur : Cursor) :
    Reading :=
  match fuel with
  | 0 => none
  | fuel + 1 => do
    let next := (cur.advance 1).skip
    let broke := next.line != cur.line
    let (value, behind) ←
      if !next.atEnd && next.column == column && broke && atDash next then items fuel column true [] next
      else node fuel column broke next
    morePairs fuel column (found ++ [(key, value)]) cur.line behind.skip

def markedPair (fuel : Nat) (column : Nat) (found : List (Node × Value)) (cur : Cursor) : Reading :=
  match fuel with
  | 0 => none
  | fuel + 1 => do
    let (key, behind) ← node fuel column true (cur.advance 1).skip
    let next := behind.skip
    if !next.atEnd && next.column == column && next.line != cur.line && atSign ':' next then do
      let (value, behind) ← node fuel column true (next.advance 1).skip
      morePairs fuel column (found ++ [(⟨key, false⟩, value)]) next.line behind.skip
    else morePairs fuel column (found ++ [(⟨key, false⟩, .null)]) cur.line next

def morePairs (fuel : Nat) (column : Nat) (found : List (Node × Value)) (line : Nat) (next : Cursor) :
    Reading :=
  match fuel with
  | 0 => none
  | fuel + 1 => do
    if next.atEnd || next.column < column then return (← build? found, next)
    else if next.column != column || next.line == line then none
    else if atSign '?' next then markedPair fuel column found next
    else do
      let (key, behind) ← single fuel false column next
      let colon := behind.skipSpaces
      if atColon false colon.rest && colon.line == next.line then pairs fuel column found key colon
      else none

/-- Reads the items of a list from a dash on. The list that is the value of a key may stand right below the
key; it ends where no dash follows. -/
def items (fuel : Nat) (column : Nat) (belowKey : Bool) (found : List Value) (cur : Cursor) : Reading :=
  match fuel with
  | 0 => none
  | fuel + 1 => do
    let next := (cur.advance 1).skip
    let (value, behind) ← node fuel column true next
    let found := found ++ [value]
    let next := behind.skip
    if next.atEnd || next.column < column then return (.list found, next)
    else if next.column != column || next.line == cur.line then none
    else if atDash next then items fuel column belowKey found next
    else if belowKey then return (.list found, next)
    else none

end

def isAllowed (c : Char) : Bool :=
  let n := c.toNat
  n == 9 || n == 10 || n == 13 || (32 ≤ n && n ≤ 126) || n == 0x85 || (0xA0 ≤ n && n ≤ 0xFFFD)
    || 0x10000 ≤ n

def withPlainBreaks : List Char → List Char
  | [] => []
  | '\r' :: '\n' :: rest => '\n' :: withPlainBreaks rest
  | c :: rest => (if c = '\r' then '\n' else c) :: withPlainBreaks rest

def directives (fuel : Nat) (cur : Cursor) : Cursor :=
  match fuel with
  | 0 => cur
  | fuel + 1 =>
    if cur.column = 0 ∧ cur.rest.head? = some '%' then
      directives fuel (cur.moveTo (cur.rest.dropWhile fun c => !isBreak c)).skip
    else cur

def isFinished (cur : Cursor) : Bool :=
  if cur.atMark "..." then (cur.advance 3).skip.rest.isEmpty else cur.rest.isEmpty

def read? (text : String) : Option Value := do
  let chars := withPlainBreaks text.toList
  guard (chars.all isAllowed)
  let chars := if chars.head? = some (Char.ofNat 0xFEFF) then chars.drop 1 else chars
  let fuel := 6 * chars.length + 16
  let first := ({ rest := chars } : Cursor).skip
  let start := directives fuel first
  guard (start.atMark "---" || start.line == first.line)
  let body := if start.atMark "---" then (start.advance 3).skip else start
  let mayStart := !start.atMark "---" || body.line != start.line
  let (value, behind) ← node fuel (-1) mayStart body
  guard (isFinished behind.skip)
  return value

end TableTalk.Yaml
