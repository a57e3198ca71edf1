import TableTalk.Value
import TableTalk.Text.Quoted

namespace TableTalk.Yaml

structure Cursor where
  rest : List Char
  column : Nat := 0
  line : Nat := 0
  anchors : List (String × Value) := []

def isBreak (c : Char) : Bool :=
  c == '\n' || c == '\r' || c.toNat == 0x85 || c.toNat == 0x2028 || c.toNat == 0x2029

def isGap (c : Char) : Bool :=
  c == ' ' || c == '\t' || isBreak c

def gapFollows : List Char → Bool
  | [] => true
  | c :: _ => isGap c

namespace Cursor

def step (c : Char) (cur : Cursor) : Cursor :=
  if isBreak c then { cur with column := 0, line := cur.line + 1 }
  else { cur with column := cur.column + 1 }

def moveTo (cur : Cursor) (rest : List Char) : Cursor :=
  let passed := cur.rest.take (cur.rest.length - rest.length)
  { passed.foldl (fun cur c => cur.step c) cur with rest := rest }

def advance (cur : Cursor) (n : Nat) : Cursor :=
  cur.moveTo (cur.rest.drop n)

def withoutGaps (inComment : Bool) : List Char → List Char
  | [] => []
  | c :: rest =>
    if isBreak c then withoutGaps false rest
    else if inComment then withoutGaps true rest
    else if c = ' ' then withoutGaps false rest
    else if c = '#' then withoutGaps true rest
    else c :: rest

def skip (cur : Cursor) : Cursor :=
  cur.moveTo (withoutGaps false cur.rest)

def skipSpaces (cur : Cursor) : Cursor :=
  cur.moveTo (cur.rest.dropWhile (· == ' '))

def atMark (mark : String) (cur : Cursor) : Bool :=
  cur.column == 0 && mark.toList.isPrefixOf cur.rest && gapFollows (cur.rest.drop 3)

def atEnd (cur : Cursor) : Bool :=
  cur.rest.isEmpty || cur.atMark "---" || cur.atMark "..."

end Cursor

def atColon (inFlow : Bool) : List Char → Bool
  | ':' :: rest => inFlow || gapFollows rest
  | _ => false

def isFlowSign (c : Char) : Bool :=
  c == ',' || c == '[' || c == ']' || c == '\x7b' || c == '\x7d'

def startsPlain (inFlow : Bool) : List Char → Bool
  | [] => false
  | c :: rest =>
    let special := isGap c || isFlowSign c || (c :: []).any fun c =>
      "-?:#&*!|>%@".toList.contains c || c == Text.singleQuote || c == Text.doubleQuote || c.toNat == 0x60
    !special || (!gapFollows rest && (c == '-' || (!inFlow && (c == '?' || c == ':'))))

def plainLine (inFlow afterSpace : Bool) : List Char → List Char × List Char
  | [] => ([], [])
  | c :: rest =>
    let stops := isBreak c || c == '\t' || (afterSpace && c == '#')
      || (c == ':' && (gapFollows rest || (inFlow && rest.head?.any isFlowSign)))
      || (inFlow && (isFlowSign c || c == '?'))
    if stops then ([], c :: rest)
    else
      let (more, left) := plainLine inFlow (c == ' ') rest
      (c :: more, left)

def withoutTrailing (text : List Char) : List Char :=
  (text.reverse.dropWhile (· == ' ')).reverse

def joint (breaks : Nat) : List Char :=
  if breaks ≤ 1 then [' '] else List.replicate (breaks - 1) '\n'

def countBreaks : List Char → Nat
  | [] => 0
  | c :: rest => if isBreak c then countBreaks rest + 1 else if c = ' ' then countBreaks rest else 0

/-- Reads a plain scalar; further lines belong to it if they are indented deeper than `indent`. -/
def plainScalar (fuel : Nat) (inFlow : Bool) (indent : Int) (cur : Cursor) : List Char × Cursor :=
  match fuel with
  | 0 => ([], cur)
  | fuel + 1 =>
    let (line, left) := plainLine inFlow false cur.rest
    let text := withoutTrailing line
    let behind := cur.moveTo left
    if left.head?.any isBreak then
      let next := behind.moveTo (left.dropWhile fun c => c == ' ' || isBreak c)
      let goesOn := (inFlow || indent < next.column) && !next.atEnd && next.rest.head? ≠ some '#'
        && !(plainLine inFlow false next.rest).1.isEmpty
      if goesOn then
        let (more, last) := plainScalar fuel inFlow indent next
        (text ++ joint (countBreaks left) ++ more, last)
      else (text, behind)
    else (text, behind)

def singleQuoted (blanks : List Char) : List Char → Option (List Char × List Char)
  | [] => none
  | c :: rest =>
    if c = Text.singleQuote then
      match rest with
      | d :: more =>
        if d = Text.singleQuote then
          (singleQuoted [] more).map fun (text, left) => (blanks.reverse ++ c :: text, left)
        else some (blanks.reverse, rest)
      | [] => some (blanks.reverse, [])
    else if c == ' ' || c == '\t' then singleQuoted (c :: blanks) rest
    else if isBreak c then brokenLine 1 rest
    else (singleQuoted [] rest).map fun (text, left) => (blanks.reverse ++ c :: text, left)
where
  brokenLine (breaks : Nat) : List Char → Option (List Char × List Char)
    | [] => none
    | c :: rest =>
      if isBreak c then brokenLine (breaks + 1) rest
      else if c == ' ' || c == '\t' then brokenLine breaks rest
      else if c = Text.singleQuote then
        match rest with
        | d :: more =>
          if d = Text.singleQuote then
            (singleQuoted [] more).map fun (text, left) => (joint breaks ++ c :: text, left)
          else some (joint breaks, rest)
        | [] => some (joint breaks, [])
      else (singleQuoted [] rest).map fun (text, left) => (joint breaks ++ c :: text, left)

def shortEscape? (c : Char) : Option Char :=
  if c == Text.doubleQuote || c == Text.backslash || c == '/' || c == ' ' || c == '\t' then some c
  else match c with
    | '0' => some (Char.ofNat 0)
    | 'a' => some (Char.ofNat 7)
    | 'b' => some (Char.ofNat 8)
    | 't' => some '\t'
    | 'n' => some '\n'
    | 'v' => some (Char.ofNat 11)
    | 'f' => some (Char.ofNat 12)
    | 'r' => some '\r'
    | 'e' => some (Char.ofNat 27)
    | 'N' => some (Char.ofNat 0x85)
    | '_' => some (Char.ofNat 0xA0)
    | 'L' => some (Char.ofNat 0x2028)
    | 'P' => some (Char.ofNat 0x2029)
    | _ => none

def escapeWidth? : Char → Option Nat
  | 'x' => some 2
  | 'u' => some 4
  | 'U' => some 8
  | _ => none

def longEscape? (digits : List Char) : Option Char := do
  let values ← digits.mapM Text.hexValue?
  return Char.ofNat (values.foldl (fun n digit => 16 * n + digit) 0)

def doubleQuoted (fuel : Nat) (text : List Char) : Option (List Char × List Char) :=
  match fuel, text with
  | 0, _ | _, [] => none
  | fuel + 1, c :: rest =>
    if c = Text.doubleQuote then some ([], rest)
    else if c = Text.backslash then
      match rest with
      | [] => none
      | e :: more =>
        if isBreak e then
          let left := more.dropWhile fun c => c == ' ' || c == '\t'
          (doubleQuoted fuel left).map fun (text, left) => (text, left)
        else match shortEscape? e, escapeWidth? e with
          | some d, _ => (doubleQuoted fuel more).map fun (text, left) => (d :: text, left)
          | none, some width => do
            guard (width ≤ more.length)
            let d ← longEscape? (more.take width)
            let (text, left) ← doubleQuoted fuel (more.drop width)
            return (d :: text, left)
          | none, none => none
    else if c == ' ' || c == '\t' || isBreak c then
      let gap := (c :: rest).takeWhile isGap
      let left := (c :: rest).dropWhile isGap
      let breaks := (gap.filter isBreak).length
      (doubleQuoted fuel left).map fun (text, left) =>
        ((if breaks = 0 then gap else joint breaks) ++ text, left)
    else (doubleQuoted fuel rest).map fun (text, left) => (c :: text, left)

inductive Chomping where
  | clip
  | strip
  | keep
deriving Repr, DecidableEq

def linesOf (text : List Char) : List (List Char) :=
  ((String.ofList text).splitOn "\n").map String.toList

def indentOf (line : List Char) : Nat :=
  (line.takeWhile (· == ' ')).length

/-- Joins the lines of a folded block scalar: a line end between two lines that are not indented becomes a
space. -/
def foldLines : List (List Char) → List Char
  | [] => []
  | [line] => line
  | line :: next :: rest =>
    let plain (l : List Char) : Bool := !l.isEmpty && l.head? ≠ some ' ' && l.head? ≠ some '\t'
    if plain line && plain next then line ++ ' ' :: foldLines (next :: rest)
    else if plain line && next.isEmpty then line ++ foldGap rest (next :: rest)
    else line ++ '\n' :: foldLines (next :: rest)
where
  foldGap (after whole : List (List Char)) : List Char :=
    match after.find? (!·.isEmpty) with
    | some l => if l.head? ≠ some ' ' && l.head? ≠ some '\t' then foldLines whole else '\n' :: foldLines whole
    | none => foldLines whole

end TableTalk.Yaml
