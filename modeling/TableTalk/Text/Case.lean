import TableTalk.Text.CaseTable

namespace TableTalk.Text

def mapByRuns (runs : List CaseRun) (c : Char) : Char :=
  match runs.findSome? fun run => run.map? c.toNat with
  | some code => Char.ofNat code
  | none => c

def lowerLetter (c : Char) : Char :=
  if c.toNat < 128 then c.toLower
  else if c.toNat = 0x130 then 'i'
  else mapByRuns lowerRuns c

/-- The whole lower form of one character outside of any context; only the dotted capital I has one
of two characters. -/
def lowerForm (c : Char) : List Char :=
  if c.toNat = 0x130 then ['i', Char.ofNat 0x307] else [lowerLetter c]

def isCaseIgnorable (c : Char) : Bool :=
  inRanges caseIgnorableRanges c

def isCased (c : Char) : Bool :=
  if c.toNat < 128 then c.isAlpha else inRanges casedRanges c

def startsCased (text : List Char) : Bool :=
  match text.dropWhile isCaseIgnorable with
  | [] => false
  | c :: _ => isCased c

def capitalSigma : Char := Char.ofNat 0x3A3

def lowerSigma (letterBefore letterAfter : Bool) : Char :=
  if letterBefore && !letterAfter then Char.ofNat 0x3C2 else Char.ofNat 0x3C3

def lowerFrom (letterBefore : Bool) : List Char → List Char
  | [] => []
  | c :: rest =>
    let lowered :=
      if c = capitalSigma then [lowerSigma letterBefore (startsCased rest)] else lowerForm c
    lowered ++ lowerFrom (if isCaseIgnorable c then letterBefore else isCased c) rest

def lowerChars (text : List Char) : List Char :=
  lowerFrom false text

def lower (text : String) : String :=
  String.ofList (lowerChars text.toList)

def titleForm (c : Char) : List Char :=
  if c.toNat < 128 then [c.toUpper]
  else match titleSequences.lookup c.toNat with
    | some codes => codes.map Char.ofNat
    | none => [mapByRuns titleRuns c]

def capitalize (text : String) : String :=
  match text.toList with
  | [] => ""
  | c :: rest =>
    let letterBefore := !isCaseIgnorable c && isCased c
    String.ofList (titleForm c ++ lowerFrom letterBefore rest)

def lowerEach (text : String) : String :=
  String.ofList (text.toList.map lowerLetter)

def alike (a b : Char) : Bool :=
  let x := lowerLetter a
  let y := lowerLetter b
  x == y || alikeGroups.any fun group => group.contains x.toNat && group.contains y.toNat

end TableTalk.Text
