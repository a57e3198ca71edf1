import TableTalk.Value
import TableTalk.Text.Quoted

namespace TableTalk.Json

def lineEnds : List Nat := [0x85, 0x2028, 0x2029]

/-- One character inside a JSON text. Control characters are escaped, and so are line ends of every kind, so
that the text stands on one line for every reader. -/
def escape (c : Char) : List Char :=
  if c = Text.doubleQuote ∨ c = Text.backslash then [Text.backslash, c]
  else if c.toNat < 32 ∨ c.toNat = 127 ∨ lineEnds.contains c.toNat then
    Text.backslash :: 'u' :: Text.hexadecimal 4 c.toNat
  else [c]

def writeText (s : String) : String :=
  String.ofList (Text.doubleQuote :: s.toList.flatMap escape ++ [Text.doubleQuote])

def keyText : Value → String
  | .text s => s
  | .null => "null"
  | .bool b => if b then "true" else "false"
  | .int n => toString n
  | .float x => Decimal.answerLayout.render x
  | .date d => d.iso
  | .moment m => m.iso
  | _ => ""

mutual

def write : Value → String
  | .null => "null"
  | .bool b => if b then "true" else "false"
  | .int n => toString n
  | .float x => Decimal.answerLayout.render x
  | .text s => writeText s
  | .date d => writeText d.iso
  | .moment m => writeText m.iso
  | .list items => "[" ++ ",".intercalate (writeItems items) ++ "]"
  | .mapping entries => "\x7b" ++ ",".intercalate (writeEntries entries) ++ "\x7d"
  | .named _ fields => "\x7b" ++ ",".intercalate (writeFields fields) ++ "\x7d"

def writeItems : List Value → List String
  | [] => []
  | item :: rest => write item :: writeItems rest

def writeEntries : List (Value × Value) → List String
  | [] => []
  | (key, value) :: rest => (writeText (keyText key) ++ ":" ++ write value) :: writeEntries rest

def writeFields : List (String × Value) → List String
  | [] => []
  | (name, value) :: rest => (writeText name ++ ":" ++ write value) :: writeFields rest

end

end TableTalk.Json
