import TableTalk.Text.Range
import TableTalk.Text.Run

namespace TableTalk.Text

def blankRanges : List (Nat × Nat) := [
  (0x9, 0xD), (0x1C, 0x20), (0x85, 0x85), (0xA0, 0xA0), (0x1680, 0x1680), (0x2000, 0x200A),
  (0x2028, 0x2029), (0x202F, 0x202F), (0x205F, 0x205F), (0x3000, 0x3000)]

def isBlank (c : Char) : Bool :=
  inRanges blankRanges c

def isBlankText (text : String) : Bool :=
  text.toList.all isBlank

def fieldsOf (text : List Char) : List (List Char) :=
  (runs (fun c => !isBlank c) text).map Run.chars

def fields (text : String) : List String :=
  (fieldsOf text.toList).map String.ofList

def unwords (words : List String) : String :=
  " ".intercalate words

def collapse (text : String) : String :=
  unwords (fields text)

/-- Whether a character is a space: any blank but the information separators. -/
def isSpace (c : Char) : Bool :=
  isBlank c && !inRanges [(0x1C, 0x1F)] c

def trimmed (text : List Char) : List Char :=
  ((text.dropWhile isSpace).reverse.dropWhile isSpace).reverse

end TableTalk.Text
