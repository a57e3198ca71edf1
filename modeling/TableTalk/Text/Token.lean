import TableTalk.Text.Run
import TableTalk.Text.Case

namespace TableTalk

structure Token where
  text : String
  start : Nat
  stop : Nat
deriving Repr, DecidableEq

namespace Token

def isTokenChar (c : Char) : Bool :=
  c.isAlphanum

def ofRun (run : Text.Run) : Token :=
  ⟨String.ofList (run.chars.map Char.toLower), run.start, run.stop⟩

def scan (text : List Char) : List Token :=
  (Text.runs isTokenChar text).map ofRun

def isNumber (token : Token) : Bool :=
  token.text.toList.all Char.isDigit

end Token

namespace Text

def wordsOf (text : String) : List String :=
  (runs Char.isAlphanum (lowerChars text.toList)).map fun run => String.ofList run.chars

end Text

end TableTalk
