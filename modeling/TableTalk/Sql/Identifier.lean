import TableTalk.Text.Digit
import TableTalk.Text.Word
import TableTalk.Text.Blank
import TableTalk.Text.Case
import TableTalk.Text.Quoted
import TableTalk.Text.Substring

namespace TableTalk.Sql

def reservedNames : List String :=
  ["order", "user", "group", "select", "where", "from", "table", "limit", "status", "date", "time",
    "location"]

def isNameChar (c : Char) : Bool :=
  Text.isAlphanumeric c || c == '_'

def isPlain (name : String) : Bool :=
  match name.toList with
  | [] => false
  | c :: rest =>
    !Text.isDigit c && (c :: rest).all isNameChar && Text.lower name == name
      && !reservedNames.contains name

def enclosed (quote : Char) (text : String) : String :=
  String.ofList (quote :: Text.replaceEach quote [quote, quote] text.toList ++ [quote])

/-- A name as it stands in a statement; the star for all columns stands as it is. -/
def quoteIdentifier (name : String) : String :=
  if name = "*" || isPlain name then name else enclosed Text.doubleQuote name

def isAllowedChar (c : Char) : Bool :=
  Text.isWordChar c || Text.isBlank c || c == '-' || c == '.'

end TableTalk.Sql
