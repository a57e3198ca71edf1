import TableTalk.Value
import TableTalk.Text.Quoted

namespace TableTalk

def Moment.shownInside (m : Moment) : String :=
  let parts := [m.date.year, m.date.month, m.date.day, m.hour, m.minute]
  let tail :=
    if m.micro ≠ 0 then [m.second, m.micro]
    else if m.second ≠ 0 then [m.second]
    else []
  "datetime.datetime(" ++ ", ".intercalate ((parts ++ tail).map toString) ++ ")"

def Date.shownInside (d : Date) : String :=
  s!"datetime.date({d.year}, {d.month}, {d.day})"

def shownBool (b : Bool) : String :=
  if b then "True" else "False"

namespace Value

mutual

def shownInside : Value → String
  | .null => "None"
  | .bool b => shownBool b
  | .int n => toString n
  | .float x => Decimal.answerLayout.render x
  | .text s => Text.quoted s
  | .date d => d.shownInside
  | .moment m => m.shownInside
  | .list items => "[" ++ ", ".intercalate (shownItems items) ++ "]"
  | .mapping entries => "\x7b" ++ ", ".intercalate (shownEntries entries) ++ "\x7d"
  | .named name fields => name ++ "(" ++ ", ".intercalate (shownFields fields) ++ ")"

def shownItems : List Value → List String
  | [] => []
  | item :: rest => item.shownInside :: shownItems rest

def shownEntries : List (Value × Value) → List String
  | [] => []
  | (key, value) :: rest => (key.shownInside ++ ": " ++ value.shownInside) :: shownEntries rest

def shownFields : List (String × Value) → List String
  | [] => []
  | (name, value) :: rest => (name ++ "=" ++ value.shownInside) :: shownFields rest

end

/-- The text of a value. An integer shows all its digits, however many they are: the limit
`Decimal.maxIntegerDigits` is one of reading, and texts of integers beyond it are an idealization. -/
def shown : Value → String
  | .text s => s
  | .date d => d.iso
  | .moment m => m.plain
  | value => value.shownInside

end Value

end TableTalk
