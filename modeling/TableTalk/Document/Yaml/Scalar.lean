import TableTalk.Value

namespace TableTalk.Yaml

def nullWords : List String := ["", "~", "null", "Null", "NULL"]

def trueWords : List String :=
  ["yes", "Yes", "YES", "true", "True", "TRUE", "on", "On", "ON"]

def falseWords : List String :=
  ["no", "No", "NO", "false", "False", "FALSE", "off", "Off", "OFF"]

def digitsOf (text : List Char) : List Nat :=
  Decimal.digitValues (text.filter (· != '_'))

def inBase (base : Nat) (digits : List Nat) : Nat :=
  digits.foldl (fun n d => base * n + d) 0

def allOf (p : Char → Bool) (text : List Char) : Bool :=
  !text.isEmpty && text.all p

def isDigitOrLine (c : Char) : Bool := c.isDigit || c == '_'

def isDigits (text : List Char) : Bool :=
  text.head?.any Char.isDigit && text.all isDigitOrLine

def isHexOrLine (c : Char) : Bool :=
  (Text.hexValue? c).isSome || c == '_'

def atColons (text : List Char) : List (List Char) :=
  ((String.ofList text).splitOn ":").map String.toList

def isSixtieth : List Char → Bool
  | [a] => a.isDigit
  | [a, b] => a.isDigit && b.isDigit && a.toNat < '6'.toNat
  | _ => false

def sexagesimal? (text : List Char) : Option Nat :=
  match atColons text with
  | first :: second :: rest =>
    if isDigits first && (second :: rest).all isSixtieth then
      some (inBase 60 ((first :: second :: rest).map fun part => inBase 10 (digitsOf part)))
    else none
  | _ => none

def natural? (text : List Char) : Option Nat :=
  match text with
  | ['0'] => some 0
  | '0' :: 'b' :: bits =>
    if allOf (fun c => c == '0' || c == '1' || c == '_') bits then some (inBase 2 (digitsOf bits))
    else none
  | '0' :: 'x' :: digits =>
    if allOf isHexOrLine digits then
      some (inBase 16 (digits.filterMap Text.hexValue?))
    else none
  | '0' :: digits =>
    if allOf (fun c => ('0' ≤ c && c ≤ '7') || c == '_') digits then some (inBase 8 (digitsOf digits))
    else none
  | digits =>
    if isDigits digits then some (inBase 10 (digitsOf digits)) else sexagesimal? digits

def isExponent : List Char → Bool
  | [] => true
  | mark :: sign :: digits =>
    (mark == 'e' || mark == 'E') && (sign == '-' || sign == '+') && allOf Char.isDigit digits
  | _ => false

def isDecimalForm (text : List Char) : Bool :=
  let whole := text.takeWhile isDigitOrLine
  match text.dropWhile isDigitOrLine with
  | '.' :: rest =>
    let fraction := rest.takeWhile isDigitOrLine
    (isDigits whole || (whole.isEmpty && isDigits fraction))
      && isExponent (rest.dropWhile isDigitOrLine)
  | _ => false

def float? (text : List Char) : Option Float :=
  let (negative, body) := Decimal.splitSign text
  let word := String.ofList (body.drop 1)
  if body.head? = some '.' ∧ ["inf", "Inf", "INF"].contains word then
    some (if negative then Decimal.negativeInfinity else Decimal.infinity)
  else if text.head? = some '.' ∧ ["nan", "NaN", "NAN"].contains word then some Decimal.notANumber
  else if isDecimalForm body ∧ (body.head? ≠ some '.' ∨ text.head? = some '.') then
    Decimal.readFloat? (String.ofList (text.filter (· != '_')))
  else none

def date? (text : List Char) : Option Date :=
  match Moment.readDate? text with
  | some (date, []) => some date
  | _ => none

def moment? (text : List Char) : Option Moment :=
  match text[10]? with
  | some 't' => Moment.read? (String.ofList (text.set 10 'T'))
  | some _ => Moment.read? (String.ofList text)
  | none => none

def plain? (text : String) : Option Value :=
  let chars := text.toList
  let (negative, body) := Decimal.splitSign chars
  if nullWords.contains text then some .null
  else if trueWords.contains text then some (.bool true)
  else if falseWords.contains text then some (.bool false)
  else if text = "=" then none
  else match natural? body with
    | some n => some (.int (if negative then -n else n))
    | none => match float? chars, date? chars, moment? chars with
      | some x, _, _ => some (.float x)
      | none, some d, _ => some (.date d)
      | none, none, some m => some (.moment m)
      | none, none, none => some (.text text)

end TableTalk.Yaml
