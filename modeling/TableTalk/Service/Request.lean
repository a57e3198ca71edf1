import TableTalk.Document.Json
import TableTalk.Decimal.Numeral

namespace TableTalk.Service

inductive Body where
  | absent
  | document (value : Value)
  | raw (text : String)

structure Fault where
  place : List String
  kind : String
deriving Repr, DecidableEq

inductive BodyFault where
  | faults (faults : List Fault)
  | unparsable
deriving Repr, DecidableEq

namespace Body

def byteOrderMark : Char := Char.ofNat 0xFEFF

def document? (body : Body) : Except BodyFault (Option Value) :=
  let present (value : Value) : Option Value := match value with
    | .null => none
    | value => some value
  match body with
  | .absent => .ok none
  | .document value => .ok (present value)
  | .raw text =>
    if text.isEmpty then .ok none
    else
      let text := if text.toList.head? = some byteOrderMark then String.ofList (text.toList.drop 1) else text
      match Json.read text with
      | .ok value => .ok (present value)
      | .error (.invalidAt offset) => .error (.faults [⟨["body", toString offset], "json_invalid"⟩])
      | .error .integerTooLong => .error .unparsable

def fields (body : Body) : Except BodyFault Value := do
  match ← body.document? with
  | none => throw (.faults [⟨["body"], "missing"⟩])
  | some (.mapping entries) => return .mapping entries
  | some _ => throw (.faults [⟨["body"], "model_attributes_type"⟩])

end Body

abbrev Read (α : Type) := Except String α

def readText : Value → Read String
  | .text s => .ok s
  | _ => .error "string_type"

def wholePart (text : List Char) : List Char :=
  let fraction := (text.dropWhile (· != '.')).drop 1
  if fraction.all (· == '0') then text.takeWhile (· != '.') else text

def isPlain (text : List Char) : Bool :=
  text.all fun c => c.toNat < 128

def readWhole : Value → Read Int
  | .bool b => .ok (if b then 1 else 0)
  | .int n => .ok n
  | .float x => match Decimal.truncate? x with
    | some n => if Decimal.compareInt? x n = some .eq then .ok n else .error "int_from_float"
    | none => .error "finite_number"
  | .text s => do
    let text := wholePart (Text.trimmed s.toList)
    unless isPlain text do throw "int_parsing"
    match Decimal.readInteger (String.ofList text) with
    | .ok n => return n
    | .error .malformed => throw "int_parsing"
    | .error (.tooLong _) => throw "int_parsing_size"
  | _ => .error "int_type"

def readNumber : Value → Read Float
  | .bool b => .ok (if b then 1 else 0)
  | .int n => .ok (Decimal.ofInt n)
  | .float x => .ok x
  | .text s =>
    if isPlain (Text.trimmed s.toList) then
      match Decimal.readFloat? s with
      | some x => .ok x
      | none => .error "float_parsing"
    else .error "float_parsing"
  | _ => .error "float_type"

def readBetween (low high : Int) (value : Value) : Read Int := do
  let n ← readWhole value
  if n < low then throw "greater_than_equal"
  if high < n then throw "less_than_equal"
  return n

def readPositive (value : Value) : Read Float := do
  let x ← readNumber value
  if x ≤ 0 then throw "greater_than" else return x

def readOneOf (choices : List String) : Value → Read String
  | .text s => if choices.contains s then .ok s else .error "literal_error"
  | _ => .error "literal_error"

def optional {α : Type} (read : Value → Read α) : Value → Read (Option α)
  | .null => .ok none
  | value => (read value).map some

structure Field (α : Type) where
  name : String
  read : Value → Read α
  default : Option α := none

def Field.from {α : Type} (field : Field α) (body : Value) : Except Fault α :=
  let place := ["body", field.name]
  match body.field? field.name, field.default with
  | some value, _ => (field.read value).mapError (⟨place, ·⟩)
  | none, some default => .ok default
  | none, none => .error ⟨place, "missing"⟩

def faultOf {α : Type} (r : Except Fault α) : List Fault :=
  match r with
  | .ok _ => []
  | .error fault => [fault]

structure TagRequest where
  text : String
  userId : Option String

/-- A question to be answered. The time allowed for it is checked, but no answer depends on it. -/
structure QueryRequest where
  text : String
  userId : Option String

structure SuggestRequest where
  query : String
  category : Option String
  limit : Int

def textField : Field String := { name := "text", read := readText }

def userField : Field (Option String) :=
  { name := "user_id", read := optional readText, default := some none }

def timeoutField : Field (Option Float) :=
  { name := "timeout_seconds", read := optional readPositive, default := some none }

def queryField : Field String := { name := "query", read := readText }

def categories : List String := ["product", "customer", "user"]

def categoryField : Field (Option String) :=
  { name := "category", read := optional (readOneOf categories), default := some none }

def maxSuggestions : Int := 50

def limitField : Field Int :=
  { name := "limit", read := readBetween 1 maxSuggestions, default := some 10 }

def TagRequest.ofBody (body : Body) : Except BodyFault TagRequest := do
  let fields ← body.fields
  match textField.from fields, userField.from fields with
  | .ok text, .ok userId => return ⟨text, userId⟩
  | a, b => throw (.faults (faultOf a ++ faultOf b))

def QueryRequest.ofBody (body : Body) : Except BodyFault QueryRequest := do
  let fields ← body.fields
  match textField.from fields, userField.from fields, timeoutField.from fields with
  | .ok text, .ok userId, .ok _ => return ⟨text, userId⟩
  | a, b, c => throw (.faults (faultOf a ++ faultOf b ++ faultOf c))

def SuggestRequest.ofBody (body : Body) : Except BodyFault SuggestRequest := do
  let fields ← body.fields
  match queryField.from fields, categoryField.from fields, limitField.from fields with
  | .ok query, .ok category, .ok limit => return ⟨query, category, limit⟩
  | a, b, c => throw (.faults (faultOf a ++ faultOf b ++ faultOf c))

end TableTalk.Service
