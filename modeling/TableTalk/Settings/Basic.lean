import TableTalk.Value.Shown
import TableTalk.Decimal.Numeral

namespace TableTalk

inductive SettingsError where
  | notAMapping
  | wrongType
  | notAnInteger (text : String)
  | integerTooLong (digits : Nat)
  | notANumber (text : String)
  | missingInteger
  | infiniteInteger
  | tooLarge
deriving Repr, DecidableEq

namespace SettingsError

def message : SettingsError → String
  | .notAMapping => "a section has to be a mapping"
  | .wrongType => "a value has the wrong type"
  | .notAnInteger text => s!"invalid literal for int() with base 10: {Text.quoted text}"
  | .integerTooLong digits =>
    s!"Exceeds the limit ({Decimal.maxIntegerDigits} digits) for integer string conversion: value has "
      ++ s!"{digits} digits; use sys.set_int_max_str_digits() to increase the limit"
  | .notANumber text => s!"could not convert string to float: {Text.quoted text}"
  | .missingInteger => "cannot convert float NaN to integer"
  | .infiniteInteger => "cannot convert float infinity to integer"
  | .tooLarge => "int too large to convert to float"

end SettingsError

structure Settings where
  environment : Value := .text "local"
  name : Value := .text "lexiquery"
  snapshotPath : Value := .text "data_sources/snapshots/latest.duckdb"
  lexiconPath : Value := .text "config/lexicon.yaml"
  rowLimit : Int := 50
  maxWorkers : Int := 8
  tableTimeout : Float := 5.0
  requestTimeout : Float := 15.0
  domainRowLimit : Int := 500
  prefixMin : Int := 3
  prefixMax : Int := 5
  host : Value := .text "0.0.0.0"
  port : Int := 8000
  allowedOrigins : List Value := [.text "http://localhost:3000"]

namespace Settings

def readInt (value : Value) : Except SettingsError Int :=
  match value with
  | .bool b => .ok (if b then 1 else 0)
  | .int n => .ok n
  | .float x => match Decimal.truncate? x with
    | some n => .ok n
    | none => .error (if Decimal.isNaN x then .missingInteger else .infiniteInteger)
  | .text s => (Decimal.readInteger s).mapError fun
    | .malformed => .notAnInteger s
    | .tooLong digits => .integerTooLong digits
  | _ => .error .wrongType

def readFloat (value : Value) : Except SettingsError Float :=
  match value with
  | .bool b => .ok (if b then 1 else 0)
  | .int n =>
    let x := Decimal.ofInt n
    if Decimal.isFinite x then .ok x else .error .tooLarge
  | .float x => .ok x
  | .text s => match Decimal.readFloat? s with
    | some x => .ok x
    | none => .error (.notANumber s)
  | _ => .error .wrongType

def readList (value : Value) : Except SettingsError (List Value) :=
  match value with
  | .list items => .ok items
  | .text s => .ok (s.toList.map fun c => .text (String.singleton c))
  | .mapping entries => .ok (entries.map Prod.fst)
  | _ => .error .wrongType

/-- The value of a key in a section, if both are there. A section that is there has to be a mapping. -/
def lookup (document : Value) (part key : String) : Except SettingsError (Option Value) :=
  match document.field? part with
  | none => .ok none
  | some (.mapping entries) => .ok ((Value.mapping entries).field? key)
  | some _ => .error .notAMapping

def field {α : Type} (document : Value) (part key : String) (default : α)
    (read : Value → Except SettingsError α) : Except SettingsError α := do
  match ← lookup document part key with
  | some value => read value
  | none => return default

def ofDocument (document : Value) : Except SettingsError Settings := do
  let document := if document.isEmpty then .mapping [] else document
  match document with
  | .mapping _ => pure ()
  | _ => throw .notAMapping
  let d : Settings := {}
  return {
    environment := ← field document "project" "environment" d.environment pure
    name := ← field document "project" "name" d.name pure
    snapshotPath := ← field document "duckdb" "snapshot_path" d.snapshotPath pure
    lexiconPath := ← field document "lexicon" "path" d.lexiconPath pure
    rowLimit := ← field document "query" "row_limit" d.rowLimit readInt
    maxWorkers := ← field document "query" "max_workers" d.maxWorkers readInt
    tableTimeout := ← field document "query" "table_timeout_seconds" d.tableTimeout readFloat
    requestTimeout := ← field document "query" "request_timeout_seconds" d.requestTimeout readFloat
    domainRowLimit := ← field document "cache" "domain_row_limit" d.domainRowLimit readInt
    prefixMin := ← field document "cache" "prefix_min_length" d.prefixMin readInt
    prefixMax := ← field document "cache" "prefix_max_length" d.prefixMax readInt
    host := ← field document "api" "host" d.host pure
    port := ← field document "api" "port" d.port readInt
    allowedOrigins := ← field document "api" "allowed_origins" d.allowedOrigins readList }

def withSnapshot (s : Settings) (path : Option String) : Settings :=
  match path with
  | some path => if path.isEmpty then s else { s with snapshotPath := .text path }
  | none => s

def toRecord (s : Settings) : Value :=
  .record [
    ("project", .record [("environment", s.environment), ("name", s.name)]),
    ("duckdb", .record [("snapshot_path", s.snapshotPath)]),
    ("lexicon", .record [("path", s.lexiconPath)]),
    ("query", .record [("row_limit", .int s.rowLimit), ("max_workers", .int s.maxWorkers),
      ("table_timeout_seconds", .float s.tableTimeout),
      ("request_timeout_seconds", .float s.requestTimeout)]),
    ("cache", .record [("domain_row_limit", .int s.domainRowLimit),
      ("prefix_min_length", .int s.prefixMin), ("prefix_max_length", .int s.prefixMax)]),
    ("api", .record [("host", s.host), ("port", .int s.port),
      ("allowed_origins", .list s.allowedOrigins)])]

end Settings

end TableTalk
