import TableTalk.Proofs.Outcome
import TableTalk.Settings.Basic

namespace TableTalk.Settings

open Outcome

def defaults : Settings := {}

def sections : List String :=
  ["project", "duckdb", "lexicon", "query", "cache", "api"]

def valueAt? (document : Value) (part key : String) : Option Value :=
  (document.field? part).bind (·.field? key)

/-- What a key comes to: its value, converted, or without one the default. -/
def Takes {α : Type} (document : Value) (part key : String) (default : α) (read : Value → Except SettingsError α)
    (x : α) : Prop :=
  match valueAt? document part key with
  | some value => read value = .ok x
  | none => x = default

/-- Settings that say what a document says; a path from outside takes the place of that of the document. -/
structure Reflects (document : Value) (path : Option String) (s : Settings) : Prop where
  environment : Takes document "project" "environment" defaults.environment pure s.environment
  name : Takes document "project" "name" defaults.name pure s.name
  snapshotPath : match path.filter (!·.isEmpty) with
    | some path => s.snapshotPath = .text path
    | none => Takes document "duckdb" "snapshot_path" defaults.snapshotPath pure s.snapshotPath
  lexiconPath : Takes document "lexicon" "path" defaults.lexiconPath pure s.lexiconPath
  rowLimit : Takes document "query" "row_limit" defaults.rowLimit readInt s.rowLimit
  maxWorkers : Takes document "query" "max_workers" defaults.maxWorkers readInt s.maxWorkers
  tableTimeout : Takes document "query" "table_timeout_seconds" defaults.tableTimeout readFloat s.tableTimeout
  requestTimeout :
    Takes document "query" "request_timeout_seconds" defaults.requestTimeout readFloat s.requestTimeout
  domainRowLimit : Takes document "cache" "domain_row_limit" defaults.domainRowLimit readInt s.domainRowLimit
  prefixMin : Takes document "cache" "prefix_min_length" defaults.prefixMin readInt s.prefixMin
  prefixMax : Takes document "cache" "prefix_max_length" defaults.prefixMax readInt s.prefixMax
  host : Takes document "api" "host" defaults.host pure s.host
  port : Takes document "api" "port" defaults.port readInt s.port
  allowedOrigins : Takes document "api" "allowed_origins" defaults.allowedOrigins readList s.allowedOrigins

def integerKeys : List (String × String) :=
  [("query", "row_limit"), ("query", "max_workers"), ("cache", "domain_row_limit"), ("cache", "prefix_min_length"),
    ("cache", "prefix_max_length"), ("api", "port")]

def floatKeys : List (String × String) :=
  [("query", "table_timeout_seconds"), ("query", "request_timeout_seconds")]

def listKeys : List (String × String) :=
  [("api", "allowed_origins")]

def Converts {α : Type} (document : Value) (keys : List (String × String)) (read : Value → Except SettingsError α) :
    Prop :=
  ∀ entry ∈ keys, ∀ value, valueAt? document entry.1 entry.2 = some value → (read value).isOk = true

/-- A document that is empty, or a mapping with sections that are empty or mappings themselves, and with values that
can be converted. -/
structure Offered (document : Value) : Prop where
  shape : document.isEmpty = true ∨ ∃ entries, document = .mapping entries
  parts : ∀ part ∈ sections, ∀ inner, document.field? part = some inner →
    inner = .null ∨ ∃ entries, inner = .mapping entries
  integers : Converts document integerKeys readInt
  floats : Converts document floatKeys readFloat
  lists : Converts document listKeys readList

def EmptyHeader (document : Value) (fault : SettingsError) : Prop :=
  fault = .notAMapping ∧ ∃ part ∈ sections, document.field? part = some .null

theorem mem_sections : ∀ entry ∈ integerKeys ++ floatKeys ++ listKeys, entry.1 ∈ sections := by
  decide

theorem Reflects.withSnapshot {document : Value} {s : Settings} (reflects : Reflects document none s)
    (path : Option String) : Reflects document path (s.withSnapshot path) := by
  unfold Settings.withSnapshot
  cases path with
  | none => exact reflects
  | some path =>
    by_cases empty : path.isEmpty = true
    · simp only [empty, ↓reduceIte]
      exact { reflects with snapshotPath := by simpa [Option.filter, empty] using reflects.snapshotPath }
    · simp only [empty]
      exact { reflects with snapshotPath := by simp [Option.filter, empty] }

section Field

variable {α : Type} {document : Value} {part key : String} {default : α} {read : Value → Except SettingsError α}

theorem lookup_ok {found : Option Value} (looked : lookup document part key = .ok found) :
    document.field? part ≠ some .null ∧ valueAt? document part key = found := by
  unfold lookup at looked
  unfold valueAt?
  split at looked
  · rename_i missing
    cases looked
    simp [missing]
  · rename_i entries there
    cases looked
    simp [there]
  · cases looked

theorem lookup_error {fault : SettingsError} (failed : lookup document part key = .error fault) :
    fault = .notAMapping ∧ ∃ inner, document.field? part = some inner ∧ ∀ entries, inner ≠ .mapping entries := by
  unfold lookup at failed
  split at failed
  · cases failed
  · cases failed
  · rename_i inner other there
    cases failed
    exact ⟨rfl, inner, there, other⟩

theorem field_ok {x : α} (taken : field document part key default read = .ok x) :
    document.field? part ≠ some .null ∧ Takes document part key default read x := by
  obtain ⟨found, looked, taken⟩ := bind_ok.mp taken
  obtain ⟨filled, rfl⟩ := lookup_ok looked
  refine ⟨filled, ?_⟩
  cases given : valueAt? document part key with
  | some value =>
    simp only [given] at taken
    simpa only [Takes, given] using taken
  | none =>
    simp only [given, pure_ok] at taken
    simpa only [Takes, given] using taken.symm

theorem field_failsOnly (offered : Offered document) (listed : part ∈ sections)
    (converts : ∀ value, valueAt? document part key = some value → (read value).isOk = true) :
    FailsOnly (EmptyHeader document) (field document part key default read) := by
  intro fault failed
  rcases bind_error.mp failed with failed | ⟨found, looked, failed⟩
  · obtain ⟨rfl, inner, there, other⟩ := lookup_error failed
    rcases offered.parts part listed inner there with rfl | ⟨entries, rfl⟩
    · exact ⟨rfl, part, listed, there⟩
    · exact absurd rfl (other entries)
  · obtain ⟨_, rfl⟩ := lookup_ok looked
    split at failed
    · rename_i value given
      have converted := converts value given
      rw [failed] at converted
      cases converted
    · cases failed

end Field

theorem field?_of_isEmpty {document : Value} (empty : document.isEmpty = true) (name : String) :
    document.field? name = none := by
  cases document with
  | mapping entries =>
    rw [List.isEmpty_iff.mp empty]
    rfl
  | _ => rfl

theorem field_ofEmpty {α : Type} (document : Value) (part key : String) (default : α)
    (read : Value → Except SettingsError α) :
    field (if document.isEmpty then .mapping [] else document) part key default read =
      field document part key default read := by
  by_cases empty : document.isEmpty = true
  · have none : (Value.mapping []).field? part = none := rfl
    simp only [empty, field, lookup, field?_of_isEmpty empty, none, ↓reduceIte]
  · rw [if_neg empty]

/-- Whatever is read reflects the document, and no section of it is an empty header. -/
theorem ofDocument_ok {document : Value} {s : Settings} (done : ofDocument document = .ok s) :
    (∀ part ∈ sections, document.field? part ≠ some .null) ∧ Reflects document none s := by
  unfold ofDocument at done
  simp only [field_ofEmpty] at done
  split at done
  · simp only [bind_ok, pure_ok] at done
    obtain ⟨_, environment, _, name, _, snapshotPath, _, lexiconPath, _, rowLimit, _, maxWorkers, _, tableTimeout, _,
      requestTimeout, _, domainRowLimit, _, prefixMin, _, prefixMax, _, host, _, port, _, allowedOrigins, rfl⟩ := done
    refine ⟨?_, ?_⟩
    · simp only [sections, List.forall_mem_cons]
      exact ⟨(field_ok environment).1, (field_ok snapshotPath).1, (field_ok lexiconPath).1, (field_ok rowLimit).1,
        (field_ok domainRowLimit).1, (field_ok host).1, nofun⟩
    · exact ⟨(field_ok environment).2, (field_ok name).2, (field_ok snapshotPath).2, (field_ok lexiconPath).2,
        (field_ok rowLimit).2, (field_ok maxWorkers).2, (field_ok tableTimeout).2, (field_ok requestTimeout).2,
        (field_ok domainRowLimit).2, (field_ok prefixMin).2, (field_ok prefixMax).2, (field_ok host).2, (field_ok port).2,
        (field_ok allowedOrigins).2⟩
  · cases done

theorem ofDocument_failsOnly {document : Value} (offered : Offered document) :
    FailsOnly (EmptyHeader document) (ofDocument document) := by
  have text (part key : String) (default : Value) (listed : part ∈ sections) :
      FailsOnly (EmptyHeader document) (field document part key default pure) :=
    field_failsOnly offered listed fun _ _ => rfl
  have integer (part key : String) (default : Int) (listed : (part, key) ∈ integerKeys) :
      FailsOnly (EmptyHeader document) (field document part key default readInt) :=
    field_failsOnly offered (mem_sections (part, key) (by simp [listed])) (offered.integers _ listed)
  have float (part key : String) (default : Float) (listed : (part, key) ∈ floatKeys) :
      FailsOnly (EmptyHeader document) (field document part key default readFloat) :=
    field_failsOnly offered (mem_sections (part, key) (by simp [listed])) (offered.floats _ listed)
  have list (part key : String) (default : List Value) (listed : (part, key) ∈ listKeys) :
      FailsOnly (EmptyHeader document) (field document part key default readList) :=
    field_failsOnly offered (mem_sections (part, key) (by simp [listed])) (offered.lists _ listed)
  unfold ofDocument
  simp only [field_ofEmpty]
  split
  · -- the keys in the order in which they are read
    refine .bind (text _ _ _ (by decide)) fun _ => .bind (text _ _ _ (by decide)) fun _ => ?_
    refine .bind (text _ _ _ (by decide)) fun _ => .bind (text _ _ _ (by decide)) fun _ => ?_
    refine .bind (integer _ _ _ (by decide)) fun _ => .bind (integer _ _ _ (by decide)) fun _ => ?_
    refine .bind (float _ _ _ (by decide)) fun _ => .bind (float _ _ _ (by decide)) fun _ => ?_
    refine .bind (integer _ _ _ (by decide)) fun _ => .bind (integer _ _ _ (by decide)) fun _ => ?_
    refine .bind (integer _ _ _ (by decide)) fun _ => .bind (text _ _ _ (by decide)) fun _ => ?_
    refine .bind (integer _ _ _ (by decide)) fun _ => .bind (list _ _ _ (by decide)) fun _ => ?_
    exact nofun
  · -- an offered document is a mapping, or empty and read as one
    rename_i other
    exfalso
    rcases offered.shape with empty | ⟨entries, rfl⟩
    · exact other [] (if_pos empty)
    · by_cases empty : (Value.mapping entries).isEmpty = true
      · exact other [] (if_pos empty)
      · exact other entries (if_neg empty)

/-- An offered document gives settings that reflect it if and only if none of its sections is an empty header. With
such a section, which says no more than a missing one, it gives none. -/
theorem ofDocument_offered {document : Value} (offered : Offered document) (path : Option String) :
    ((∀ part ∈ sections, document.field? part ≠ some .null) →
      ∃ s, (ofDocument document).map (·.withSnapshot path) = .ok s ∧ Reflects document path s) ∧
    ((∃ part ∈ sections, document.field? part = some .null) → ofDocument document = .error .notAMapping) := by
  have fails := ofDocument_failsOnly offered
  cases read : ofDocument document with
  | error fault =>
    obtain ⟨rfl, header⟩ := fails fault read
    obtain ⟨part, listed, empty⟩ := header
    exact ⟨fun filled => absurd empty (filled part listed), fun _ => rfl⟩
  | ok s =>
    obtain ⟨filled, reflects⟩ := ofDocument_ok read
    refine ⟨fun _ => ⟨s.withSnapshot path, rfl, reflects.withSnapshot path⟩, ?_⟩
    rintro ⟨part, listed, empty⟩
    exact absurd empty (filled part listed)

theorem ofDocument_offered_limit :
    let document : Value := .record [("query", .record [("row_limit", .text "12")]), ("api", .record [])]
    Offered document ∧
      ((∀ part ∈ sections, document.field? part ≠ some .null) →
        ∃ s, (ofDocument document).map (·.withSnapshot (some ":memory:")) = .ok s ∧
          Reflects document (some ":memory:") s) ∧
      ((∃ part ∈ sections, document.field? part = some .null) → ofDocument document = .error .notAMapping) := by
  intro document
  have offered : Offered document := {
    shape := .inr ⟨_, rfl⟩
    parts := by
      simp only [sections, List.forall_mem_cons]
      refine ⟨nofun, nofun, nofun, ?_, nofun, ?_, nofun⟩
      · exact fun inner there => .inr ⟨_, (Option.some.inj there).symm⟩
      · exact fun inner there => .inr ⟨_, (Option.some.inj there).symm⟩
    integers := by
      simp only [Converts, integerKeys, List.forall_mem_cons]
      refine ⟨?_, nofun, nofun, nofun, nofun, nofun, nofun⟩
      intro value given
      cases given
      decide
    floats := by
      simp only [Converts, floatKeys, List.forall_mem_cons]
      exact ⟨nofun, nofun, nofun⟩
    lists := by
      simp only [Converts, listKeys, List.forall_mem_cons]
      exact ⟨nofun, nofun⟩ }
  exact ⟨offered, ofDocument_offered offered (some ":memory:")⟩

/-- A document with nothing but the header of a section is refused, though it says no more than an empty one. -/
theorem empty_header_refused :
    Offered (.record [("query", .null)]) ∧ ofDocument (.record [("query", .null)]) = .error .notAMapping ∧
      ofDocument (.record []) = .ok defaults := by
  refine ⟨?_, rfl, rfl⟩
  exact {
    shape := .inr ⟨_, rfl⟩
    parts := by
      simp only [sections, List.forall_mem_cons]
      refine ⟨nofun, nofun, nofun, ?_, nofun, nofun, nofun⟩
      exact fun inner there => .inl (Option.some.inj there).symm
    integers := by
      simp only [Converts, integerKeys, List.forall_mem_cons]
      exact ⟨nofun, nofun, nofun, nofun, nofun, nofun, nofun⟩
    floats := by
      simp only [Converts, floatKeys, List.forall_mem_cons]
      exact ⟨nofun, nofun, nofun⟩
    lists := by
      simp only [Converts, listKeys, List.forall_mem_cons]
      exact ⟨nofun, nofun⟩ }

end TableTalk.Settings
