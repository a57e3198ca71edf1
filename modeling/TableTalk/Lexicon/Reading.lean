import TableTalk.Lexicon.Basic
import TableTalk.Lexicon.Error
import TableTalk.Value.Shown

namespace TableTalk.Lexicon

abbrev Reading (α : Type) := Except LexiconFailure α

def reject {α : Type} (error : LexiconError) : Reading α :=
  .error (.rejected error)

def section? (name : String) (document : Value) : Option Value :=
  (document.field? name).filter fun value => !value.isEmpty

def textField (name default : String) (document : Value) : String :=
  (document.field? name).elim default Value.shown

def readTexts (place : String) (value : Option Value) : Reading (List String) :=
  match value with
  | none | some .null => .ok []
  | some (.list items) => .ok (items.map Value.shown)
  | some other => reject (.notAList place other.kind)

def entriesOf (value : Option Value) : Reading (List (Value × Value)) :=
  match value with
  | none => .ok []
  | some (.mapping entries) => .ok entries
  | some _ => .error (.fault .notAMapping)

/-- The items of a section that has to be a collection: a mapping is gone through by its keys and a
text by its characters. -/
def itemsOf (value : Option Value) : Reading (List Value) :=
  match value with
  | none => .ok []
  | some (.list items) => .ok items
  | some (.mapping entries) => .ok (entries.map Prod.fst)
  | some (.text s) => .ok (s.toList.map fun c => .text (String.singleton c))
  | some _ => .error (.fault .wrongType)

def readHint (table : String) : Value → Reading (String × String)
  | .list [word, column] => .ok (Text.lower word.shown, column.shown)
  | _ => reject (.malformedHint table)

def readRelationship (table : String) (entry : Value × Value) : Reading (String × Relationship) :=
  let target := entry.1.shown
  match entry.2.field? "foreign_key" with
  | some key => .ok (target, ⟨key.shown, textField "target_key" "id" entry.2⟩)
  | none => reject (.noForeignKey table target)

def readTable (name : String) (body : Value) : Reading Taxonomy := do
  let body := if body.isEmpty then .mapping [] else body
  match body with
  | .mapping _ => pure ()
  | _ => reject (.tableNotMapping name)
  let hints ← (← itemsOf (section? "numeric_hints" body)).mapM (readHint name)
  let relationships ← (← entriesOf (section? "relationships" body)).mapM (readRelationship name)
  let fields (field : String) : Reading (List String) :=
    readTexts s!"tables.{name}.{field}" (body.field? field)
  return {
    table := name
    primaryKey := textField "primary_key" "id" body
    aliases := (← fields "aliases").map Text.lower
    userFields := ← fields "user_fields"
    productFields := ← fields "product_fields"
    customerFields := ← fields "customer_fields"
    statusFields := ← fields "status_fields"
    priorityFields := ← fields "priority_fields"
    dateFields := ← fields "date_fields"
    locationFields := ← fields "location_fields"
    numericFields := ← fields "numeric_fields"
    numericHints := hints
    relationships := Assoc.ofList relationships }

def readTables (document : Value) : Reading (List Taxonomy) :=
  match document.field? "tables" with
  | some (.mapping (entry :: entries)) => do
    let tables ← (entry :: entries).mapM fun (key, body) => readTable key.shown body
    return (Assoc.ofList (tables.map fun t => (t.table, t))).map Prod.snd
  | _ => reject .noTables

def readSynonymGroup (synonyms : Value) (group : SynonymGroup) : Reading SynonymList :=
  match section? group.name synonyms with
  | none => .ok []
  | some (.mapping entries) => do
    let pairs ← entries.mapM fun (canonical, phrases) => do
      let name := canonical.shown
      return (name, ← readTexts s!"synonyms.{group.name}.{name}" (some phrases))
    return Assoc.ofList pairs
  | some _ => reject (.synonymGroupNotMapping group.name)

def readSynonyms (document : Value) : Reading Synonyms := do
  let synonyms := (section? "synonyms" document).getD (.mapping [])
  match synonyms with
  | .mapping _ => pure ()
  | _ => reject .synonymsNotMapping
  return {
    status := ← readSynonymGroup synonyms .status
    priority := ← readSynonymGroup synonyms .priority
    location := ← readSynonymGroup synonyms .location
    temporal := ← readSynonymGroup synonyms .temporal }

def readComparison (entry : Value × Value) : Reading (Bound × List String) :=
  let bound := match entry.1 with
    | .text name => Bound.ofName? name
    | _ => none
  match bound with
  | some bound => do return (bound, ← readTexts s!"comparisons.{bound.name}" (some entry.2))
  | none => reject (.unsupportedComparison entry.1.shown)

def sourcePart (index : Nat) (source : Value) (name : String) : Reading Value :=
  match source with
  | .mapping _ => match source.field? name with
    | some value => .ok value
    | none => reject (.malformedSource index (.missingKey name))
  | .text _ => reject (.malformedSource index .textInstead)
  | .list _ => reject (.malformedSource index .listInstead)
  | other => reject (.malformedSource index (.scalarInstead other.kind))

def readSource (source : Value) (index : Nat) : Reading DomainSource := do
  let category ← sourcePart index source "category"
  let table ← sourcePart index source "table"
  let columns ← sourcePart index source "value_columns"
  return {
    category := category.shown
    table := table.shown
    idColumn := textField "id_column" "id" source
    valueColumns := ← readTexts s!"domain_sources[{index}].value_columns" (some columns) }

def readCategory (entry : Value × Value) : Reading CategoryRouting :=
  let category := entry.1.shown
  match entry.2.field? "home_table" with
  | some home => do
    return {
      category := category
      homeTable := home.shown
      defaultTables :=
        ← readTexts s!"categories.{category}.default_tables" (entry.2.field? "default_tables") }
  | none => reject (.noHomeTable category)

def mentions (l : Lexicon) : List (String × String) :=
  l.domainSources.map (fun source => (s!"domain_sources.{source.category}", source.table))
    ++ l.categories.flatMap (fun routing =>
      (s!"categories.{routing.category}.home_table", routing.homeTable) ::
        routing.defaultTables.map fun t => (s!"categories.{routing.category}.default_tables", t))
    ++ l.fallbackTables.map (fun t => ("fallback_tables", t))
    ++ l.personalTables.map (fun t => ("personal_tables", t))

def checkMentions (l : Lexicon) : Reading Lexicon :=
  match l.mentions.find? fun mention => !l.hasTable mention.2 with
  | some (place, table) => reject (.unknownTable place table)
  | none => .ok l

def ofDocument (document : Value) : Reading Lexicon := do
  match document with
  | .mapping _ => pure ()
  | _ => reject .documentNotMapping
  let tables ← readTables document
  let synonyms ← readSynonyms document
  let comparisons ← (← entriesOf (section? "comparisons" document)).mapM readComparison
  let sources ← (← itemsOf (section? "domain_sources" document)).zipIdx.mapM fun (source, index) =>
    readSource source index
  let categories ← (← entriesOf (section? "categories" document)).mapM readCategory
  let texts (name : String) : Reading (List String) := readTexts name (document.field? name)
  checkMentions {
    tables := tables
    synonyms := synonyms
    pronouns := Assoc.distinct ((← texts "pronouns").map Text.lower)
    comparisons := Assoc.ofList comparisons
    stopWords := Assoc.distinct ((← texts "stop_words").map Text.lower)
    domainSources := sources
    categories := (Assoc.ofList (categories.map fun c => (c.category, c))).map Prod.snd
    fallbackTables := ← texts "fallback_tables"
    personalTables := ← texts "personal_tables" }

end TableTalk.Lexicon
