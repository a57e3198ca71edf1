import TableTalk.Proofs.Lexicon.Reading
import TableTalk.Proofs.Routing

namespace TableTalk

def Clue.tableNamed? (clue : Clue) : Option String :=
  match clue.kind, clue.table with
  | .table, some table => if table.isEmpty then none else some table
  | _, _ => none

/-- Where the category of a named thing leads; a category without a name leads nowhere. -/
def Clue.routing? (l : Lexicon) (clue : Clue) : Option CategoryRouting :=
  match clue.kind, clue.category with
  | .domainValue, some category => if category.isEmpty then none else l.categoryRouting? category
  | _, _ => none

theorem Clue.tableNamed?_eq_some {e : Entity} {table : String} (names : e.clue.tableNamed? = some table) :
    e.kind = .table ∧ e.table = some table := by
  unfold Clue.tableNamed? at names
  split at names
  · rename_i kind same
    split at names
    · cases names
    · cases names
      exact ⟨kind, same⟩
  · cases names

theorem Clue.mem_categories {l : Lexicon} {clue : Clue} {routing : CategoryRouting}
    (leads : clue.routing? l = some routing) : routing ∈ l.categories := by
  unfold routing? at leads
  split at leads
  · split at leads
    · cases leads
    · exact List.mem_of_find?_eq_some leads
  · cases leads

theorem Lexicon.mem_relatedTables {l : Lexicon} {table other : String} :
    other ∈ l.relatedTables table ↔ l.isRelated table other = true := by
  rw [relatedTables, List.mem_filter, and_iff_right_iff_imp]
  intro related
  simp only [isRelated, hasTable, Bool.and_eq_true] at related
  exact List.contains_iff_mem.mp related.1.1

namespace Routing

def visitRouting (l : Lexicon) (hasNamed : Bool) (tables : List String) (routing : CategoryRouting) : List String :=
  if routing.homeTable ∈ tables then tables
  else match tables.find? (l.isRelated routing.homeTable) with
    | some _ => visit tables routing.homeTable
    | none => if hasNamed then tables else routing.defaultTables.foldl visit tables

theorem foldl_visit (front tables : List String) :
    tables.foldl visit (Assoc.distinct front) = Assoc.distinct (front ++ tables) := by
  induction tables generalizing front with
  | nil => rw [List.append_nil, List.foldl_nil]
  | cons table rest ih =>
    have step : visit (Assoc.distinct front) table = Assoc.distinct (front ++ [table]) := by
      rw [Assoc.distinct_append_singleton]
      simp only [visit, Assoc.mem_distinct]
    rw [List.foldl_cons, step, ih, List.append_assoc, List.singleton_append]

theorem foldl_visitNamed (clues : List Clue) (tables : List String) :
    clues.foldl visitNamed tables = (clues.filterMap Clue.tableNamed?).foldl visit tables := by
  rw [List.foldl_filterMap]
  congr 1
  funext tables clue
  unfold visitNamed Clue.tableNamed?
  cases clue.table with
  | none => cases clue.kind <;> rfl
  | some table =>
    cases clue.kind with
    | table =>
      dsimp only
      split <;> rfl
    | _ => rfl

theorem foldl_visitDomainValue (l : Lexicon) (hasNamed : Bool) (clues : List Clue) (tables : List String) :
    clues.foldl (visitDomainValue l hasNamed) tables =
      (clues.filterMap (Clue.routing? l)).foldl (visitRouting l hasNamed) tables := by
  rw [List.foldl_filterMap]
  congr 1
  funext tables clue
  unfold visitDomainValue Clue.routing?
  cases clue.category with
  | none => cases clue.kind <;> rfl
  | some category =>
    cases clue.kind with
    | domainValue =>
      dsimp only
      split
      · rfl
      · unfold visitCategory
        cases l.categoryRouting? category <;> rfl
    | _ => rfl

def reachedFrom (l : Lexicon) (named : List String) (homes : List CategoryRouting) : List String :=
  homes.foldl (visitRouting l (!named.isEmpty)) named

theorem visited_eq (l : Lexicon) (clues : List Clue) :
    visited l clues =
      reachedFrom l (Assoc.distinct (clues.filterMap Clue.tableNamed?)) (clues.filterMap (Clue.routing? l)) := by
  unfold visited
  dsimp only
  have named : clues.foldl visitNamed [] = Assoc.distinct (clues.filterMap Clue.tableNamed?) := by
    rw [foldl_visitNamed]
    exact foldl_visit [] _
  rw [foldl_visitDomainValue, named]
  rfl

/-- A table is reached behind others: as the home of a named thing that is related to one of them, or as a default table
when no table is named. -/
def LeadsTo (l : Lexicon) (named before : List String) (routing : CategoryRouting) (table : String) : Prop :=
  table = routing.homeTable ∧ (∃ anchor ∈ before, anchor ∈ l.relatedTables table) ∨
    named = [] ∧ table ∈ routing.defaultTables

/-- The tables reached so far: no table twice, those that are named in front, and every other one reached from those
before it. -/
structure Reached (l : Lexicon) (named : List String) (homes : List CategoryRouting) (tables : List String) : Prop where
  distinct : tables.Nodup
  front : named <+: tables
  further : ∀ before table back, tables = before ++ table :: back →
    named <+: before → ∃ routing ∈ homes, LeadsTo l named before routing table

variable {l : Lexicon} {named tables : List String} {homes : List CategoryRouting} {routing : CategoryRouting}

theorem prefix_visit (tables : List String) (table : String) : tables <+: visit tables table := by
  unfold visit
  split
  · exact List.prefix_refl _
  · exact List.prefix_append _ _

theorem mem_visit (tables : List String) (table : String) : table ∈ visit tables table := by
  unfold visit
  split
  · assumption
  · simp

theorem prefix_foldl {α : Type} {step : List String → α → List String} (grows : ∀ tables a, tables <+: step tables a)
    (items : List α) (tables : List String) : tables <+: items.foldl step tables := by
  induction items generalizing tables with
  | nil => exact List.prefix_refl _
  | cons a rest ih => exact (grows tables a).trans (ih _)

theorem prefix_visitRouting (l : Lexicon) (hasNamed : Bool) (tables : List String) (routing : CategoryRouting) :
    tables <+: visitRouting l hasNamed tables routing := by
  unfold visitRouting
  split
  · exact List.prefix_refl _
  · split
    · exact prefix_visit _ _
    · split
      · exact List.prefix_refl _
      · exact prefix_foldl prefix_visit _ _

theorem reached_named (distinct : named.Nodup) : Reached l named homes named := by
  refine ⟨distinct, List.prefix_refl _, fun before table back same front => ?_⟩
  have length := congrArg List.length same
  have shorter := front.length_le
  simp only [List.length_append, List.length_cons] at length
  omega

theorem Reached.visit (reached : Reached l named homes tables) (member : routing ∈ homes) {table : String}
    (leads : LeadsTo l named tables routing table) : Reached l named homes (visit tables table) := by
  unfold Routing.visit
  split
  · exact reached
  · rename_i new
    obtain ⟨distinct, front, further⟩ := reached
    have single : ([table] : List String).Nodup := List.pairwise_singleton _ _
    refine ⟨List.nodup_append.mpr ⟨distinct, single, fun a inside b here equal => ?_⟩,
      front.trans (List.prefix_append _ _), ?_⟩
    · exact new (List.mem_singleton.mp here ▸ equal ▸ inside)
    · exact Assoc.forall_split_append.mpr ⟨further, fun _ => ⟨routing, member, leads⟩⟩

theorem Reached.visitRouting (reached : Reached l named homes tables) (member : routing ∈ homes) :
    Reached l named homes (visitRouting l (!named.isEmpty) tables routing) := by
  unfold Routing.visitRouting
  split
  · exact reached
  · split
    · rename_i anchor found
      have related := Lexicon.mem_relatedTables.mpr (List.find?_some found)
      exact reached.visit member (Or.inl ⟨rfl, anchor, List.mem_of_find?_eq_some found, related⟩)
    · split
      · exact reached
      · rename_i unnamed
        have none : named = [] := by simpa using unnamed
        -- each default table counts by itself, whatever was added before it
        exact List.foldlRecOn _ _ reached fun _ reached table default => reached.visit member (Or.inr ⟨none, default⟩)

theorem reached_reachedFrom (l : Lexicon) (distinct : named.Nodup) (homes : List CategoryRouting) :
    Reached l named homes (reachedFrom l named homes) :=
  List.foldlRecOn _ _ (reached_named distinct) fun _ reached _ member => reached.visitRouting member

theorem home_mem_visitRouting (hasNamed : Bool) {anchor : String} (member : anchor ∈ tables)
    (related : anchor ∈ l.relatedTables routing.homeTable) :
    routing.homeTable ∈ visitRouting l hasNamed tables routing := by
  unfold visitRouting
  split
  · assumption
  · split
    · exact mem_visit _ _
    · rename_i none
      exact absurd (Lexicon.mem_relatedTables.mp related) (List.find?_eq_none.mp none anchor member)

theorem home_mem_reachedFrom (member : routing ∈ homes) {anchor : String} (known : anchor ∈ named)
    (related : anchor ∈ l.relatedTables routing.homeTable) : routing.homeTable ∈ reachedFrom l named homes := by
  obtain ⟨before, after, rfl⟩ := List.append_of_mem member
  have grows := prefix_visitRouting l (!named.isEmpty)
  rw [reachedFrom, List.foldl_append, List.foldl_cons]
  refine (prefix_foldl grows after _).subset (home_mem_visitRouting _ ?_ related)
  exact (prefix_foldl grows before named).subset known

theorem visitRouting_ne_nil {hasNamed : Bool} (unnamed : hasNamed = false) (defaults : routing.defaultTables ≠ []) :
    visitRouting l hasNamed tables routing ≠ [] := by
  cases tables with
  | cons table rest =>
    intro none
    have kept := prefix_visitRouting l hasNamed (table :: rest) routing
    rw [none, List.prefix_nil] at kept
    cases kept
  | nil =>
    obtain ⟨table, rest, same⟩ := List.exists_cons_of_ne_nil defaults
    have first : table ∈ (table :: rest).foldl visit [] :=
      (prefix_foldl prefix_visit rest _).subset (mem_visit [] table)
    rw [visitRouting, if_neg List.not_mem_nil, List.find?_nil, unnamed]
    dsimp only
    rw [if_neg Bool.false_ne_true, same]
    exact List.ne_nil_of_mem first

theorem reachedFrom_ne_nil (distinct : named.Nodup) :
    reachedFrom l named homes ≠ [] ↔ named ≠ [] ∨ ∃ routing ∈ homes, routing.defaultTables ≠ [] := by
  have reached := reached_reachedFrom l distinct homes
  constructor
  · intro some
    by_cases none : named = []
    · obtain ⟨table, rest, same⟩ := List.exists_cons_of_ne_nil some
      subst none
      obtain ⟨routing, member, ⟨_, anchor, nowhere, _⟩ | ⟨_, default⟩⟩ := reached.further [] table rest same (List.prefix_refl _)
      · cases nowhere
      · exact Or.inr ⟨routing, member, List.ne_nil_of_mem default⟩
    · exact Or.inl none
  · rintro (some | ⟨routing, member, defaults⟩) none
    · exact some (List.prefix_nil.mp (none ▸ reached.front))
    · by_cases unnamed : named = []
      · obtain ⟨before, after, rfl⟩ := List.append_of_mem member
        rw [reachedFrom, List.foldl_append, List.foldl_cons] at none
        have kept := prefix_foldl (prefix_visitRouting l (!named.isEmpty)) after
          (visitRouting l (!named.isEmpty) (before.foldl (visitRouting l (!named.isEmpty)) named) routing)
        rw [none, List.prefix_nil] at kept
        exact visitRouting_ne_nil (by rw [unnamed]; rfl) defaults kept
      · exact unnamed (List.prefix_nil.mp (none ▸ reached.front))

theorem reached_declared (declared : l.MentionsDeclared) (named_declared : ∀ table ∈ named, l.hasTable table = true)
    (known : ∀ routing ∈ homes, routing ∈ l.categories) (reached : Reached l named homes tables) :
    ∀ table ∈ tables, l.hasTable table = true := by
  intro table member
  obtain ⟨further, rfl⟩ := reached.front
  rcases List.mem_append.mp member with here | there
  · exact named_declared table here
  · obtain ⟨front, back, rfl⟩ := List.append_of_mem there
    obtain ⟨routing, among, ⟨rfl, _⟩ | ⟨_, default⟩⟩ :=
      reached.further (named ++ front) table back (List.append_assoc _ _ _).symm (List.prefix_append _ _)
    · exact declared.homes routing (known routing among)
    · exact declared.defaults routing (known routing among) table default

theorem tables_withReason (reason : String) (tables : List String) :
    Assoc.keys (withReason reason tables) = Assoc.distinct tables := by
  rw [withReason, Assoc.keys, List.map_map]
  exact List.map_id _

theorem tables_fallback (l : Lexicon) (entities : List Entity) :
    (fallback l entities).tables = Assoc.distinct
      (if isPersonal entities = true ∧ l.personalTables ≠ [] then l.personalTables else l.fallbackTables) := by
  have same : (isPersonal entities && !l.personalTables.isEmpty) = true ↔
      isPersonal entities = true ∧ l.personalTables ≠ [] := by
    simp
  unfold fallback
  by_cases personal : (isPersonal entities && !l.personalTables.isEmpty) = true
  · rw [if_pos personal, if_pos (same.mp personal)]
    exact tables_withReason _ _
  · rw [if_neg personal, if_neg fun own => personal (same.mpr own)]
    exact tables_withReason _ _

theorem method_fallback (l : Lexicon) (entities : List Entity) : (fallback l entities).method ≠ .entities := by
  unfold fallback
  split <;> nofun

theorem route_cases (l : Lexicon) (entities : List Entity) :
    visited l (entities.map Entity.clue) = [] ∧ route l entities = fallback l entities ∨
      visited l (entities.map Entity.clue) ≠ [] ∧ (route l entities).method = .entities ∧
        (route l entities).tables = visited l (entities.map Entity.clue) := by
  have keys := keys_fromEntities l entities
  unfold route
  cases found : fromEntities l entities with
  | nil =>
    rw [found] at keys
    exact Or.inl ⟨keys.symm, rfl⟩
  | cons reason reasons =>
    rw [found] at keys
    refine Or.inr ⟨?_, rfl, keys⟩
    rw [← keys]
    nofun

theorem route_distinct (l : Lexicon) (entities : List Entity) : (route l entities).tables.Nodup := by
  rcases route_cases l entities with ⟨_, same⟩ | ⟨_, _, same⟩
  · rw [same, tables_fallback]
    exact Assoc.distinct_nodup _
  · rw [same, visited_eq]
    exact (reached_reachedFrom l (Assoc.distinct_nodup _) _).distinct

/-- Where a question leads whose tables are all declared: no table twice, only declared ones, those that are named first
and in order, every further one the home of a named thing and related to a table before it, and no home left out that is
related to a named table. Without any table named or led to, a personal question goes to the personal tables and any
other one to the common ones. -/
theorem route_reaches (document : Value) (l : Lexicon) (read : Lexicon.ofDocument document = .ok l)
    (entities : List Entity)
    (named_declared : ∀ e ∈ entities, e.kind = .table → ∀ table, e.table = some table →
      table ≠ "" ∧ l.hasTable table = true) :
    let r := route l entities
    let named := Assoc.distinct ((entities.map Entity.clue).filterMap Clue.tableNamed?)
    let homes := (entities.map Entity.clue).filterMap (Clue.routing? l)
    r.tables.Nodup ∧ (∀ table ∈ r.tables, l.hasTable table = true) ∧ r.tables = Assoc.keys r.reasons ∧
      named <+: r.tables ∧
      (named ≠ [] → ∀ front table back, r.tables = named ++ front ++ table :: back →
        (∃ routing ∈ homes, routing.homeTable = table) ∧ ∃ anchor ∈ named ++ front, anchor ∈ l.relatedTables table) ∧
      (∀ routing ∈ homes, (∃ anchor ∈ named, anchor ∈ l.relatedTables routing.homeTable) →
        routing.homeTable ∈ r.tables) ∧
      (r.method = .entities ↔ named ≠ [] ∨ ∃ routing ∈ homes, routing.defaultTables ≠ []) ∧
      (r.method ≠ .entities → r.tables = Assoc.distinct
        (if isPersonal entities = true ∧ l.personalTables ≠ [] then l.personalTables else l.fallbackTables)) := by
  intro r named homes
  have mentions := Lexicon.ofDocument_mentionsDeclared read
  have distinct : named.Nodup := Assoc.distinct_nodup _
  have reached := reached_reachedFrom l distinct homes
  have led : reachedFrom l named homes ≠ [] ↔ _ := reachedFrom_ne_nil distinct
  have all_declared : ∀ table ∈ reachedFrom l named homes, l.hasTable table = true := by
    refine reached_declared mentions (fun table member => ?_) (fun routing member => ?_) reached
    · obtain ⟨clue, among, names⟩ := List.mem_filterMap.mp (Assoc.mem_distinct.mp member)
      obtain ⟨e, inside, rfl⟩ := List.mem_map.mp among
      obtain ⟨kind, same⟩ := Clue.tableNamed?_eq_some names
      exact (named_declared e inside kind table same).2
    · obtain ⟨clue, _, leads⟩ := List.mem_filterMap.mp member
      exact clue.mem_categories leads
  rw [← visited_eq l (entities.map Entity.clue)] at reached led all_declared
  rcases route_cases l entities with ⟨none, same⟩ | ⟨some, method, tables⟩
  · -- nothing is named and nothing leads anywhere
    have unled : ¬ (named ≠ [] ∨ ∃ routing ∈ homes, routing.defaultTables ≠ []) := fun leads => led.mpr leads none
    have unnamed : named = [] := Classical.not_not.mp fun names => unled (Or.inl names)
    have tables := tables_fallback l entities
    have method := method_fallback l entities
    rw [← same] at tables method
    refine ⟨tables ▸ Assoc.distinct_nodup _, ?_, rfl, unnamed ▸ List.nil_prefix, fun names => absurd unnamed names,
      ?_, ⟨fun same => absurd same method, fun leads => absurd leads unled⟩, fun _ => tables⟩
    · intro table member
      rw [tables, Assoc.mem_distinct] at member
      split at member
      · exact mentions.personal table member
      · exact mentions.fallback table member
    · rintro routing _ ⟨anchor, known, _⟩
      rw [unnamed] at known
      cases known
  · refine ⟨tables ▸ reached.distinct, tables ▸ all_declared, rfl, tables ▸ reached.front, ?_, ?_,
      ⟨fun _ => led.mp some, fun _ => method⟩, fun other => absurd method other⟩
    · intro names front table back split
      rw [tables] at split
      obtain ⟨routing, member, ⟨home, anchor⟩ | ⟨unnamed, _⟩⟩ :=
        reached.further (named ++ front) table back split (List.prefix_append _ _)
      · exact ⟨⟨routing, member, home.symm⟩, anchor⟩
      · exact absurd unnamed names
    · rintro routing member ⟨anchor, known, related⟩
      rw [tables, visited_eq]
      exact home_mem_reachedFrom member known related

def shopDocument : Value :=
  .record [
    ("tables", .record [
      ("sales", .record [("relationships", .record [
        ("products", .record [("foreign_key", .text "product_id")]),
        ("customers", .record [("foreign_key", .text "customer_id")])])]),
      ("products", .null), ("customers", .null)]),
    ("categories", .record [
      ("product", .record [("home_table", .text "products")]),
      ("", .record [("home_table", .text "customers")])])]

def shopLexicon : Lexicon :=
  { tables := [
      { table := "sales", relationships := [("products", ⟨"product_id", "id"⟩), ("customers", ⟨"customer_id", "id"⟩)] },
      { table := "products" }, { table := "customers" }]
    categories := [⟨"product", "products", []⟩, ⟨"", "customers", []⟩] }

def salesMention : Entity :=
  { text := "sales", kind := .table, span := ⟨7, 12⟩, confidence := 0.95, table := some "sales" }

def nameMention (category : String) : Entity :=
  { text := "laptop", kind := .domainValue, span := ⟨0, 6⟩, confidence := 0.9, category := some category }

theorem laptop_sales_reached :
    let entities := [nameMention "product", salesMention]
    let r := route shopLexicon entities
    Lexicon.ofDocument shopDocument = .ok shopLexicon ∧
      (∀ e ∈ entities, e.kind = .table → ∀ table, e.table = some table →
        table ≠ "" ∧ shopLexicon.hasTable table = true) ∧
      r.tables = ["sales", "products"] ∧ r.tables.Nodup ∧ (∀ table ∈ r.tables, shopLexicon.hasTable table = true) ∧
        ["sales"] <+: r.tables := by
  intro entities r
  have read : Lexicon.ofDocument shopDocument = .ok shopLexicon := by rfl
  have declared : ∀ e ∈ entities, e.kind = .table → ∀ table, e.table = some table →
      table ≠ "" ∧ shopLexicon.hasTable table = true := by
    intro e member kind table same
    simp only [entities, List.mem_cons, List.not_mem_nil, or_false] at member
    rcases member with rfl | rfl
    · cases kind
    · cases same
      decide
  obtain ⟨distinct, known, _, front, _⟩ := route_reaches shopDocument shopLexicon read entities declared
  exact ⟨read, declared, by decide +kernel, distinct, known, front⟩

/-- A category without a name leads nowhere, although its home is declared and related to a named table. -/
theorem unnamed_category_unreached :
    let r := route shopLexicon [salesMention, nameMention ""]
    Lexicon.ofDocument shopDocument = .ok shopLexicon ∧
      shopLexicon.categoryRouting? "" = some ⟨"", "customers", []⟩ ∧
        "sales" ∈ shopLexicon.relatedTables "customers" ∧ r.tables = ["sales"] := by
  refine ⟨rfl, by decide, by decide, by decide +kernel⟩

end Routing

end TableTalk
