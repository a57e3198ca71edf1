import TableTalk.Proofs.Lexicon.TableWords
import TableTalk.Proofs.Routing.Reaching
import TableTalk.Proofs.Tagging.Coverage
import TableTalk.Proofs.Tagging.Degradation

namespace TableTalk

def Lexicon.tablesIn (l : Lexicon) (question : String) : List String :=
  (Token.scan question.toList).filterMap fun token => (Assoc.get? token.text l.tableWords).map TableWord.table

theorem Lexicon.tablesIn_oneToken (l : Lexicon) {word : String} (single : Text.IsToken word) {known : TableWord}
    (found : Assoc.get? (Text.lower word) l.tableWords = some known) : l.tablesIn word = [known.table] := by
  rw [tablesIn, Token.scan_single single, List.filterMap_cons, found]
  rfl

namespace Routing

variable {l : Lexicon} {entities : List Entity}

theorem visited_unnamed (unnamed : ∀ e ∈ entities, e.kind ≠ .domainValue) :
    visited l (entities.map Entity.clue) =
      Assoc.distinct ((entities.map Entity.clue).filterMap Clue.tableNamed?) := by
  have homeless : (entities.map Entity.clue).filterMap (Clue.routing? l) = [] := by
    rw [List.filterMap_map, List.filterMap_eq_nil_iff]
    intro e member
    change Clue.routing? l e.clue = none
    unfold Clue.routing?
    split
    · rename_i kind _
      exact absurd kind (unnamed e member)
    · rfl
  rw [visited_eq, homeless]
  rfl

theorem tables_unnamed (unnamed : ∀ e ∈ entities, e.kind ≠ .domainValue) {named : List String}
    (same : (entities.map Entity.clue).filterMap Clue.tableNamed? = named) :
    (route l entities).tables = if named = [] then (fallback l entities).tables else Assoc.distinct named := by
  have met := visited_unnamed (l := l) unnamed
  rw [same] at met
  rcases route_cases l entities with ⟨none, routed⟩ | ⟨some, _, tables⟩
  · have nothing : named = [] := by
      cases named with
      | nil => rfl
      | cons table rest =>
        rw [met] at none
        cases none
    rw [if_pos nothing, routed]
  · have something : named ≠ [] := by
      rintro rfl
      exact some met
    rw [if_neg something, tables, met]

theorem primary?_unnamed (unnamed : ∀ e ∈ entities, e.kind ≠ .domainValue) {named : List String}
    (same : (entities.map Entity.clue).filterMap Clue.tableNamed? = named) :
    (route l entities).primary? = named.head?.or (fallback l entities).primary? := by
  rw [primary?, tables_unnamed unnamed same]
  cases named <;> rfl

end Routing

namespace Tagger

variable {t : Tagger} {l : Lexicon}

theorem tableNamed?_tableEntity (p : Part) (word : TableWord) :
    (tableEntity p word).clue.tableNamed? = (some word.table).filter fun table => table ≠ "" := by
  by_cases nameless : word.table = ""
  · simp [Entity.clue, Clue.tableNamed?, tableEntity, nameless, Option.filter_some]
  · simp [Entity.clue, Clue.tableNamed?, tableEntity, nameless, Option.filter_some]

theorem tableEntities_increasing (l : Lexicon) (question : List Char) :
    (tableEntities l question).Pairwise fun a b => a.span.start < b.span.start := by
  have ordered : (Token.scan question).Pairwise fun a b => a.start < b.start := by
    refine (Token.scan_ordered question).imp_of_mem fun member _ apart => ?_
    exact Nat.lt_of_lt_of_le (Token.scan_bounds member).1 apart
  refine List.Pairwise.filterMap _ ?_ ordered
  intro a b before x first y second
  obtain ⟨_, _, rfl⟩ := Option.map_eq_some_iff.mp first
  obtain ⟨_, _, rfl⟩ := Option.map_eq_some_iff.mp second
  exact Int.ofNat_lt.mpr before

theorem Serves.filter_tables (serves : t.Serves l) (directory : Option Directory) (asker : Asker) (question : String) :
    (t.tag directory asker question).1.filter (fun e => e.kind = .table) = tableEntities l question.toList := by
  obtain ⟨others, same, apart⟩ := serves.tag_tables directory asker question
  have tables : (tableEntities l question.toList).filter (fun e => e.kind = .table) =
      tableEntities l question.toList := by
    refine List.filter_eq_self.mpr fun e member => ?_
    obtain ⟨_, _, _, _, rfl⟩ := mem_tableEntities.mp member
    rfl
  have none : others.filter (fun e => e.kind = .table) = [] :=
    List.filter_eq_nil_iff.mpr fun e member kind => (apart e member).1 (of_decide_eq_true kind)
  have kept := same.filter fun e => e.kind = .table
  rw [List.filter_append, tables, none, List.append_nil] at kept
  -- both lists go by the start of the entities, and no two start together
  refine kept.eq_of_pairwise ?_ ((t.tag_increasing directory asker question).filter _) (tableEntities_increasing l _)
  intro a b _ _ before after
  omega

theorem Serves.tables_named (serves : t.Serves l) (directory : Option Directory) (asker : Asker) (question : String) :
    ((t.tag directory asker question).1.map Entity.clue).filterMap Clue.tableNamed? =
      (l.tablesIn question).filter fun table => table ≠ "" := by
  have only : ∀ e : Entity, (if decide (e.kind = .table) = true then e.clue.tableNamed? else none) =
      e.clue.tableNamed? := by
    intro e
    split
    · rfl
    · rename_i other
      cases named : e.clue.tableNamed? with
      | none => rfl
      | some table => exact absurd (decide_eq_true (Clue.tableNamed?_eq_some named).1) other
  have tables := congrArg (List.filterMap fun e => e.clue.tableNamed?)
    (serves.filter_tables directory asker question)
  rw [List.filterMap_filter] at tables
  simp only [only] at tables
  rw [List.filterMap_map]
  refine tables.trans ?_
  rw [tableEntities, Lexicon.tablesIn, List.filterMap_filterMap, List.filter_filterMap]
  congr 1
  funext token
  cases Assoc.get? token.text l.tableWords with
  | none => rfl
  | some word => exact tableNamed?_tableEntity (tokenPart question.toList token) word

theorem Serves.table_mem (serves : t.Serves l) (directory : Option Directory) (asker : Asker) (question : String)
    (table : String) : (∃ e ∈ (t.tag directory asker question).1, e.kind = .table ∧ e.table = some table) ↔
      table ∈ l.tablesIn question := by
  have among (e : Entity) : e ∈ (t.tag directory asker question).1 ∧ e.kind = .table ↔
      e ∈ tableEntities l question.toList := by
    rw [← serves.filter_tables directory asker question, List.mem_filter, decide_eq_true_iff]
  simp only [← and_assoc, among, mem_tableEntities, Lexicon.tablesIn, List.mem_filterMap, Option.map_eq_some_iff]
  constructor
  · rintro ⟨e, ⟨token, member, word, known, rfl⟩, same⟩
    exact ⟨token, member, word, known, Option.some.inj same⟩
  · rintro ⟨token, member, word, known, rfl⟩
    exact ⟨_, ⟨token, member, word, known, rfl⟩, rfl⟩

theorem tag_oneToken (l : Lexicon) (asker : Asker) {word : String} (single : Text.IsToken word) {known : TableWord}
    (found : Assoc.get? (Text.lower word) l.tableWords = some known) :
    ((ofLexicon l).tag none asker word).1 = [tableEntity (part word.toList 0 word.toList.length) known] := by
  obtain ⟨others, same, apart⟩ := (serves_ofLexicon l).tag_tables none asker word
  have table : tableEntities l word.toList = [tableEntity (part word.toList 0 word.toList.length) known] := by
    rw [tableEntities, Token.scan_single single, List.filterMap_cons, found]
    rfl
  rw [table] at same apart
  have none : others = [] := by
    refine List.eq_nil_iff_forall_not_mem.mpr fun e member => ?_
    have placed := (ofLexicon l).tag_wellPlaced none asker word e (same.mem_iff.mpr (List.mem_append_right _ member))
    have inside := placed.inside
    have length := placed.nonempty
    have low := placed.start
    have overlap : e.span.overlaps ⟨0, word.toList.length⟩ = true := by
      simp only [Span.overlaps, Bool.and_eq_true, decide_eq_true_eq]
      omega
    have free := (apart e member).2 _ List.mem_cons_self
    exact absurd overlap (Bool.eq_false_iff.mp free)
  rw [none, List.append_nil] at same
  exact List.perm_singleton.mp same

/-- What a word for a table finds, asked by itself without known names, and where it leads. It is found as a whole exactly
if it is a single token; then nothing else is found, and its table is the only one unless it has no name. In general it
is found and leads to its table first exactly if some token of it stands for the table and the first one that stands for a
table with a name stands for this one, or no token does and a question that names nothing leads there first. -/
theorem tag_tableWord (l : Lexicon) (distinct : (l.tables.map fun t => Text.lower t.table).Nodup)
    {front back : List Taxonomy} {t : Taxonomy} (declared : l.tables = front ++ t :: back) {word : String}
    (stands : l.IsWordFor front t word) (asker : Asker) :
    let found := ((ofLexicon l).tag none asker word).1
    let r := Routing.route l found
    (Text.IsToken word →
      (∃ confidence, found = [tableEntity (part word.toList 0 word.toList.length) ⟨t.table, confidence⟩]) ∧
        (t.table ≠ "" → r.tables = [t.table])) ∧
      ((∃ e ∈ found, e.kind = .table ∧ e.table = some t.table ∧ e.span = ⟨0, word.toList.length⟩) ↔
        Text.IsToken word) ∧
      ((∃ e ∈ found, e.kind = .table ∧ e.table = some t.table) ∧ r.primary? = some t.table ↔
        t.table ∈ l.tablesIn word ∧
          ((l.tablesIn word).find? fun table => table ≠ "").or (Routing.fallback l found).primary? = some t.table) := by
  intro found r
  obtain ⟨confidence, known⟩ := stands.stands declared distinct
  have serves := serves_ofLexicon l
  have unnamed := tag_unnamed l asker word
  have primary : r.primary? =
      ((l.tablesIn word).find? fun table => table ≠ "").or (Routing.fallback l found).primary? := by
    rw [Routing.primary?_unnamed unnamed (serves.tables_named none asker word), List.head?_filter]
  refine ⟨fun single => ⟨⟨confidence, tag_oneToken l asker single known⟩, fun named => ?_⟩, ⟨?_, fun single => ?_⟩, ?_⟩
  · have tables : (l.tablesIn word).filter (fun table => table ≠ "") = [t.table] := by
      rw [l.tablesIn_oneToken single known]
      simp [named]
    have led := Routing.tables_unnamed (l := l) unnamed (serves.tables_named none asker word)
    rw [tables, if_neg (List.cons_ne_nil _ _)] at led
    exact led
  · rintro ⟨e, inside, kind, _, whole⟩
    have table : e ∈ tableEntities l word.toList := by
      rw [← serves.filter_tables none asker word, List.mem_filter]
      exact ⟨inside, decide_eq_true kind⟩
    obtain ⟨token, member, _, _, rfl⟩ := mem_tableEntities.mp table
    have bounds := Span.mk.inj whole
    exact Token.single_of_scan member ⟨Int.ofNat.inj bounds.1, Int.ofNat.inj bounds.2⟩
  · have here : found = _ := tag_oneToken l asker single known
    rw [here]
    exact ⟨_, List.mem_cons_self, rfl, rfl, rfl⟩
  · rw [serves.table_mem none asker word t.table, primary]

def workshopDocument : Value :=
  .record [("tables", .record [
    ("sales", .record [("aliases", .texts ["orders"])]), ("work_orders", .null), ("in-tray", .null)])]

def workshopLexicon : Lexicon :=
  { tables := [{ table := "sales", aliases := ["orders"] }, { table := "work_orders" }, { table := "in-tray" }] }

theorem orders_named :
    let found := ((ofLexicon workshopLexicon).tag none dayAsker "Orders").1
    (workshopLexicon.tables.map fun t => Text.lower t.table).Nodup ∧
      workshopLexicon.IsWordFor [] { table := "sales", aliases := ["orders"] } "Orders" ∧ Text.IsToken "Orders" ∧
        (∃ e ∈ found, e.kind = .table ∧ e.table = some "sales" ∧ e.span = ⟨0, 6⟩) ∧
          (Routing.route workshopLexicon found).tables = ["sales"] := by
  intro found
  have distinct : (workshopLexicon.tables.map fun t => Text.lower t.table).Nodup := by decide +kernel
  have stands : workshopLexicon.IsWordFor [] { table := "sales", aliases := ["orders"] } "Orders" :=
    .further (by decide +kernel) (by decide +kernel) nofun
  have single : Text.IsToken "Orders" := by decide
  obtain ⟨alone, whole, _⟩ := tag_tableWord workshopLexicon distinct rfl stands dayAsker
  exact ⟨distinct, stands, single, whole.mpr single, (alone single).2 (by decide)⟩

/-- A table with a hyphen in its name cannot be asked for, and one with an underscore is taken for the table that its
second word stands for. -/
theorem work_orders_misread :
    let found := ((ofLexicon workshopLexicon).tag none dayAsker "work_orders").1
    let nothing := ((ofLexicon workshopLexicon).tag none dayAsker "in-tray").1
    Lexicon.ofDocument workshopDocument = .ok workshopLexicon ∧
      (workshopLexicon.tables.map fun t => Text.lower t.table).Nodup ∧
        (∀ e ∈ found, e.table ≠ some "work_orders") ∧ (Routing.route workshopLexicon found).tables = ["sales"] ∧
          nothing = [] ∧ (Routing.route workshopLexicon nothing).tables = [] := by
  have empty : ((ofLexicon workshopLexicon).tag none dayAsker "in-tray").1.isEmpty = true := by decide +kernel
  exact ⟨rfl, by decide +kernel, by decide +kernel, by decide +kernel, List.isEmpty_iff.mp empty, by decide +kernel⟩

end Tagger

end TableTalk
