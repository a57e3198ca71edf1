import TableTalk.Proofs.Domain.Simple
import TableTalk.Proofs.Engine
import TableTalk.Proofs.Filter.Compiling

namespace TableTalk

open Sql Outcome

theorem Predicate.HoldsOf.shows {p : Predicate} {cell : Value} (holds : p.HoldsOf cell)
    (operator : p.operator = .equals ∨ p.operator = .contains) {text : String} (value : p.value = .text text)
    (plain : Text.Simple text.toList) (simple : cell.IsSimple) :
    ∃ s, cell = .text s ∧ text.toList.map Text.lowerLetter <:+: s.toList.map Text.lowerLetter := by
  have shown {s : String} (same : cellText cell = .text s) : cell = .text s := by
    rcases simple with rfl | ⟨_, rfl, _⟩
    · cases same
    · exact same
  unfold Predicate.HoldsOf at holds
  rcases operator with operator | operator
  · rw [operator, value] at holds
    obtain ⟨s, same, letters⟩ := holds
    rw [plain.withoutNul] at letters
    exact ⟨s, shown same, letters ▸ List.infix_rfl⟩
  · rw [operator, value] at holds
    obtain ⟨s, same, inside⟩ := holds
    rw [Value.shown, plain.withoutNul] at inside
    exact ⟨s, shown same, inside⟩

namespace Summary

theorem isWidened_texts {f : Frame} (texts : ∀ column ∈ f.columns, column.type = some .text) : isWidened f = false := by
  have none : (f.columns.any fun column => column.type == some .float) = false := by
    rw [List.any_eq_false]
    intro column member
    rw [texts column member]
    decide
  rw [isWidened, none, Bool.and_false]

theorem contains_rowText {f : Frame} (texts : ∀ column ∈ f.columns, column.type = some .text) {row : List Value}
    (simple : ∀ cell ∈ row, cell.IsSimple) {s text : String} (member : .text s ∈ row)
    (plain : Text.Simple text.toList)
    (inside : text.toList.map Text.lowerLetter <:+: s.toList.map Text.lowerLetter) :
    Text.contains (rowText f row) (Text.lower text) = true := by
  have words : ∀ word ∈ row.map cellText, Text.Simple word.toList := by
    refine List.forall_mem_map.mpr fun cell among => ?_
    rcases simple cell among with rfl | ⟨_, rfl, shown⟩
    · exact nofun
    · exact shown
  have shown : s ∈ row.map cellText := List.mem_map.mpr ⟨_, member, rfl⟩
  rw [rowText, isWidened_texts texts]
  exact occursIn_infix.mpr (Text.lower_in_unwords words shown plain inside)

theorem mem_literals {entities : List Entity} {x : Entity} (tagged : x ∈ entities) (kind : isLiteral x.kind = true)
    (filters : x.isFilter = true) {s : String} (value : x.canonical.toValue = .text s ∨ x.recordId = .text s)
    (nonempty : s ≠ "") (simple : Text.Simple s.toList) : Text.lower s ∈ literals entities := by
  have shown : Text.lower s ∈ literalsOf x := by
    rw [literalsOf, kind, filters, Bool.and_true, if_pos rfl]
    refine List.mem_filterMap.mpr ⟨.text s, ?_, rfl⟩
    rcases value with canonical | record
    · rw [canonical]
      exact List.mem_cons_self
    · rw [record]
      exact List.mem_cons_of_mem _ List.mem_cons_self
  have lowered : (Text.lower s).toList = Text.uncased s.toList := by
    rw [← String.toList_ofList (l := Text.uncased s.toList), ← Text.lower_ascii simple.ascii, String.ofList_toList]
  have kept : Text.lower s ≠ "" := by
    intro empty
    rw [empty] at lowered
    exact nonempty (String.toList_eq_nil_iff.mp (List.map_eq_nil_iff.mp lowered.symm))
  refine Assoc.mem_distinct.mpr (List.mem_filter.mpr ⟨List.mem_flatMap.mpr ⟨x, tagged, shown⟩, ?_⟩)
  rw [Bool.not_eq_true', String.isEmpty_eq_false_iff]
  exact kept

end Summary

/-- The texts that entities can stand for are simple, and none of them is empty. -/
structure SimpleSources (l : Lexicon) (c : DomainCache) (asker : Asker) : Prop where
  names : ∀ e ∈ c.entries none, e.IsSimple
  meanings : ∀ group, group ≠ .temporal → ∀ meaning ∈ l.synonyms.inGroup group,
    meaning.1 ≠ "" ∧ Text.Simple meaning.1.toList
  user : ∀ user, asker.userId = some user → user ≠ "" ∧ Text.Simple user.toList

namespace Filter.Condition

variable {l : Lexicon} {c : DomainCache} {asker : Asker} {x : Entity} {k : Condition}

def LooksFor (x : Entity) (k : Condition) : Prop :=
  (k.operator = .equals ∨ k.operator = .contains) ∧ ∃ s, k.value = .text s ∧ s ≠ "" ∧ Text.Simple s.toList ∧
    (x.canonical.toValue = .text s ∨ x.recordId = .text s)

theorem AsksFor.isLiteral (asks : k.AsksFor x) (origin : x.Origin l c asker)
    (operator : k.operator = .equals ∨ k.operator = .contains) : Summary.isLiteral x.kind = true := by
  cases asks with
  | record kind | name kind | asker kind =>
    rw [kind]
    rfl
  | meaning kind =>
    rcases kind with kind | kind
    all_goals
      rw [kind]
      rfl
  | since range kind canonical here | during range stop kind canonical here => simp [here] at operator
  | number comparison kind canonical here =>
    rcases (origin.of_number kind canonical).1 with order | order <;> simp [here, order] at operator

theorem AsksFor.looksFor (asks : k.AsksFor x) (origin : x.Origin l c asker) (simple : SimpleSources l c asker)
    (literal : Summary.isLiteral x.kind = true) : k.LooksFor x := by
  cases asks with
  | record kind present operator value =>
    obtain ⟨primary, known, _, _, _, record⟩ := origin.of_name kind
    have same := record.resolve_left present
    rw [same] at present
    obtain ⟨s, text, nonempty, plain⟩ := (simple.names primary known).record.resolve_left present
    exact ⟨Or.inl operator, s, by rw [value, same, text], nonempty, plain, Or.inr (same.trans text)⟩
  | name kind present operator value =>
    obtain ⟨primary, known, text, canonical, form, _⟩ := origin.of_name kind
    rw [canonical] at present value
    refine ⟨Or.inr operator, text, value, ?_, ?_, Or.inl (by rw [canonical]; rfl)⟩
    · rintro rfl
      cases present
    · rcases form with rfl | form
      · exact (simple.names primary known).display
      · exact (simple.names primary known).forms text form
  | asker kind present operator value =>
    have canonical := origin.of_asker kind
    cases user : asker.userId with
    | none =>
      rw [user] at canonical
      exact absurd canonical present
    | some name =>
      rw [user] at canonical
      rw [canonical] at value
      obtain ⟨nonempty, plain⟩ := simple.user name user
      exact ⟨Or.inl operator, name, value, nonempty, plain, Or.inl (by rw [canonical]; rfl)⟩
  | meaning kind operator value =>
    obtain ⟨group, timeless, meaning, declared, canonical⟩ := origin.of_synonym kind
    rw [canonical] at value
    obtain ⟨nonempty, plain⟩ := simple.meanings group timeless meaning declared
    exact ⟨operator, meaning.1, value, nonempty, plain, Or.inl (by rw [canonical]; rfl)⟩
  | since range kind | during range stop kind | number comparison kind =>
    rw [kind] at literal
    cases literal

end Filter.Condition

/-- A row that satisfies predicates, one of which looks for a text, has a cell with a literal in it. -/
theorem Filter.shows_literal {l : Lexicon} {c : DomainCache} {asker : Asker} (simple : SimpleSources l c asker)
    {entities : List Entity} (origins : ∀ x ∈ entities, x.Origin l c asker) {table : String} {t : Taxonomy}
    {question : String} {homes : List (String × String)} {p : Predicate}
    (compiled : p ∈ compile table t entities question homes) (operator : p.operator = .equals ∨ p.operator = .contains)
    {f : Frame} (texts : f.IsSimple) {row : List Value} (member : row ∈ f.rows)
    (satisfied : Predicate.Satisfied ((compile table t entities question homes).map Predicate.tidied) (f.cells row)) :
    ∃ s, .text s ∈ (f.cells row).map Prod.snd ∧ ∃ text, Text.lower text ∈ Summary.literals entities ∧
      Text.Simple text.toList ∧ text.toList.map Text.lowerLetter <:+: s.toList.map Text.lowerLetter := by
  obtain ⟨source, stems⟩ := compile_stems table t homes entities question
  -- the group of the predicate is that of an entity with a literal
  obtain ⟨tagged, filters, inside⟩ := stems p compiled
  obtain ⟨k, among, same⟩ := mem_groupOf.mp inside
  have origin := origins _ tagged
  have literal := (conditions_cases among).2.isLiteral origin (by rwa [same] at operator)
  -- whichever member of the group holds of the row looks for a literal of this entity
  obtain ⟨_, listed, group, cell, found, holds⟩ :=
    satisfied p.group (List.mem_map.mpr ⟨p.tidied, List.mem_map_of_mem compiled, rfl⟩)
  obtain ⟨q, compiled', rfl⟩ := List.mem_map.mp listed
  obtain ⟨_, _, inside'⟩ := stems q compiled'
  have shared : source q.group = source p.group := congrArg source group
  obtain ⟨k', among', same'⟩ := mem_groupOf.mp inside'
  rw [shared] at among' same'
  obtain ⟨operator', text, value, nonempty, plain, shown⟩ :=
    (conditions_cases among').2.looksFor origin simple literal
  obtain ⟨entry, first, rfl⟩ := Option.map_eq_some_iff.mp found
  have here := List.mem_of_find?_eq_some first
  have asked : q.tidied.operator = k'.operator ∧ q.tidied.value = k'.value := by
    rw [same']
    exact ⟨rfl, rfl⟩
  obtain ⟨s, cell, letters⟩ := holds.shows (asked.1 ▸ operator') (asked.2.trans value) plain (texts.cell member here)
  exact ⟨s, cell ▸ List.mem_map_of_mem here, text, Summary.mem_literals tagged literal filters shown nonempty plain,
    plain, letters⟩

theorem Execution.frames_selected (store : Store) (options : ExecutionOptions) (tables : List String)
    (predicates : List (String × List Predicate)) : ∀ entry ∈ (run store options tables predicates).frames,
      entry.2.rows ≠ [] →
        store.select entry.1 ((predicatesOf entry.1 predicates).map .predicate) options.rowLimit = .ok entry.2 := by
  suffices outcomes : ∀ names free, ∀ entry ∈ runFrom store options predicates free names, entry.2.frame.rows ≠ [] →
      store.select entry.1 ((predicatesOf entry.1 predicates).map .predicate) options.rowLimit = .ok entry.2.frame by
    exact List.forall_mem_map.mpr (outcomes _ _)
  intro names
  induction names with
  | nil => exact fun _ => nofun
  | cons table rest ih =>
    intro free
    unfold runFrom
    split
    · exact List.forall_mem_cons.mpr ⟨fun rows => absurd rfl rows, ih free⟩
    · split
      · exact List.forall_mem_cons.mpr ⟨fun rows => absurd rfl rows, ih (free - 1)⟩
      · refine List.forall_mem_cons.mpr ⟨fun rows => ?_, ih free⟩
        unfold lookup at rows ⊢
        split
        · rename_i frame selected
          exact selected
        · rename_i fault selected
          rw [selected] at rows
          exact absurd rfl rows

theorem Decimal.roundDiv_mul {n : Nat} (positive : 0 < n) (m : Nat) : roundDiv (n * m) n = m := by
  unfold roundDiv
  dsimp only
  rw [Nat.mul_mod_right, Nat.mul_div_cancel_left m positive, if_pos positive]

theorem Decimal.quotient_self {n : Nat} (positive : 0 < n) : quotient n n = 1 := by
  have place : exponentFor ⟨n, n⟩ = Int.negSucc 51 := by
    have guess : (n.log2 : Int) - n.log2 - 53 = Int.negSucc 52 := by omega
    have large : Nat.pow 2 53 ≤ n * Nat.pow 2 (52 + 1) / n :=
      Nat.le_of_eq (Nat.mul_div_cancel_left _ positive).symm
    unfold exponentFor
    dsimp only
    rw [guess]
    dsimp only
    rw [if_pos large]
    rfl
  unfold quotient nearest
  rw [if_neg (Nat.ne_of_gt positive), place]
  dsimp only
  rw [roundDiv_mul positive]
  decide +kernel

namespace Summary

theorem matchingRows_all {texts : List String} {f : Frame} (columns : f.rows ≠ [] → f.columns ≠ [])
    (all : ∀ row ∈ f.rows, ∃ text ∈ texts, Text.contains (rowText f row) text = true) :
    matchingRows texts f = f.size := by
  unfold matchingRows Frame.isEmpty
  by_cases rows : f.rows = []
  · rw [rows, List.isEmpty_nil, Bool.true_or, if_pos rfl, Frame.size, rows]
    rfl
  · rw [List.isEmpty_eq_false_iff.mpr rows, List.isEmpty_eq_false_iff.mpr (columns rows), Bool.false_or,
      if_neg Bool.false_ne_true, Frame.size, List.countP_eq_length]
    intro row member
    obtain ⟨text, listed, inside⟩ := all row member
    exact List.any_eq_true.mpr ⟨text, listed, inside⟩

theorem matchingRows_selected {l : Lexicon} {c : DomainCache} {asker : Asker} (sources : SimpleSources l c asker)
    {entities : List Entity} (origins : ∀ x ∈ entities, x.Origin l c asker) {table : String} {t : Taxonomy}
    {question : String} {homes : List (String × String)} {p : Predicate}
    (compiled : p ∈ Filter.compile table t entities question homes)
    (operator : p.operator = .equals ∨ p.operator = .contains) {d : Database}
    (tables : ∀ entry ∈ d.tables, entry.2.IsSimple) {limit : Value} {frame : Frame}
    (selected : d.select table ((Filter.compile table t entities question homes).map .predicate) limit = .ok frame) :
    matchingRows (literals entities) frame = frame.size := by
  obtain ⟨f, _, texts, columns, rows⟩ := Database.select_texts tables _ selected
  have shown : ∀ row ∈ frame.rows, frame.columns ≠ [] ∧
      ∃ text ∈ literals entities, Text.contains (rowText frame row) text = true := by
    intro row among
    obtain ⟨found, inside, rfl⟩ := rows row among
    obtain ⟨member, satisfied⟩ := List.mem_filter.mp inside
    obtain ⟨s, cell, text, literal, plain, letters⟩ :=
      Filter.shows_literal sources origins compiled operator texts member (of_decide_eq_true satisfied)
    have cells : ∀ cell ∈ (f.cells found).map Prod.snd, cell.IsSimple :=
      List.forall_mem_map.mpr fun entry here => texts.cell member here
    refine ⟨fun none => ?_, Text.lower text, literal, contains_rowText (columns ▸ texts.texts) cells cell plain letters⟩
    rw [columns] at none
    rw [Frame.cells, Frame.columnNames, none] at cell
    cases cell
  refine matchingRows_all (fun some => ?_) fun row among => (shown row among).2
  obtain ⟨row, among⟩ := List.exists_mem_of_ne_nil _ some
  exact (shown row among).1

theorem size_le_total (frames : List (String × Frame)) (n : Nat) :
    n ≤ frames.foldl (fun n entry => n + entry.2.size) n ∧
      ∀ entry ∈ frames, entry.2.size ≤ frames.foldl (fun n entry => n + entry.2.size) n := by
  induction frames generalizing n with
  | nil => exact ⟨Nat.le_refl n, nofun⟩
  | cons entry rest ih =>
    obtain ⟨first, later⟩ := ih (n + entry.2.size)
    rw [List.foldl_cons]
    exact ⟨by omega, List.forall_mem_cons.mpr ⟨by omega, later⟩⟩

theorem homogeneityOf_all {frames : List (String × Frame)} {entities : List Entity}
    (all : ∀ entry ∈ frames, matchingRows (literals entities) entry.2 = entry.2.size)
    (some : ∃ entry ∈ frames, entry.2.rows ≠ []) : homogeneityOf frames entities = 1 := by
  obtain ⟨entry, member, rows⟩ := some
  have positive : 0 < frames.foldl (fun n entry => n + entry.2.size) 0 :=
    Nat.lt_of_lt_of_le (List.length_pos_iff.mpr rows) ((size_le_total frames 0).2 entry member)
  have counted : ∀ n, frames.foldl (fun n entry => n + matchingRows (literals entities) entry.2) n =
      frames.foldl (fun n entry => n + entry.2.size) n := by
    clear member positive
    induction frames with
    | nil => exact fun _ => rfl
    | cons first rest ih =>
      obtain ⟨here, there⟩ := List.forall_mem_cons.mp all
      intro n
      rw [List.foldl_cons, List.foldl_cons, here, ih there]
  unfold homogeneityOf
  dsimp only
  rw [if_neg (Nat.ne_of_gt positive)]
  split
  · rfl
  · rw [counted, Decimal.quotient_self positive]
    decide +kernel

end Summary

namespace Engine

/-- What is asked of a lexicon, a database and an asker: all texts that are compared with cells are simple, like the
cells themselves, and none of them is empty. -/
structure SimpleInputs (l : Lexicon) (d : Database) (userId : Option String) : Prop where
  tables : ∀ entry ∈ d.tables, entry.2.IsSimple
  records : ∀ s ∈ l.domainSources, s.RecordsNamed d
  meanings : ∀ group, group ≠ .temporal → ∀ meaning ∈ l.synonyms.inGroup group,
    meaning.1 ≠ "" ∧ Text.Simple meaning.1.toList
  user : ∀ user, userId = some user → user ≠ "" ∧ Text.Simple user.toList

/-- Whether an answer has, for every table with rows, a predicate that looks for a text. -/
def Run.LooksForTexts (r : Run) : Prop :=
  ∀ entry ∈ r.execution.frames, entry.2.rows ≠ [] →
    ∃ p ∈ Execution.predicatesOf entry.1 r.predicates, p.operator = .equals ∨ p.operator = .contains

instance (r : Run) : Decidable r.LooksForTexts :=
  inferInstanceAs (Decidable (∀ entry ∈ r.execution.frames, _ → _))

theorem predicatesOf_each {predicates : String → List Predicate} {tables : List String} {table : String}
    {p : Predicate} (member : p ∈ Execution.predicatesOf table (tables.map fun table => (table, predicates table))) :
    Execution.predicatesOf table (tables.map fun table => (table, predicates table)) = predicates table := by
  unfold Execution.predicatesOf at member ⊢
  cases found : Assoc.get? table (tables.map fun table => (table, predicates table)) with
  | none =>
    rw [found] at member
    cases member
  | some listed =>
    obtain ⟨_, _, same⟩ := List.mem_map.mp (Assoc.mem_of_get? found)
    cases same
    rfl

theorem SimpleInputs.yields {l : Lexicon} {d : Database} {userId : Option String} (simple : SimpleInputs l d userId) :
    ∀ s ∈ l.domainSources, ∀ store : Store, store.Holds d.tables → ∀ lengths limit found,
      s.load lengths limit store = .ok found → ∀ e ∈ found, e.IsSimple := by
  rintro s member store ⟨d', contents, same⟩ lengths limit found loaded
  refine s.load_simple contents (same ▸ simple.tables) (fun f known => ?_) loaded
  refine simple.records s member f ?_
  rw [← known, Database.table?, Database.table?, same]

theorem SimpleInputs.sources {l : Lexicon} {d : Database} {userId : Option String} (simple : SimpleInputs l d userId)
    {c : DomainCache} (names : DomainCache.All DomainEntry.IsSimple c.byCategory) (now : Moment) :
    SimpleSources l c ⟨userId, now⟩ where
  names e member := by
    obtain ⟨group, among, inside⟩ := List.mem_flatMap.mp member
    exact names group among e inside
  meanings := simple.meanings
  user := simple.user

/-- Whatever was asked before, a question about simple texts is answered, and if every table with rows was looked at
for a text then all rows count as matching, and the share of those that do is one if there are any. -/
theorem rows_explained (store : Store) (l : Lexicon) (d : Database) (contents : store.contents = .database d)
    (userId : Option String) (simple : SimpleInputs l d userId) (cache : CacheOptions) (execution : ExecutionOptions)
    (now : Moment) (before : List Call) (question : String) :
    ∃ r, (((create store l cache execution now).calls before).run userId (.text question)).1 = .ok r ∧
      (r.LooksForTexts →
        (∀ entry ∈ r.execution.frames,
          Summary.matchingRows (Summary.literals r.entities) entry.2 = entry.2.size) ∧
        ((∃ entry ∈ r.execution.frames, entry.2.rows ≠ []) → r.summary.homogeneity = 1)) := by
  let g := (create store l cache execution now).calls before
  have steady : Steady l d.tables DomainEntry.IsSimple g :=
    (steady_create ⟨d, contents, rfl⟩ cache execution now).calls simple.yields before
  obtain ⟨r, answered, entities, predicates, executed⟩ := g.run_text userId question
  obtain ⟨c, names, origins⟩ := steady.tag_origins simple.yields userId question
  obtain ⟨lexicon, ⟨d', holds, same⟩, _, _⟩ := steady.tag simple.yields userId question
  rw [← entities] at origins
  refine ⟨r, answered, fun looks => ?_⟩
  have all : ∀ entry ∈ r.execution.frames,
      Summary.matchingRows (Summary.literals r.entities) entry.2 = entry.2.size := by
    intro entry member
    by_cases none : entry.2.rows = []
    · exact Summary.matchingRows_all (fun rows => absurd none rows) (by rw [none]; nofun)
    · obtain ⟨p, listed, operator⟩ := looks entry member none
      rw [executed] at member
      have selected := Store.select_database holds (Execution.frames_selected _ _ _ _ entry member none)
      rw [predicates] at listed selected
      have each := predicatesOf_each listed
      rw [each, predicatesFor, lexicon] at listed selected
      cases known : l.taxonomy? entry.1 with
      | none =>
        rw [known] at listed
        cases listed
      | some t =>
        rw [known] at listed selected
        exact Summary.matchingRows_selected (simple.sources names g.now) origins listed operator
          (same ▸ simple.tables) selected
  exact ⟨all, Summary.homogeneityOf_all all⟩

def hillTasks : Lexicon :=
  { tables := [{ table := "tasks", userFields := ["owner"] }]
    domainSources := [{ category := "user", table := "staff", valueColumns := ["name"] }]
    categories := [⟨"user", "staff", ["tasks"]⟩] }

def hillDatabase : Database :=
  { tables := [
      ("staff", .typed [("id", .text), ("name", .text)] [[.text "s1", .text "Sam Hill"]]),
      ("tasks", .typed [("owner", .text)] [[.text "Ann Lee"], [.text "SAM HILL (lead)"], [.null]])] }

theorem hill_tasks_explained :
    let store : Store := { contents := .database hillDatabase }
    let g := create store hillTasks {} {} (.midnight ⟨2024, 6, 12⟩)
    SimpleInputs hillTasks hillDatabase none ∧
      ∃ r, ((g.calls [.refresh]).run none (.text "sam hill")).1 = .ok r ∧ r.LooksForTexts ∧
        r.execution.frames.map (fun entry => (entry.1, entry.2.size)) = [("tasks", 1)] ∧ r.summary.homogeneity = 1 := by
  intro store g
  have simple : SimpleInputs hillTasks hillDatabase none := {
    tables := by decide +kernel
    records := by
      intro s member f known row inside
      cases List.mem_singleton.mp member
      cases known
      cases List.mem_singleton.mp inside
      change some (Value.text "s1") ≠ some (.text "")
      simp
    meanings := nofun
    user := nofun }
  have computed : ∃ r ∈ ((g.calls [.refresh]).run none (.text "sam hill")).1.toOption, r.LooksForTexts ∧
      r.execution.frames.map (fun entry => (entry.1, entry.2.size)) = [("tasks", 1)] ∧
        ∃ entry ∈ r.execution.frames, entry.2.rows ≠ [] := by
    decide +kernel
  obtain ⟨r, answered, explained⟩ := rows_explained store hillTasks hillDatabase rfl none simple {} {}
    (.midnight ⟨2024, 6, 12⟩) [.refresh] "sam hill"
  obtain ⟨_, same, looks, sizes, rows⟩ := computed
  rw [answered] at same
  cases same
  exact ⟨simple, r, answered, looks, sizes, (explained looks).2 rows⟩

end Engine

end TableTalk
