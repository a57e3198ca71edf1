import TableTalk.Proofs.Domain.Entries
import TableTalk.Proofs.Firsts
import TableTalk.Proofs.Text.Fields
import TableTalk.Proofs.Value

namespace TableTalk

open Outcome

theorem Text.lowerFrom_eq_nil_iff (letterBefore : Bool) (text : List Char) :
    lowerFrom letterBefore text = [] ↔ text = [] := by
  cases text with
  | nil => exact ⟨fun _ => rfl, fun _ => rfl⟩
  | cons c rest =>
    refine ⟨fun none => ?_, nofun⟩
    cases blank : isBlank c with
    | true =>
      rw [lowerFrom_blank blank] at none
      cases none
    | false =>
      rw [lowerFrom] at none
      exact absurd (List.append_eq_nil_iff.mp none).1 (lowered_visible blank letterBefore (startsCased rest)).2

theorem Text.isEmpty_lower (text : String) : (lower text).isEmpty = text.isEmpty := by
  have chars : (lower text).toList = lowerFrom false text.toList := String.toList_ofList
  rw [Bool.eq_iff_iff, String.isEmpty_iff, String.isEmpty_iff, ← String.toList_eq_nil_iff, chars,
    lowerFrom_eq_nil_iff, String.toList_eq_nil_iff]

def Value.IsRecordName (v : Value) : Prop :=
  (∃ s, v = .text s) ∨ ∃ n, v = .int n

theorem Value.IsRecordName.usable {v : Value} (named : v.IsRecordName) : DomainSource.isUsableRecord v = true := by
  rcases named with ⟨_, rfl⟩ | ⟨_, rfl⟩ <;> rfl

theorem Value.IsRecordName.sameKey_iff {a b : Value} (first : a.IsRecordName) (second : b.IsRecordName) :
    a.sameKey b = true ↔ a = b := by
  rw [Value.sameKey_iff first.usable]
  rcases first with ⟨s, rfl⟩ | ⟨n, rfl⟩ <;> rcases second with ⟨t, rfl⟩ | ⟨m, rfl⟩ <;> simp [identity]

namespace DomainEntry

/-- What names are told apart by: the text in lower case and the record. -/
def pair (e : DomainEntry) : String × Value :=
  (e.key, e.recordId)

end DomainEntry

namespace DomainSource

variable {s : DomainSource} {lengths : PrefixLengths}

/-- The cells of the value columns, row by row, each with the record of its row. -/
def places (s : DomainSource) (f : Frame) : List (Value × Value) :=
  f.records.flatMap fun row => s.valueColumns.map fun column =>
    ((Assoc.get? s.idColumn row).getD .null, (Assoc.get? column row).getD .null)

/-- The name in a cell: none if the cell is missing or there is nothing but blanks in its text. -/
def nameAt? (s : DomainSource) (lengths : PrefixLengths) (place : Value × Value) : Option DomainEntry :=
  if place.2.isMissing || (Text.collapse place.2.shown).isEmpty then none
  else some (s.nameIn lengths place.1 place.2)

def names (s : DomainSource) (lengths : PrefixLengths) (f : Frame) : List DomainEntry :=
  (s.places f).filterMap (s.nameAt? lengths)

structure Owns (s : DomainSource) (e : DomainEntry) : Prop where
  category : e.category = s.category
  named : e.recordId.IsRecordName

theorem owns_nameAt? {place : Value × Value} (named : place.1.IsRecordName) {e : DomainEntry}
    (found : s.nameAt? lengths place = some e) : s.Owns e := by
  unfold nameAt? at found
  split at found
  · cases found
  · rw [← Option.some.inj found]
    exact ⟨rfl, named⟩

theorem Owns.sameName_iff {a b : DomainEntry} (first : s.Owns a) (second : s.Owns b) :
    a.sameName b = true ↔ b.pair = a.pair := by
  have category : (a.category == b.category) = true := by
    rw [first.category, second.category]
    exact beq_self_eq_true _
  rw [DomainEntry.sameName, DomainEntry.sameRecord, category, Bool.true_and, Bool.and_eq_true,
    first.named.sameKey_iff second.named, beq_iff_eq, DomainEntry.pair, DomainEntry.pair, Prod.mk.injEq]
  exact ⟨fun ⟨record, key⟩ => ⟨key.symm, record.symm⟩, fun ⟨key, record⟩ => ⟨record.symm, key.symm⟩⟩

theorem addCell_eq {recordId cell : Value} (named : recordId.IsRecordName) (settled : unsettled? cell = none)
    (found : List DomainEntry) :
    s.addCell lengths recordId found cell = .ok (match s.nameAt? lengths (recordId, cell) with
      | none => found
      | some e => if found.any e.sameName then found else found ++ [e]) := by
  have usable : (!isUsableRecord recordId) = false := by
    rw [named.usable]
    rfl
  unfold addCell nameAt?
  dsimp only
  rw [settled, usable, Text.isEmpty_lower]
  cases missing : cell.isMissing with
  | true => rfl
  | false =>
    cases empty : (Text.collapse cell.shown).isEmpty with
    | true => rfl
    | false =>
      simp only [Bool.false_eq_true, ↓reduceIte, Bool.or_self]
      split
      · rename_i known
        exact congrArg Except.ok (if_pos known).symm
      · rename_i new
        exact congrArg Except.ok (if_neg new).symm

theorem addCell_unsettled {cell : Value} {error : LoadError} (unsettled : unsettled? cell = some error)
    (recordId : Value) (found : List DomainEntry) : s.addCell lengths recordId found cell = .error error := by
  unfold addCell
  rw [unsettled]

/-- The error of the first cell that is neither there nor missing. -/
def firstUnsettled? (places : List (Value × Value)) : Option LoadError :=
  places.findSome? fun place => unsettled? place.2

/-- Lists of no cell are a grid without cells as long as they agree; else they are several cells. -/
example : unsettled? (.list [.list [], .list []]) = some .noCells ∧
    unsettled? (.list [.list [], .list [.null]]) = some .manyCells :=
  ⟨rfl, rfl⟩

theorem firstUnsettled?_ne_missingColumns {places : List (Value × Value)} {error : LoadError}
    (unsettled : firstUnsettled? places = some error) {columns : List String} {table : String} :
    error ≠ .missingColumns columns table := by
  obtain ⟨place, _, answer⟩ := List.exists_of_findSome?_eq_some unsettled
  unfold unsettled? at answer
  split at answer <;> cases answer <;> nofun

theorem foldlM_addRow (f : Frame) (found : List DomainEntry) :
    f.records.foldlM (s.addRow lengths) found =
      (s.places f).foldlM (fun found place => s.addCell lengths place.1 found place.2) found := by
  unfold places
  induction f.records generalizing found with
  | nil => rfl
  | cons row rest ih =>
    rw [List.foldlM_cons, List.flatMap_cons, List.foldlM_append, List.foldlM_map]
    exact congrArg (Except.bind (s.addRow lengths found row)) (funext ih)

/-- A run over single cells: of the names that are read, the first one with each text and record is added. -/
theorem foldlM_addCell {places : List (Value × Value)} (named : ∀ place ∈ places, place.1.IsRecordName)
    (settled : ∀ place ∈ places, unsettled? place.2 = none) {read found : List DomainEntry}
    (firsts : FirstsBy DomainEntry.pair read found) (owned : ∀ e ∈ found, s.Owns e) :
    ∃ last, places.foldlM (fun found place => s.addCell lengths place.1 found place.2) found = .ok last ∧
      FirstsBy DomainEntry.pair (read ++ places.filterMap (s.nameAt? lengths)) last := by
  induction places generalizing read found with
  | nil =>
    rw [List.filterMap_nil, List.append_nil]
    exact ⟨found, rfl, firsts⟩
  | cons place rest ih =>
    obtain ⟨here, there⟩ := List.forall_mem_cons.mp named
    obtain ⟨one, others⟩ := List.forall_mem_cons.mp settled
    rw [List.foldlM_cons, addCell_eq here one, List.filterMap_cons]
    cases name : s.nameAt? lengths place with
    | none => exact ih there others firsts owned
    | some e =>
      have own := owns_nameAt? here name
      have split : read ++ e :: rest.filterMap (s.nameAt? lengths) =
          (read ++ [e]) ++ rest.filterMap (s.nameAt? lengths) := by
        rw [List.append_assoc, List.singleton_append]
      dsimp only
      rw [split]
      by_cases known : found.any e.sameName = true
      · rw [if_pos known]
        obtain ⟨b, member, same⟩ := List.any_eq_true.mp known
        have before : ∃ b ∈ read, b.pair = e.pair :=
          ⟨b, firsts.subset b member, (own.sameName_iff (owned b member)).mp same⟩
        exact ih there others (firsts.append_known before) owned
      · rw [if_neg known]
        have new : ∀ b ∈ read, b.pair ≠ e.pair := by
          intro b member same
          obtain ⟨c, kept, equal⟩ := firsts.covers member
          exact known (List.any_eq_true.mpr ⟨c, kept, (own.sameName_iff (owned c kept)).mpr (equal.trans same)⟩)
        refine ih there others (firsts.append_new new) (List.forall_mem_append.mpr ⟨owned, ?_⟩)
        exact List.forall_mem_singleton.mpr own

theorem foldlM_addCell_unsettled {places : List (Value × Value)} (named : ∀ place ∈ places, place.1.IsRecordName)
    {error : LoadError} (unsettled : firstUnsettled? places = some error) (found : List DomainEntry) :
    places.foldlM (fun found place => s.addCell lengths place.1 found place.2) found = .error error := by
  induction places generalizing found with
  | nil => cases unsettled
  | cons place rest ih =>
    obtain ⟨here, there⟩ := List.forall_mem_cons.mp named
    rw [List.foldlM_cons]
    rw [firstUnsettled?, List.findSome?_cons] at unsettled
    cases answer : unsettled? place.2 with
    | none =>
      rw [answer] at unsettled
      rw [addCell_eq here answer]
      exact ih there unsettled _
    | some first =>
      rw [answer] at unsettled
      rw [addCell_unsettled answer, ← Option.some.inj unsettled]
      rfl

/-- Whether all records of a frame are named by texts and integers, if it has the column for them. -/
def NamesRecords (s : DomainSource) (f : Frame) : Prop :=
  s.idColumn ∈ f.columnNames → ∀ row ∈ f.records, ((Assoc.get? s.idColumn row).getD .null).IsRecordName

theorem NamesRecords.place {f : Frame} (records : s.NamesRecords f) (present : s.idColumn ∈ f.columnNames) :
    ∀ place ∈ s.places f, place.1.IsRecordName := by
  intro place member
  obtain ⟨row, among, inside⟩ := List.mem_flatMap.mp member
  obtain ⟨_, _, rfl⟩ := List.mem_map.mp inside
  exact records present row among

theorem entriesIn_present {f : Frame} (present : ∀ column ∈ s.columns, column ∈ f.columnNames) :
    s.entriesIn lengths f =
      (s.places f).foldlM (fun found place => s.addCell lengths place.1 found place.2) [] := by
  have none : (s.columns.filter fun column => !f.columnNames.contains column) = [] := by
    rw [List.filter_eq_nil_iff]
    intro column member
    rw [List.contains_iff_mem.mpr (present column member)]
    nofun
  unfold entriesIn
  rw [none]
  exact foldlM_addRow f []

theorem entriesIn_unsettled {f : Frame} (records : s.NamesRecords f)
    (present : ∀ column ∈ s.columns, column ∈ f.columnNames) {error : LoadError}
    (unsettled : firstUnsettled? (s.places f) = some error) : s.entriesIn lengths f = .error error := by
  have named := records.place (present s.idColumn List.mem_cons_self)
  rw [entriesIn_present present]
  exact foldlM_addCell_unsettled named unsettled []

theorem entriesIn_settled {f : Frame} (records : s.NamesRecords f)
    (present : ∀ column ∈ s.columns, column ∈ f.columnNames) (settled : firstUnsettled? (s.places f) = none) :
    ∃ found, s.entriesIn lengths f = .ok found ∧ FirstsBy DomainEntry.pair (s.names lengths f) found := by
  have named := records.place (present s.idColumn List.mem_cons_self)
  rw [entriesIn_present present]
  exact foldlM_addCell named (List.findSome?_eq_none_iff.mp settled) FirstsBy.nil nofun

theorem entriesIn_absent {f : Frame} {column : String} (member : column ∈ s.columns)
    (absent : column ∉ f.columnNames) :
    ∃ columns, s.entriesIn lengths f = .error (.missingColumns columns s.table) := by
  have missing : column ∈ s.columns.filter fun column => !f.columnNames.contains column := by
    refine List.mem_filter.mpr ⟨member, ?_⟩
    rw [Bool.not_eq_true', Bool.eq_false_iff]
    exact fun inside => absent (List.contains_iff_mem.mp inside)
  obtain ⟨first, rest, found⟩ := List.exists_cons_of_ne_nil (List.ne_nil_of_mem missing)
  unfold entriesIn
  rw [found]
  exact ⟨_, rfl⟩

theorem load_selected {limit : Value} {store : Store} {frame : Frame}
    (selected : store.select s.table [] limit = .ok frame) :
    s.load lengths limit store = s.entriesIn lengths frame := by
  unfold load
  rw [selected]
  rfl

/-- What a load makes of the rows that the store returns: it fails for want of columns exactly if one of them is not
there. If all are, it fails with the error of the first cell that is neither there nor missing, and without such a cell
it yields, of the names in the cells, the first one with each text and record. -/
theorem load_cells {limit : Value} {store : Store} {frame : Frame}
    (selected : store.select s.table [] limit = .ok frame) (records : s.NamesRecords frame) :
    ((∃ columns, s.load lengths limit store = .error (.missingColumns columns s.table)) ↔
      ∃ column ∈ s.columns, column ∉ frame.columnNames) ∧
    ((∀ column ∈ s.columns, column ∈ frame.columnNames) →
      (∀ error, firstUnsettled? (s.places frame) = some error → s.load lengths limit store = .error error) ∧
      (firstUnsettled? (s.places frame) = none →
        ∃ found, s.load lengths limit store = .ok found ∧
          FirstsBy DomainEntry.pair (s.names lengths frame) found)) := by
  rw [load_selected selected]
  refine ⟨⟨?_, fun ⟨column, member, absent⟩ => entriesIn_absent member absent⟩, fun present =>
    ⟨fun _ => entriesIn_unsettled records present, entriesIn_settled records present⟩⟩
  rintro ⟨columns, failed⟩
  refine Classical.byContradiction fun complete => ?_
  have present : ∀ column ∈ s.columns, column ∈ frame.columnNames := fun column member =>
    Classical.byContradiction fun absent => complete ⟨column, member, absent⟩
  cases first : firstUnsettled? (s.places frame) with
  | some error =>
    rw [entriesIn_unsettled records present first] at failed
    exact firstUnsettled?_ne_missingColumns first (Except.error.inj failed)
  | none =>
    obtain ⟨found, loaded, _⟩ := entriesIn_settled records present first
    rw [loaded] at failed
    cases failed

def guests : DomainSource :=
  { category := "guest", table := "guests", valueColumns := ["name", "alias"] }

def guestFrame (rows : List (List Value)) : Frame :=
  { columns := [{ name := "id" }, { name := "name" }, { name := "alias" }], rows := rows }

def guestStore (rows : List (List Value)) : Store :=
  { contents := .memory [("guests", guestFrame rows)] }

theorem guests_cells :
    let rows : List (List Value) :=
      [[.int 1, .text "Ann  Lee", .text " ann lee"], [.text "1", .text "ANN LEE", .null],
        [.int 1, .text " ", .text "Bo"]]
    ((guestStore rows).select guests.table [] (.int 500) = .ok (guestFrame rows) ∧
      guests.NamesRecords (guestFrame rows)) ∧
      ∃ found, guests.load {} (.int 500) (guestStore rows) = .ok found ∧
        found.map (fun e => (e.display, e.recordId.kind)) = [("Ann Lee", "int"), ("ANN LEE", "str"), ("Bo", "int")] := by
  intro rows
  have selected : (guestStore rows).select guests.table [] (.int 500) = .ok (guestFrame rows) := rfl
  have records : guests.NamesRecords (guestFrame rows) := by
    intro _ row member
    simp only [Frame.records, guestFrame, rows, List.map_cons, List.map_nil, List.mem_cons, List.not_mem_nil,
      or_false] at member
    rcases member with rfl | rfl | rfl
    · exact Or.inr ⟨1, rfl⟩
    · exact Or.inl ⟨"1", rfl⟩
    · exact Or.inr ⟨1, rfl⟩
  have settled : firstUnsettled? (guests.places (guestFrame rows)) = none := by decide +kernel
  obtain ⟨_, complete⟩ := @load_cells guests {} _ _ _ selected records
  obtain ⟨_, yields⟩ := complete (by decide +kernel)
  obtain ⟨found, loaded, _⟩ := yields settled
  refine ⟨⟨selected, records⟩, found, loaded, ?_⟩
  have shown : (guests.load {} (.int 500) (guestStore rows)).map (List.map fun e => (e.display, e.recordId.kind)) =
      .ok [("Ann Lee", "int"), ("ANN LEE", "str"), ("Bo", "int")] := by
    decide +kernel
  rw [loaded] at shown
  exact Except.ok.inj shown

/-- A cell with two texts is there and is not empty, and the source yields nothing, not even from other cells. -/
theorem guests_with_two_names :
    let rows : List (List Value) := [[.int 1, .text "Ann", .list [.text "Lee", .text "Lea"]]]
    (guestStore rows).select guests.table [] (.int 500) = .ok (guestFrame rows) ∧
      (∀ column ∈ guests.columns, column ∈ (guestFrame rows).columnNames) ∧
      ((guests.names {} (guestFrame rows)).map fun e => (e.display, e.recordId.kind)) =
        [("Ann", "int"), ("['Lee', 'Lea']", "int")] ∧
      guests.load {} (.int 500) (guestStore rows) = .error .manyCells :=
  ⟨rfl, by decide +kernel, by decide +kernel, rfl⟩

end DomainSource

end TableTalk
