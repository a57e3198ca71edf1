import TableTalk.Proofs.Summary
import TableTalk.Proofs.Text.Lines

namespace TableTalk

open Text

def Frame.IsRectangular (f : Frame) : Prop :=
  ∀ row ∈ f.rows, row.length = f.columns.length

instance (f : Frame) : Decidable f.IsRectangular :=
  inferInstanceAs (Decidable (∀ row ∈ f.rows, _))

namespace Summary

/-- Whether some cell that is not missing has one of the literals in its text in lower case. -/
def HasLiteral (literals : List String) (cells : List Value) : Prop :=
  ∃ cell ∈ cells, cell.isMissing = false ∧ ∃ literal ∈ literals, literal.toList <:+: (lower cell.shown).toList

instance (literals : List String) (cells : List Value) : Decidable (HasLiteral literals cells) :=
  inferInstanceAs (Decidable (∃ cell ∈ cells, _ ∧ ∃ literal ∈ literals, _))

def loweredTexts (cells : List Value) : List (List Char) :=
  cells.map fun cell => (lower (cellText cell)).toList

/-- Whether one of the literals stands across a boundary between columns. -/
def StraddlesColumns (literals : List String) (cells : List Value) : Prop :=
  ∃ literal ∈ literals, Straddles literal.toList (loweredTexts cells)

instance (literals : List String) (cells : List Value) : Decidable (StraddlesColumns literals cells) :=
  inferInstanceAs (Decidable (∃ literal ∈ literals, _))

theorem not_straddlesColumns {literals : List String} (single : ∀ literal ∈ literals, ' ' ∉ literal.toList)
    (cells : List Value) : ¬ StraddlesColumns literals cells := by
  rintro ⟨literal, listed, straddles⟩
  exact single literal listed straddles.space_mem

/-- The cells of a row as they are read: in a frame of numbers, floating point numbers among them, every cell is a
floating point number. -/
def readCells (f : Frame) (row : List Value) : List Value :=
  if isWidened f then row.map widened else row

theorem readCells_plain {f : Frame} (plain : isWidened f = false) (row : List Value) : readCells f row = row := by
  rw [readCells, plain, if_neg Bool.false_ne_true]

def Counts (literals : List String) (cells : List Value) : Prop :=
  HasLiteral literals cells ∨ StraddlesColumns literals cells

instance (literals : List String) (cells : List Value) : Decidable (Counts literals cells) :=
  inferInstanceAs (Decidable (_ ∨ _))

theorem counts_nil (literals : List String) : ¬ Counts literals [] := by
  rintro (⟨_, inside, _⟩ | ⟨_, _, front, _, split, before, _⟩)
  · cases inside
  · exact before (List.append_eq_nil_iff.mp split.symm).1

theorem literals_nonempty {entities : List Entity} {literal : String} (member : literal ∈ literals entities) :
    literal.toList ≠ [] := by
  have kept := (List.mem_filter.mp (Assoc.mem_distinct.mp member)).2
  rw [Bool.not_eq_true', String.isEmpty_eq_false_iff] at kept
  exact fun empty => kept (String.toList_eq_nil_iff.mp empty)

theorem infix_cellText {part : List Char} (nonempty : part ≠ []) (cell : Value) :
    part <:+: (lower (cellText cell)).toList ↔ cell.isMissing = false ∧ part <:+: (lower cell.shown).toList := by
  cases missing : cell.isMissing with
  | true =>
    have none : (lower (cellText cell)).toList = [] := by
      rw [cellText, missing, if_pos rfl]
      rfl
    rw [none, List.infix_nil]
    exact ⟨fun empty => absurd empty nonempty, nofun⟩
  | false =>
    rw [cellText, missing, if_neg Bool.false_ne_true]
    exact ⟨fun inside => ⟨rfl, inside⟩, And.right⟩

theorem contains_rowText_iff {f : Frame} {row : List Value} {literal : String} (nonempty : literal.toList ≠ []) :
    Text.contains (rowText f row) literal = true ↔
      (∃ cell ∈ readCells f row, cell.isMissing = false ∧ literal.toList <:+: (lower cell.shown).toList) ∨
        Straddles literal.toList (loweredTexts (readCells f row)) := by
  have line : (rowText f row).toList = [' '].intercalate (loweredTexts (readCells f row)) := by
    change (lower (unwords ((readCells f row).map cellText))).toList = _
    rw [lower_unwords, List.map_map]
    rfl
  rw [Text.contains, Sql.occursIn_infix, line, infix_joined_iff nonempty, loweredTexts]
  simp only [List.mem_map, exists_exists_and_eq_and, infix_cellText nonempty]

theorem any_contains_iff {f : Frame} {row : List Value} {texts : List String}
    (nonempty : ∀ literal ∈ texts, literal.toList ≠ []) :
    (texts.any fun literal => Text.contains (rowText f row) literal) = true ↔ Counts texts (readCells f row) := by
  rw [List.any_eq_true]
  constructor
  · rintro ⟨literal, listed, found⟩
    rcases (contains_rowText_iff (nonempty literal listed)).mp found with ⟨cell, among, there, inside⟩ | straddles
    · exact Or.inl ⟨cell, among, there, literal, listed, inside⟩
    · exact Or.inr ⟨literal, listed, straddles⟩
  · rintro (⟨cell, among, there, literal, listed, inside⟩ | ⟨literal, listed, straddles⟩)
    · exact ⟨literal, listed, (contains_rowText_iff (nonempty literal listed)).mpr (Or.inl ⟨cell, among, there, inside⟩)⟩
    · exact ⟨literal, listed, (contains_rowText_iff (nonempty literal listed)).mpr (Or.inr straddles)⟩

theorem matchingRows_eq {f : Frame} (rectangular : f.IsRectangular) {texts : List String}
    (nonempty : ∀ literal ∈ texts, literal.toList ≠ []) :
    matchingRows texts f = f.rows.countP fun row => Counts texts (readCells f row) := by
  unfold matchingRows
  split
  · rename_i empty
    -- without columns there are no cells, and without rows nothing to count
    have none : ∀ row ∈ f.rows, row = [] := by
      intro row member
      rcases Bool.or_eq_true_iff.mp empty with rows | columns
      · rw [List.isEmpty_iff.mp rows] at member
        cases member
      · have length := rectangular row member
        rw [List.isEmpty_iff.mp columns] at length
        exact List.length_eq_zero_iff.mp length
    refine (List.countP_eq_zero.mpr fun row member => ?_).symm
    have cells : readCells f row = [] := by
      rw [none row member, readCells, List.map_nil, ite_self]
    rw [cells, decide_eq_true_eq]
    exact counts_nil texts
  · refine List.countP_congr fun row _ => ?_
    rw [decide_eq_true_eq]
    exact any_contains_iff nonempty

/-- The share of those rows of frames that count, to four places; without rows there is none. -/
def share (counts : Frame → List Value → Prop) [∀ f row, Decidable (counts f row)]
    (frames : List (String × Frame)) : Float :=
  let total := frames.foldl (fun n entry => n + entry.2.size) 0
  if total = 0 then 0
  else Decimal.roundTo 4 (Decimal.quotient
    (frames.foldl (fun n entry => n + entry.2.rows.countP fun row => counts entry.2 row) 0) total)

theorem foldl_congr {counts counts' : String × Frame → Nat} {frames : List (String × Frame)}
    (same : ∀ entry ∈ frames, counts entry = counts' entry) (n : Nat) :
    frames.foldl (fun n entry => n + counts entry) n = frames.foldl (fun n entry => n + counts' entry) n := by
  induction frames generalizing n with
  | nil => rfl
  | cons entry rest ih =>
    obtain ⟨here, there⟩ := List.forall_mem_cons.mp same
    rw [List.foldl_cons, List.foldl_cons, here, ih there]

theorem share_congr {counts counts' : Frame → List Value → Prop} [∀ f row, Decidable (counts f row)]
    [∀ f row, Decidable (counts' f row)] {frames : List (String × Frame)}
    (same : ∀ entry ∈ frames, ∀ row ∈ entry.2.rows, counts entry.2 row ↔ counts' entry.2 row) :
    share counts frames = share counts' frames := by
  have found : ∀ entry ∈ frames, (entry.2.rows.countP fun row => counts entry.2 row) =
      entry.2.rows.countP fun row => counts' entry.2 row := by
    intro entry member
    refine List.countP_congr fun row inside => ?_
    rw [decide_eq_true_eq, decide_eq_true_eq]
    exact same entry member row inside
  unfold share
  rw [foldl_congr found]

theorem homogeneityOf_eq_share {frames : List (String × Frame)} (rectangular : ∀ entry ∈ frames, entry.2.IsRectangular)
    {entities : List Entity} (asked : literals entities ≠ []) :
    homogeneityOf frames entities = share (fun f row => Counts (literals entities) (readCells f row)) frames := by
  unfold homogeneityOf share
  dsimp only
  split
  · rfl
  · split
    · rename_i none
      exact absurd none asked
    · rw [foldl_congr fun entry member =>
        matchingRows_eq (rectangular entry member) fun literal listed => literals_nonempty listed]

/-- If there is anything to look for, the rows that count are those with a literal in a cell and those in which one
stands across a boundary between columns. So it is the rows with a literal in a cell exactly as far as no other row has
one across a boundary, and as far as cells are read as they are. -/
theorem homogeneityOf_counts {frames : List (String × Frame)} (rectangular : ∀ entry ∈ frames, entry.2.IsRectangular)
    {entities : List Entity} (asked : literals entities ≠ []) :
    let texts := literals entities
    homogeneityOf frames entities = share (fun f row => Counts texts (readCells f row)) frames ∧
      (∀ f row, isWidened f = false →
        ((Counts texts (readCells f row) ↔ HasLiteral texts row) ↔
          (StraddlesColumns texts row → HasLiteral texts row))) ∧
        ((∀ entry ∈ frames, isWidened entry.2 = false) → (∀ literal ∈ texts, ' ' ∉ literal.toList) →
          homogeneityOf frames entities = share (fun _ row => HasLiteral texts row) frames) := by
  intro texts
  have counted := homogeneityOf_eq_share rectangular asked
  have rowwise : ∀ f row, isWidened f = false → ((Counts texts (readCells f row) ↔ HasLiteral texts row) ↔
      (StraddlesColumns texts row → HasLiteral texts row)) := by
    intro f row plain
    rw [readCells_plain plain]
    exact or_iff_left_iff_imp
  refine ⟨counted, rowwise, fun plain single => ?_⟩
  rw [counted]
  refine share_congr fun entry member row _ => ?_
  refine (rowwise entry.2 row (plain entry member)).mpr fun straddles => ?_
  exact absurd straddles (not_straddlesColumns single row)

def hillPeople : Frame :=
  { columns := [{ name := "first" }, { name := "middle" }, { name := "last" }]
    rows := [[.text "Ann", .null, .text "Sam Hill (lead)"], [.text "x Sam", .text "Hill", .null],
      [.text "Sam", .null, .text "Hill"]] }

def samHill : Entity :=
  { text := "sam hill", kind := .domainValue, span := ⟨0, 8⟩, confidence := 0.9, canonical := .text "Sam Hill" }

theorem hill_people_counted :
    let frames := [("people", hillPeople)]
    ((∀ entry ∈ frames, entry.2.IsRectangular) ∧ literals [samHill] ≠ []) ∧
      homogeneityOf frames [samHill] = share (fun f row => Counts ["sam hill"] (readCells f row)) frames ∧
        hillPeople.rows.map (fun row => decide (Counts ["sam hill"] (readCells hillPeople row))) =
          [true, true, false] := by
  intro frames
  have rectangular : ∀ entry ∈ frames, entry.2.IsRectangular := by decide +kernel
  have listed : literals [samHill] = ["sam hill"] := by decide +kernel
  have asked : literals [samHill] ≠ [] := by
    rw [listed]
    nofun
  have counted := (homogeneityOf_counts rectangular asked).1
  rw [listed] at counted
  exact ⟨⟨rectangular, asked⟩, counted, by decide +kernel⟩

/-- A row counts in which no cell has the name, because its words stand in two columns, one behind the other. -/
theorem sam_hill_across_columns :
    let frames := [("people", hillPeople)]
    literals [samHill] = ["sam hill"] ∧
      hillPeople.rows.map (fun row => decide (HasLiteral ["sam hill"] row)) = [true, false, false] ∧
        homogeneityOf frames [samHill] ≠ share (fun _ row => HasLiteral (literals [samHill]) row) frames := by
  decide +kernel

end Summary

end TableTalk
