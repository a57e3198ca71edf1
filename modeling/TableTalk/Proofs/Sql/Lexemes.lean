import TableTalk.Proofs.Sql.Quoting
import TableTalk.Sql.Clause

namespace TableTalk.Sql

def nameLexeme (name : String) : Lexeme :=
  if isPlain name then .word name.toList else .name name.toList

namespace OrderTest

def lexeme (test : OrderTest) : Lexeme :=
  .sign test.sign.toList

end OrderTest

def castLexemes (column : String) : List Lexeme :=
  [.word "CAST".toList, .sign ['('], nameLexeme column, .word "AS".toList, .word "VARCHAR".toList,
    .sign [')']]

def Condition.lexemes (slot : Value → Lexeme) : Condition → List Lexeme
  | .contains column pattern =>
    castLexemes column ++
      [.word "ILIKE".toList, slot (.text pattern), .word "ESCAPE".toList, .text [escapeChar]]
  | .sameText column text =>
    .word "LOWER".toList :: .sign ['('] :: castLexemes column ++
      [.sign [')'], .sign ['='], .word "LOWER".toList, .sign ['('], slot (.text text), .sign [')']]
  | .same column value => [nameLexeme column, .sign ['='], slot value]
  | .ordered column test value => [nameLexeme column, test.lexeme, slot value]
  | .within column low high =>
    [.sign ['('], nameLexeme column, OrderTest.atLeast.lexeme, slot low, .word "AND".toList,
      nameLexeme column, OrderTest.below.lexeme, slot high, .sign [')']]

def Condition.written : Condition → List Char
  | .contains column _ =>
    "CAST".toList ++ '(' :: ((quoteIdentifier column).toList ++ ' ' :: ("AS".toList ++ ' ' ::
      ("VARCHAR".toList ++ ')' :: ' ' :: ("ILIKE".toList ++ ' ' :: '?' :: ' ' ::
        ("ESCAPE".toList ++ ' ' ::
          (enclosed Text.singleQuote (String.singleton escapeChar)).toList)))))
  | .sameText column _ =>
    "LOWER".toList ++ '(' :: ("CAST".toList ++ '(' :: ((quoteIdentifier column).toList ++ ' ' ::
      ("AS".toList ++ ' ' :: ("VARCHAR".toList ++ ')' :: ')' :: ' ' :: '=' :: ' ' ::
        ("LOWER".toList ++ ['(', '?', ')'])))))
  | .same column _ => (quoteIdentifier column).toList ++ [' ', '=', ' ', '?']
  | .ordered column test _ =>
    (quoteIdentifier column).toList ++ ' ' :: (test.sign.toList ++ ' ' :: ['?'])
  | .within column _ _ =>
    '(' :: ((quoteIdentifier column).toList ++ ' ' :: (OrderTest.atLeast.sign.toList ++ ' ' ::
      '?' :: ' ' :: ("AND".toList ++ ' ' :: ((quoteIdentifier column).toList ++ ' ' ::
        (OrderTest.below.sign.toList ++ ' ' :: ['?', ')'])))))

theorem Condition.text_toList (c : Condition) : c.text.toList = c.written := by
  cases c <;> simp only [Condition.text, String.toList_append, List.append_assoc, toString] <;> rfl

def Condition.column : Condition → String
  | .contains column _ | .sameText column _ | .same column _ | .ordered column _ _
  | .within column _ _ => column

theorem Clause.text_stated {clause : Clause} (stated : clause ≠ []) :
    clause.text = "WHERE " ++ " AND ".intercalate (clause.map Clause.groupText) := by
  cases clause with
  | nil => exact absurd rfl stated
  | cons members rest => rfl

def Clause.groupLexemes (slot : Value → Lexeme) (members : List Condition) : List Lexeme :=
  match members.map (Condition.lexemes slot) with
  | [lexemes] => lexemes
  | all => .sign ['('] :: [Lexeme.word "OR".toList].intercalate all ++ [.sign [')']]

def Clause.lexemes (slot : Value → Lexeme) (clause : Clause) : List Lexeme :=
  [Lexeme.word "AND".toList].intercalate (clause.map (Clause.groupLexemes slot))

namespace Lexeme

theorem isNameChar_not_blank {c : Char} (part : isNameChar c = true) : Text.isBlank c = false := by
  rw [Bool.eq_false_iff]
  intro blank
  simp only [isNameChar, Text.blank_not_alphanumeric blank, Bool.false_or, beq_iff_eq] at part
  subst part
  exact absurd blank (by decide)

theorem isNameChar_isWordPart {c : Char} (part : isNameChar c = true) : isWordPart c = true := by
  by_cases ascii : c.toNat < 128
  · revert part
    exact Text.ascii_all (P := fun c => isNameChar c = true → isWordPart c = true) (by decide) ascii
  · have foreign : 128 ≤ c.toNat := by omega
    simp [isWordPart, isWordStart, foreign]

theorem isNameChar_isWordStart {c : Char} (part : isNameChar c = true)
    (notDigit : Text.isDigit c = false) : isWordStart c = true := by
  by_cases ascii : c.toNat < 128
  · revert part notDigit
    exact Text.ascii_all
      (P := fun c => isNameChar c = true → Text.isDigit c = false → isWordStart c = true)
      (by decide) ascii
  · have foreign : 128 ≤ c.toNat := by omega
    simp [isWordStart, foreign]

theorem isPlain_isWord {name : String} (plain : isPlain name = true) : isWord name.toList = true := by
  obtain ⟨nonempty, _, letters, start, _⟩ := isPlain_iff.mp plain
  have parts : ∀ c ∈ name.toList, isNameChar c = true := fun c member => isNameChar_iff.mpr (letters c member)
  cases chars : name.toList with
  | nil => exact absurd (String.toList_eq_nil_iff.mp chars) nonempty
  | cons c rest =>
    rw [chars] at parts start
    have first := parts c List.mem_cons_self
    simp only [isWord, Bool.and_eq_true, Bool.not_eq_true', List.all_eq_true]
    exact ⟨⟨isNameChar_not_blank first, isNameChar_isWordStart first (start c rfl)⟩,
      fun d member => isNameChar_isWordPart (parts d (List.mem_cons_of_mem c member))⟩

theorem Spells.identifier {name : String} {text : List Char} {lexemes : List Lexeme}
    (spells : Spells text lexemes) (single : name ≠ "*") (apart : Breaks text) :
    Spells ((quoteIdentifier name).toList ++ text) (nameLexeme name :: lexemes) := by
  unfold quoteIdentifier nameLexeme
  by_cases plain : isPlain name
  · simp only [plain, Bool.or_true, ↓reduceIte]
    exact .word (isPlain_isWord plain) apart spells
  · simp only [plain, single, decide_false, Bool.false_or, Bool.false_eq_true, ↓reduceIte]
    exact (spells_enclosed_name name).append spells apart

theorem Spells.keyword {text : List Char} {lexemes : List Lexeme} (spells : Spells text lexemes)
    (word : String) (apart : Breaks text) (isOne : isWord word.toList = true) :
    Spells (word.toList ++ text) (.word word.toList :: lexemes) :=
  .word isOne apart spells

theorem scan_order (test : OrderTest) (rest : List Char) :
    scan (test.sign.toList ++ ' ' :: rest) = (scan (' ' :: rest)).map (test.lexeme :: ·) := by
  cases test with
  | above => exact (scan.eq_def ('>' :: ' ' :: rest)).trans rfl
  | below => exact (scan.eq_def ('<' :: ' ' :: rest)).trans rfl
  | atLeast => exact (scan.eq_def ('>' :: '=' :: ' ' :: rest)).trans rfl
  | atMost => exact (scan.eq_def ('<' :: '=' :: ' ' :: rest)).trans rfl

theorem Spells.order (test : OrderTest) {text : List Char} {lexemes : List Lexeme}
    (spells : Spells text lexemes) :
    Spells (test.sign.toList ++ ' ' :: text) (test.lexeme :: lexemes) := by
  intro rest breaks
  rw [List.append_assoc, List.cons_append, scan_order, ← List.cons_append,
    spells.blank rest breaks, Option.map_map]
  rfl

theorem spells_condition (c : Condition) (single : c.column ≠ "*") :
    Spells c.text.toList (c.lexemes fun _ => .placeholder) := by
  -- in every case the text is put together from its end
  have marker : Spells ['?'] [.placeholder] := Spells.nil.step scan_placeholder
  have last : Spells ['?', ')'] [.placeholder, .sign [')']] :=
    (Spells.nil.step scan_close).step scan_placeholder
  rw [c.text_toList]
  cases c with
  | contains column pattern =>
    have escape : Spells (enclosed Text.singleQuote (String.singleton escapeChar)).toList
        [.text [escapeChar]] := spells_enclosed_text _
    have tail := ((escape.blank.keyword "ESCAPE" rfl (by decide)).blank.step
      scan_placeholder).blank.keyword "ILIKE" rfl (by decide)
    have cast := (tail.blank.step scan_close).keyword "VARCHAR" rfl (by decide)
    have column := (cast.blank.keyword "AS" rfl (by decide)).blank.identifier single rfl
    exact (column.step scan_open).keyword "CAST" rfl (by decide)
  | sameText column text =>
    have right := (last.step scan_open).keyword "LOWER" rfl (by decide)
    have cast := ((right.blank.step scan_equal).blank.step scan_close).step scan_close
      |>.keyword "VARCHAR" rfl (by decide)
    have column := (cast.blank.keyword "AS" rfl (by decide)).blank.identifier single rfl
    have left := (column.step scan_open).keyword "CAST" rfl (by decide)
    exact (left.step scan_open).keyword "LOWER" rfl (by decide)
  | same column value =>
    exact (marker.blank.step scan_equal).blank.identifier single rfl
  | ordered column test value =>
    exact (marker.order test).blank.identifier single rfl
  | within column low high =>
    have upper := (last.order .below).blank.identifier single rfl
    have lower := ((upper.blank.keyword "AND" rfl (by decide)).blank.step
      scan_placeholder).order .atLeast
    exact (lower.blank.identifier single rfl).step scan_open

theorem spells_joined {α : Type} (text : α → String) (lexemes : α → List Lexeme)
    (separator word : String) (spaced : separator.toList = ' ' :: (word.toList ++ [' ']))
    (isOne : isWord word.toList = true) (items : List α)
    (all : ∀ item ∈ items, Spells (text item).toList (lexemes item)) :
    Spells (separator.intercalate (items.map text)).toList
      ([Lexeme.word word.toList].intercalate (items.map lexemes)) := by
  induction items with
  | nil => exact Spells.nil
  | cons item rest ih =>
    have first := all item List.mem_cons_self
    have later := ih fun other member => all other (List.mem_cons_of_mem _ member)
    cases rest with
    | nil => simpa using first
    | cons next more =>
      have tail := (later.blank.keyword word rfl isOne).blank
      simp only [List.map_cons, String.intercalate_cons_cons, List.intercalate_cons_cons,
        String.toList_append, spaced, List.append_assoc, List.cons_append, List.nil_append] at tail ⊢
      exact first.append tail rfl

theorem spells_group (members : List Condition) (single : ∀ c ∈ members, c.column ≠ "*") :
    Spells (Clause.groupText members).toList (Clause.groupLexemes (fun _ => .placeholder) members) := by
  have all : ∀ c ∈ members, Spells c.text.toList (c.lexemes fun _ => .placeholder) :=
    fun c member => spells_condition c (single c member)
  have joined := spells_joined Condition.text (Condition.lexemes fun _ => .placeholder) " OR " "OR" rfl
    (by decide) members all
  have closed : Spells [')'] [.sign [')']] := Spells.nil.step scan_close
  have bracketed := (joined.append closed rfl).step scan_open
  unfold Clause.groupText Clause.groupLexemes
  match members, all, bracketed with
  | [], _, bracketed => simpa using bracketed
  | [c], all, _ => exact all c List.mem_cons_self
  | _ :: _ :: _, _, bracketed =>
    simp only [List.map_cons, String.toList_append] at bracketed ⊢
    exact bracketed

theorem spells_clause (clause : Clause) (single : ∀ members ∈ clause, ∀ c ∈ members, c.column ≠ "*") :
    Spells (" AND ".intercalate (clause.map Clause.groupText)).toList
      (clause.lexemes fun _ => .placeholder) :=
  spells_joined Clause.groupText (Clause.groupLexemes fun _ => .placeholder) " AND " "AND" rfl
    (by decide) clause fun members member => spells_group members (single members member)

theorem scan_clause {clause : Clause} (stated : clause ≠ [])
    (single : ∀ members ∈ clause, ∀ c ∈ members, c.column ≠ "*") :
    scan clause.text.toList =
      some (.word "WHERE".toList :: clause.lexemes fun _ => .placeholder) := by
  have groups := (spells_clause clause single).blank.keyword "WHERE" rfl (by decide)
  rw [Clause.text_stated stated, String.toList_append]
  exact groups.scan_eq

/-- The placeholders in `lexemes` take exactly `params`, which makes them `bound`. -/
def Binds (lexemes : List Lexeme) (params : List Value) (bound : List Lexeme) : Prop :=
  ∀ rest values, bind (lexemes ++ rest) (params ++ values) = (bind rest values).map (bound ++ ·)

theorem Binds.nil : Binds [] [] [] := by
  intro rest values
  simp

theorem Binds.append {first second bound next : List Lexeme} {params more : List Value}
    (left : Binds first params bound) (right : Binds second more next) :
    Binds (first ++ second) (params ++ more) (bound ++ next) := by
  intro rest values
  rw [List.append_assoc, List.append_assoc, left, right, Option.map_map]
  congr 1
  funext lexemes
  simp

def isFixed : Lexeme → Bool
  | .placeholder => false
  | _ => true

theorem bind_fixed {lexeme : Lexeme} (fixed : isFixed lexeme = true) (rest : List Lexeme)
    (values : List Value) : bind (lexeme :: rest) values = (bind rest values).map (lexeme :: ·) := by
  cases lexeme with
  | placeholder => cases fixed
  | _ => simp [bind]

theorem bind_word (chars : List Char) (rest : List Lexeme) (values : List Value) :
    bind (.word chars :: rest) values = (bind rest values).map (.word chars :: ·) :=
  bind_fixed rfl rest values

theorem bind_sign (chars : List Char) (rest : List Lexeme) (values : List Value) :
    bind (.sign chars :: rest) values = (bind rest values).map (.sign chars :: ·) :=
  bind_fixed rfl rest values

theorem bind_text (chars : List Char) (rest : List Lexeme) (values : List Value) :
    bind (.text chars :: rest) values = (bind rest values).map (.text chars :: ·) :=
  bind_fixed rfl rest values

theorem bind_name (name : String) (rest : List Lexeme) (values : List Value) :
    bind (nameLexeme name :: rest) values = (bind rest values).map (nameLexeme name :: ·) := by
  apply bind_fixed
  unfold nameLexeme
  split <;> rfl

theorem bind_slot (value : Value) (rest : List Lexeme) (values : List Value) :
    bind (.placeholder :: rest) (value :: values) = (bind rest values).map (.value value :: ·) := rfl

theorem binds_condition (c : Condition) :
    Binds (c.lexemes fun _ => .placeholder) c.params (c.lexemes .value) := by
  intro rest values
  cases c <;>
    simp only [Condition.lexemes, castLexemes, Condition.params, OrderTest.lexeme, List.cons_append,
      List.nil_append, bind_word, bind_sign, bind_text, bind_name, bind_slot, Option.map_map] <;>
    rfl

theorem Binds.fixed {lexemes bound : List Lexeme} {params : List Value}
    (binds : Binds lexemes params bound) (lexeme : Lexeme) (fixed : isFixed lexeme = true) :
    Binds (lexeme :: lexemes) params (lexeme :: bound) := by
  intro rest values
  rw [List.cons_append, bind_fixed fixed, binds, Option.map_map]
  rfl

theorem binds_joined {α : Type} {lexemes bound : α → List Lexeme} {params : α → List Value}
    (word : List Char) (items : List α)
    (all : ∀ item ∈ items, Binds (lexemes item) (params item) (bound item)) :
    Binds ([Lexeme.word word].intercalate (items.map lexemes)) (items.flatMap params)
      ([Lexeme.word word].intercalate (items.map bound)) := by
  induction items with
  | nil => exact Binds.nil
  | cons item rest ih =>
    have first := all item List.mem_cons_self
    have later := ih fun other member => all other (List.mem_cons_of_mem _ member)
    cases rest with
    | nil => simpa using first
    | cons next more =>
      simp only [List.map_cons, List.intercalate_cons_cons, List.append_assoc, List.singleton_append,
        List.flatMap_cons] at later ⊢
      exact first.append (later.fixed _ rfl)

theorem binds_group (members : List Condition) :
    Binds (Clause.groupLexemes (fun _ => .placeholder) members) (members.flatMap Condition.params)
      (Clause.groupLexemes .value members) := by
  have joined := binds_joined "OR".toList members fun c _ => binds_condition c
  have closed : Binds [.sign [')']] [] [.sign [')']] := Binds.nil.fixed _ rfl
  have bracketed := (joined.append closed).fixed (.sign ['(']) rfl
  rw [List.append_nil] at bracketed
  unfold Clause.groupLexemes
  match members, bracketed with
  | [], bracketed => exact bracketed
  | [c], _ => simpa using binds_condition c
  | _ :: _ :: _, bracketed => exact bracketed

theorem binds_clause (clause : Clause) :
    Binds (clause.lexemes fun _ => .placeholder) clause.params (clause.lexemes .value) :=
  binds_joined "AND".toList clause fun members _ => binds_group members

theorem Binds.bind_eq {lexemes bound : List Lexeme} {params : List Value} (binds : Binds lexemes params bound) :
    bind lexemes params = some bound := by
  have whole := binds [] []
  rw [List.append_nil, List.append_nil] at whole
  simpa [bind] using whole

theorem bind_clause (clause : Clause) :
    bind (.word "WHERE".toList :: clause.lexemes fun _ => .placeholder) clause.params =
      some (.word "WHERE".toList :: clause.lexemes .value) :=
  ((binds_clause clause).fixed (.word "WHERE".toList) rfl).bind_eq

end Lexeme
end TableTalk.Sql
