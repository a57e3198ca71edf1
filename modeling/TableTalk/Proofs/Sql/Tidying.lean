import TableTalk.Proofs.Sql.Lexemes
import TableTalk.Proofs.Text.Fields
import TableTalk.Sql.Statement

namespace TableTalk.Sql

open Text

/-- A name as it stands in a tidied statement, with one space for every run of blanks. -/
def tidiedName (name : String) : String :=
  String.ofList (squeezed name.toList)

structure Tidies (text tidied : List Char) : Prop where
  nonempty : text ≠ []
  front : startsBlank text = false
  back : endsBlank false text = false
  squeezed : squeezed text = tidied

namespace Tidies

variable {front back tidied other : List Char}

theorem collapse (tidies : Tidies front tidied) : Text.collapse (String.ofList front) = String.ofList tidied := by
  rw [collapse_squeezed tidies.front tidies.back, tidies.squeezed]

theorem visible {text : List Char} (nonempty : text ≠ []) (shown : ∀ c ∈ text, isBlank c = false) :
    Tidies text text :=
  ⟨nonempty, startsBlank_all_visible shown, endsBlank_all_visible shown (Or.inl rfl), squeezeFrom_all_visible shown _⟩

theorem append (first : Tidies front tidied) (second : Tidies back other) :
    Tidies (front ++ back) (tidied ++ other) where
  nonempty := List.append_ne_nil_of_left_ne_nil first.nonempty back
  front := (startsBlank_append first.nonempty back).trans first.front
  back := by rw [endsBlank_append, first.back, second.back]
  squeezed := by rw [squeezed_append (Or.inl first.back), first.squeezed, second.squeezed]

theorem cons {c : Char} (shown : isBlank c = false) (second : Tidies back other) :
    Tidies (c :: back) (c :: other) :=
  (visible (List.cons_ne_nil c []) (by simpa using shown)).append second

theorem apart (first : Tidies front tidied) (second : Tidies back other) (blanks : List Char)
    (blank : ∀ c ∈ blanks, c = ' ') : Tidies (front ++ ' ' :: (blanks ++ back)) (tidied ++ ' ' :: other) where
  nonempty := List.append_ne_nil_of_left_ne_nil first.nonempty _
  front := (startsBlank_append first.nonempty _).trans first.front
  back := by
    rw [endsBlank_append, endsBlank, endsBlank_append, endsBlank_nonempty second.nonempty _ false, second.back]
  squeezed := by
    have space : isBlank ' ' = true := by decide
    have skipped : squeezeFrom true (blanks ++ back) = other := by
      induction blanks with
      | nil => rw [List.nil_append, squeezeFrom_visible second.front, second.squeezed]
      | cons c rest ih =>
        obtain ⟨rfl, later⟩ := List.forall_mem_cons.mp blank
        rw [List.cons_append, squeezeFrom, if_pos space, if_pos rfl, ih later]
    rw [squeezed_append (Or.inl first.back), first.squeezed, Text.squeezed, squeezeFrom, if_pos space,
      if_neg Bool.false_ne_true, skipped]

theorem spaced (first : Tidies front tidied) (second : Tidies back other) :
    Tidies (front ++ ' ' :: back) (tidied ++ ' ' :: other) :=
  first.apart second [] nofun

end Tidies

theorem squeezeFrom_quoted (quote : Char) (shown : isBlank quote = false) (text : List Char) (behindBlank : Bool) :
    squeezeFrom behindBlank (replaceEach quote [quote, quote] text) =
      replaceEach quote [quote, quote] (squeezeFrom behindBlank text) := by
  have space : ' ' ≠ quote := by
    rintro rfl
    cases shown
  unfold replaceEach
  induction text generalizing behindBlank with
  | nil => rfl
  | cons c rest ih =>
    rw [List.flatMap_cons, squeezeFrom]
    by_cases same : c = quote
    · subst same
      simp [squeezeFrom, shown, ih]
    · cases blank : isBlank c with
      | true => cases behindBlank <;> simp [same, squeezeFrom, blank, ih, space]
      | false => simp [same, squeezeFrom, blank, ih]

theorem tidies_enclosed {quote : Char} (shown : isBlank quote = false) (text : String) :
    Tidies (enclosed quote text).toList (enclosed quote (tidiedName text)).toList := by
  rw [Lexeme.enclosed_toList, Lexeme.enclosed_toList, tidiedName, String.toList_ofList]
  refine ⟨List.cons_ne_nil _ _, shown, ?_, ?_⟩
  · rw [endsBlank_append]
    exact shown
  · rw [List.cons_append, List.cons_append, squeezed, squeezeFrom, shown, if_neg Bool.false_ne_true, squeezeFrom_append,
      squeezeFrom_quoted quote shown, squeezeFrom, shown, if_neg Bool.false_ne_true]
    rfl

theorem squeezed_visible {text : List Char} (shown : ∀ c ∈ squeezed text, isBlank c = false) :
    squeezed text = text := by
  induction text with
  | nil => rfl
  | cons c rest ih =>
    rw [squeezed, squeezeFrom] at shown ⊢
    cases blank : isBlank c with
    | true =>
      have space := shown ' ' (by simp [blank])
      exact absurd space (by decide)
    | false =>
      rw [blank, if_neg Bool.false_ne_true] at shown
      rw [if_neg Bool.false_ne_true]
      exact congrArg (c :: ·) (ih (List.forall_mem_cons.mp shown).2)

theorem tidiedName_visible {name : String} (shown : ∀ c ∈ name.toList, isBlank c = false) : tidiedName name = name := by
  rw [tidiedName, squeezed, squeezeFrom_all_visible shown, String.ofList_toList]

theorem eq_of_tidiedName {name other : String} (same : tidiedName name = other)
    (shown : ∀ c ∈ other.toList, isBlank c = false) : name = other := by
  rw [← same, tidiedName, String.toList_ofList] at shown
  rw [← same, tidiedName, squeezed_visible shown, String.ofList_toList]

theorem star_visible : ∀ c ∈ "*".toList, isBlank c = false :=
  List.forall_mem_singleton.mpr (by decide)

theorem isPlain_name {name : String} (plain : isPlain name = true) :
    name.toList ≠ [] ∧ ∀ c ∈ name.toList, isBlank c = false := by
  have stands := isPlain_iff.mp plain
  exact ⟨fun empty => stands.nonempty (String.toList_eq_nil_iff.mp empty),
    fun c member => Lexeme.isNameChar_not_blank (isNameChar_iff.mpr (stands.letters c member))⟩

theorem tidies_identifier (name : String) :
    Tidies (quoteIdentifier name).toList (quoteIdentifier (tidiedName name)).toList := by
  by_cases star : name = "*"
  · subst star
    exact .visible (by decide) star_visible
  · by_cases plain : isPlain name = true
    · obtain ⟨nonempty, shown⟩ := isPlain_name plain
      rw [tidiedName_visible shown, quoteIdentifier, plain, Bool.or_true, if_pos rfl]
      exact .visible nonempty shown
    · -- a name in quotes keeps them: if nothing else is left of it than a plain name, it has no blanks
      have star' : tidiedName name ≠ "*" := fun same => star (eq_of_tidiedName same star_visible)
      have plain' : isPlain (tidiedName name) ≠ true := by
        intro same
        exact plain (eq_of_tidiedName rfl (isPlain_name same).2 ▸ same)
      rw [quoteIdentifier, quoteIdentifier, if_neg (by simp [star, plain]), if_neg (by simp [star', plain'])]
      exact tidies_enclosed (by decide) name

def Condition.tidied : Condition → Condition
  | .contains column pattern => .contains (tidiedName column) pattern
  | .sameText column text => .sameText (tidiedName column) text
  | .same column value => .same (tidiedName column) value
  | .ordered column test value => .ordered (tidiedName column) test value
  | .within column low high => .within (tidiedName column) low high

def Clause.tidied (clause : Clause) : Clause :=
  clause.map fun members => members.map Condition.tidied

theorem tidies_fixed (text : List Char) (fixed : text ≠ [] ∧ startsBlank text = false ∧
    endsBlank false text = false ∧ squeezed text = text) : Tidies text text :=
  ⟨fixed.1, fixed.2.1, fixed.2.2.1, fixed.2.2.2⟩

theorem tidies_condition (c : Condition) : Tidies c.text.toList c.tidied.text.toList := by
  have mark : Tidies ['?'] ['?'] := tidies_fixed _ (by decide)
  rw [c.text_toList, c.tidied.text_toList]
  cases c with
  | contains column pattern =>
    have behind := (tidies_identifier column).spaced (tidies_fixed ("AS".toList ++ ' ' ::
      ("VARCHAR".toList ++ ')' :: ' ' :: ("ILIKE".toList ++ ' ' :: '?' :: ' ' :: ("ESCAPE".toList ++ ' ' ::
        (enclosed Text.singleQuote (String.singleton escapeChar)).toList)))) (by decide))
    exact (tidies_fixed "CAST".toList (by decide)).append (.cons (by decide) behind)
  | sameText column text =>
    have behind := (tidies_identifier column).spaced (tidies_fixed ("AS".toList ++ ' ' ::
      ("VARCHAR".toList ++ ')' :: ')' :: ' ' :: '=' :: ' ' :: ("LOWER".toList ++ ['(', '?', ')']))) (by decide))
    have cast := (tidies_fixed "CAST".toList (by decide)).append (.cons (c := '(') (by decide) behind)
    exact (tidies_fixed "LOWER".toList (by decide)).append (.cons (by decide) cast)
  | same column value => exact (tidies_identifier column).spaced (tidies_fixed _ (by decide))
  | ordered column test value =>
    have sign : Tidies test.sign.toList test.sign.toList := by
      cases test <;> exact tidies_fixed _ (by decide)
    exact (tidies_identifier column).spaced (sign.spaced mark)
  | within column low high =>
    have upper := (tidies_identifier column).spaced ((tidies_fixed OrderTest.below.sign.toList
      (by decide)).spaced (tidies_fixed ['?', ')'] (by decide)))
    have lower := (tidies_fixed OrderTest.atLeast.sign.toList (by decide)).spaced
      (mark.spaced ((tidies_fixed "AND".toList (by decide)).spaced upper))
    exact .cons (by decide) ((tidies_identifier column).spaced lower)

theorem tidies_joined {α : Type} (text tidied : α → String) (separator word : String)
    (spaced : separator.toList = ' ' :: (word.toList ++ [' '])) (fixed : Tidies word.toList word.toList)
    {items : List α} (stated : items ≠ []) (all : ∀ item ∈ items, Tidies (text item).toList (tidied item).toList) :
    Tidies (separator.intercalate (items.map text)).toList (separator.intercalate (items.map tidied)).toList := by
  induction items with
  | nil => exact absurd rfl stated
  | cons item rest ih =>
    obtain ⟨first, later⟩ := List.forall_mem_cons.mp all
    cases rest with
    | nil => simpa using first
    | cons next more =>
      have tail := first.spaced (fixed.spaced (ih (List.cons_ne_nil _ _) later))
      simp only [List.map_cons, String.intercalate_cons_cons, String.toList_append, spaced, List.append_assoc,
        List.cons_append, List.nil_append] at tail ⊢
      exact tail

theorem tidies_group (members : List Condition) :
    Tidies (Clause.groupText members).toList (Clause.groupText (members.map Condition.tidied)).toList := by
  have all : ∀ c ∈ members, Tidies c.text.toList c.tidied.text.toList := fun c _ => tidies_condition c
  unfold Clause.groupText
  match members, all with
  | [], _ => exact tidies_fixed _ (by decide)
  | [c], all => exact all c List.mem_cons_self
  | c :: next :: more, all =>
    have joined := tidies_joined Condition.text (fun c => c.tidied.text) " OR " "OR" rfl
      (tidies_fixed _ (by decide)) (List.cons_ne_nil _ _) all
    have closed := joined.append (tidies_fixed [')'] (by decide))
    simp only [List.map_cons, List.map_map, String.toList_append] at closed ⊢
    exact .cons (c := '(') (by decide) closed

theorem tidies_clause {clause : Clause} (stated : clause ≠ []) :
    Tidies clause.text.toList clause.tidied.text.toList := by
  have joined := tidies_joined Clause.groupText (fun members => Clause.groupText (members.map Condition.tidied))
    " AND " "AND" rfl (tidies_fixed _ (by decide)) stated fun members _ => tidies_group members
  have groups := (tidies_fixed "WHERE".toList (by decide)).spaced joined
  have stated' : clause.tidied ≠ [] := fun none => stated (List.map_eq_nil_iff.mp none)
  rw [Clause.text_stated stated, Clause.text_stated stated', String.toList_append, String.toList_append, Clause.tidied,
    List.map_map]
  exact groups

end TableTalk.Sql
