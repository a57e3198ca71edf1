import TableTalk.Proofs.Sql.Lexemes
import TableTalk.Sql.Query

namespace TableTalk.Sql

def isKeywordName (name : String) : Bool :=
  isPlain name && Query.keywords.contains (String.ofList (name.toList.map Char.toUpper))

def isReadable (name : String) : Bool :=
  name != "*" && !name.isEmpty && !isKeywordName name

def OrderTest.comparator : OrderTest → Comparator
  | .above => .above
  | .below => .below
  | .atLeast => .atLeast
  | .atMost => .atMost

def Condition.expr : Condition → Expr
  | .contains column pattern =>
    .compare (.asText column) (.like (some escapeChar)) (.value (.text pattern))
  | .sameText column text =>
    .compare (.lowered (.asText column)) .equal (.lowered (.value (.text text)))
  | .same column value => .compare (.column column) .equal (.value value)
  | .ordered column test value => .compare (.column column) test.comparator (.value value)
  | .within column low high =>
    .and (.compare (.column column) .atLeast (.value low)) (.compare (.column column) .below (.value high))

namespace Query

theorem name_nameLexeme {column : String} (readable : isReadable column = true) (rest : List Lexeme) :
    name (nameLexeme column :: rest) = some (column, rest) := by
  simp only [isReadable, isKeywordName, Bool.and_eq_true, Bool.not_eq_true', bne_iff_ne, ne_eq,
    Bool.and_eq_false_imp] at readable
  obtain ⟨⟨_, nonempty⟩, notKeyword⟩ := readable
  unfold nameLexeme
  split
  · rename_i plain
    rw [name, if_neg (by rw [notKeyword plain]; simp), String.ofList_toList]
  · have chars : column.toList.isEmpty = false := by
      simpa [List.isEmpty_eq_false_iff] using nonempty
    rw [name, chars, String.ofList_toList]
    rfl

theorem castText_cast {column : String} (readable : isReadable column = true) (rest : List Lexeme) :
    castText (castLexemes column ++ rest) = some (.asText column, rest) := by
  change (name (nameLexeme column :: .word "AS".toList :: .word "VARCHAR".toList :: .sign [')'] ::
    rest)).bind _ = _
  rw [name_nameLexeme readable]
  rfl

theorem atom_cast {column : String} (readable : isReadable column = true) (rest : List Lexeme) :
    atom (castLexemes column ++ rest) = some (.asText column, rest) := by
  have cast := castText_cast readable rest
  unfold castLexemes at cast ⊢
  simp only [List.cons_append, List.nil_append] at cast ⊢
  rw [atom, cast]
  exact fun v later => nofun

theorem operand_cast {column : String} (readable : isReadable column = true) (rest : List Lexeme) :
    operand (castLexemes column ++ rest) = some (.asText column, rest) :=
  atom_cast readable rest

theorem operand_lowered {inner : Operand} {lexemes rest : List Lexeme}
    (reads : atom lexemes = some (inner, .sign [')'] :: rest)) :
    operand (.word "LOWER".toList :: .sign ['('] :: lexemes) = some (.lowered inner, rest) := by
  change (atom lexemes).bind _ = _
  rw [reads]
  rfl

theorem keyword_cases (word : String) (lexeme : Lexeme) (rest : List Lexeme) :
    keyword word (lexeme :: rest) = none ∨ keyword word (lexeme :: rest) = some rest := by
  rw [keyword]
  split
  · exact Or.inr rfl
  · exact Or.inl rfl

theorem sign_other {lexeme : Lexeme} {s : String} (other : lexeme.isSignOf s = false)
    (rest : List Lexeme) : sign s (lexeme :: rest) = none := by
  rw [sign, other]
  rfl

theorem nameLexeme_not_value (name : String) (v : Value) : nameLexeme name ≠ .value v := by
  unfold nameLexeme
  split <;> exact Lexeme.noConfusion

theorem nameLexeme_not_sign (name : String) : (nameLexeme name).isSignOf "(" = false := by
  unfold nameLexeme
  split <;> rfl

theorem operand_name {column : String} (readable : isReadable column = true) {next : Lexeme}
    (notOpen : next.isSignOf "(" = false) (rest : List Lexeme) :
    operand (nameLexeme column :: next :: rest) = some (.column column, next :: rest) := by
  -- the name may be spelled like either keyword, so only what follows it decides
  have noCall : (keyword "LOWER" (nameLexeme column :: next :: rest)).bind (sign "(") = none := by
    rcases keyword_cases "LOWER" (nameLexeme column) (next :: rest) with missing | found
    · rw [missing, Option.bind_none]
    · rw [found, Option.bind_some, sign_other notOpen]
  have noCast : castText (nameLexeme column :: next :: rest) = none := by
    unfold castText
    rcases keyword_cases "CAST" (nameLexeme column) (next :: rest) with missing | found
    · rw [missing]
      rfl
    · rw [found, Option.bind_eq_bind, Option.bind_some, sign_other notOpen]
      rfl
  have isAtom : atom (nameLexeme column :: next :: rest) = some (.column column, next :: rest) := by
    rw [atom, noCast, name_nameLexeme readable]
    · rfl
    · intro v later same
      exact nameLexeme_not_value column v (List.cons.inj same).1
  rw [operand, noCall]
  exact isAtom

theorem operand_value (v : Value) (rest : List Lexeme) :
    operand (.value v :: rest) = some (.value v, rest) := rfl

/-- Whether the lexeme behind a part of a condition of a given level ends that part. -/
def stops : Level → Lexeme → Bool
  | .single, lexeme => !lexeme.isKeyword "ESCAPE"
  | .conjunction, lexeme => !lexeme.isKeyword "ESCAPE" && !lexeme.isKeyword "AND"
  | .alternatives, lexeme =>
    !lexeme.isKeyword "ESCAPE" && !lexeme.isKeyword "AND" && !lexeme.isKeyword "OR"

def Follows (level : Level) (rest : List Lexeme) : Prop :=
  rest.head?.all (stops level) = true

theorem keyword_none {word : String} {rest : List Lexeme}
    (other : rest.head?.all (fun lexeme => !lexeme.isKeyword word) = true) :
    keyword word rest = none := by
  cases rest with
  | nil => rfl
  | cons lexeme later =>
    simp only [List.head?_cons, Option.all_some, Bool.not_eq_true'] at other
    rw [keyword, other]
    rfl

theorem escape_plain {c : Comparator} {rest : List Lexeme} (follows : Follows .single rest) :
    escape c rest = some (c, rest) := by
  have none : keyword "ESCAPE" rest = none := keyword_none follows
  cases c <;> simp [escape, none]

theorem escape_marked (mark : Char) (rest : List Lexeme) :
    escape (.like none) (.word "ESCAPE".toList :: .text [mark] :: rest) =
      some (.like (some mark), rest) := rfl

theorem comparison_of {left right : Operand} {read marked : Comparator}
    {lexemes operator middle tail rest : List Lexeme}
    (first : operand lexemes = some (left, operator)) (compares : comparator operator = some (read, middle))
    (second : operand middle = some (right, tail)) (ends : escape read tail = some (marked, rest)) :
    comparison lexemes = some (.compare left marked right, rest) := by
  simp only [comparison, first, compares, second, ends, Option.bind_eq_bind, Option.bind_some]
  rfl

theorem comparison_order {column : String} (readable : isReadable column = true) (test : OrderTest)
    (value : Value) {rest : List Lexeme} (follows : Follows .single rest) :
    comparison (nameLexeme column :: test.lexeme :: .value value :: rest) =
      some (.compare (.column column) test.comparator (.value value), rest) := by
  have notOpen : test.lexeme.isSignOf "(" = false := by cases test <;> rfl
  have compares : comparator (test.lexeme :: .value value :: rest) =
      some (test.comparator, .value value :: rest) := by cases test <;> rfl
  exact comparison_of (operand_name readable notOpen _) compares (operand_value value rest)
    (escape_plain follows)

theorem comparison_lexemes (c : Condition) (notWithin : ∀ column low high, c ≠ .within column low high)
    (readable : isReadable c.column = true) {rest : List Lexeme} (follows : Follows .single rest) :
    comparison (c.lexemes .value ++ rest) = some (c.expr, rest) := by
  cases c with
  | contains column pattern =>
    rw [Condition.lexemes, List.append_assoc]
    exact comparison_of (operand_cast readable _) rfl (operand_value _ _) (escape_marked _ rest)
  | sameText column text =>
    have left := operand_lowered (atom_cast readable (.sign [')'] :: .sign ['='] ::
      .word "LOWER".toList :: .sign ['('] :: .value (.text text) :: .sign [')'] :: rest))
    have right := operand_lowered (show atom (.value (.text text) :: .sign [')'] :: rest) = _ from rfl)
    rw [Condition.lexemes, List.append_assoc]
    exact comparison_of left rfl right (escape_plain follows)
  | same column value =>
    exact comparison_of (operand_name readable (by rfl) _) rfl (operand_value value rest)
      (escape_plain follows)
  | ordered column test value => exact comparison_order readable test value follows
  | within column low high => exact absurd rfl (notWithin column low high)

/-- The fuel that reading at a level needs beside three for every lexeme. -/
def slack : Level → Nat
  | .single => 1
  | .conjunction => 2
  | .alternatives => 3

/-- The lexemes are read as the condition `e` at a level, with enough fuel and in front of everything that
does not belong to the condition. -/
def Reads (level : Level) (lexemes : List Lexeme) (e : Expr) : Prop :=
  ∀ fuel rest, 3 * lexemes.length + slack level ≤ fuel → Follows level rest →
    expr fuel level (lexemes ++ rest) = some (e, rest)

theorem Reads.comparison {lexemes : List Lexeme} {e : Expr}
    (notOpen : ∀ rest, sign "(" (lexemes ++ rest) = none)
    (reads : ∀ rest, Follows .single rest → comparison (lexemes ++ rest) = some (e, rest)) :
    Reads .single lexemes e := by
  intro fuel rest enough follows
  obtain ⟨fuel, rfl⟩ : ∃ n, fuel = n + 1 := ⟨fuel - 1, by simp only [slack] at enough; omega⟩
  rw [expr, notOpen]
  exact reads rest follows

theorem Reads.brackets {inner : List Lexeme} {e : Expr} (reads : Reads .alternatives inner e) :
    Reads .single (.sign ['('] :: inner ++ [.sign [')']]) e := by
  intro fuel rest enough follows
  simp only [slack, List.length_append, List.length_cons, List.length_nil] at enough
  obtain ⟨fuel, rfl⟩ : ∃ n, fuel = n + 1 := ⟨fuel - 1, by omega⟩
  have inside := reads fuel (.sign [')'] :: rest) (by simp only [slack]; omega) rfl
  rw [List.append_assoc, List.cons_append, expr]
  change (expr fuel .alternatives (inner ++ .sign [')'] :: rest)).bind _ = _
  rw [inside]
  rfl

theorem Follows.single {level : Level} {rest : List Lexeme} (follows : Follows level rest) :
    Follows .single rest := by
  cases rest with
  | nil => rfl
  | cons lexeme later => cases level <;> simp_all [Follows, stops]

theorem Follows.conjunction {rest : List Lexeme} (follows : Follows .alternatives rest) :
    Follows .conjunction rest := by
  cases rest with
  | nil => rfl
  | cons lexeme later => simp_all [Follows, stops]

theorem Follows.noAnd {rest : List Lexeme} (follows : Follows .conjunction rest) :
    keyword "AND" rest = none := by
  apply keyword_none
  cases rest with
  | nil => rfl
  | cons lexeme later => simp_all [Follows, stops]

theorem Follows.noOr {rest : List Lexeme} (follows : Follows .alternatives rest) :
    keyword "OR" rest = none := by
  apply keyword_none
  cases rest with
  | nil => rfl
  | cons lexeme later => simp_all [Follows, stops]

theorem Reads.conjunction {lexemes : List Lexeme} {e : Expr} (reads : Reads .single lexemes e) :
    Reads .conjunction lexemes e := by
  intro fuel rest enough follows
  simp only [slack] at enough
  obtain ⟨fuel, rfl⟩ : ∃ n, fuel = n + 1 := ⟨fuel - 1, by omega⟩
  have part := reads fuel rest (by simp only [slack]; omega) follows.single
  rw [expr, part, Option.bind_eq_bind, Option.bind_some]
  simp only [follows.noAnd]
  rfl

theorem Reads.and {first second : List Lexeme} {e f : Expr} (left : Reads .single first e)
    (right : Reads .conjunction second f) :
    Reads .conjunction (first ++ .word "AND".toList :: second) (.and e f) := by
  intro fuel rest enough follows
  simp only [slack, List.length_append, List.length_cons] at enough
  obtain ⟨fuel, rfl⟩ : ∃ n, fuel = n + 1 := ⟨fuel - 1, by omega⟩
  have front := left fuel (.word "AND".toList :: (second ++ rest)) (by simp only [slack]; omega) rfl
  have back := right fuel rest (by simp only [slack]; omega) follows
  rw [List.append_assoc, List.cons_append, expr, front, Option.bind_eq_bind, Option.bind_some]
  change (expr fuel .conjunction (second ++ rest)).bind _ = _
  rw [back]
  rfl

theorem Reads.alternatives {lexemes : List Lexeme} {e : Expr} (reads : Reads .conjunction lexemes e) :
    Reads .alternatives lexemes e := by
  intro fuel rest enough follows
  simp only [slack] at enough
  obtain ⟨fuel, rfl⟩ : ∃ n, fuel = n + 1 := ⟨fuel - 1, by omega⟩
  have part := reads fuel rest (by simp only [slack]; omega) follows.conjunction
  rw [expr, part, Option.bind_eq_bind, Option.bind_some]
  simp only [follows.noOr]
  rfl

theorem Reads.or {first second : List Lexeme} {e f : Expr} (left : Reads .conjunction first e)
    (right : Reads .alternatives second f) :
    Reads .alternatives (first ++ .word "OR".toList :: second) (.or e f) := by
  intro fuel rest enough follows
  simp only [slack, List.length_append, List.length_cons] at enough
  obtain ⟨fuel, rfl⟩ : ∃ n, fuel = n + 1 := ⟨fuel - 1, by omega⟩
  have front := left fuel (.word "OR".toList :: (second ++ rest)) (by simp only [slack]; omega) rfl
  have back := right fuel rest (by simp only [slack]; omega) follows
  rw [List.append_assoc, List.cons_append, expr, front, Option.bind_eq_bind, Option.bind_some]
  change (expr fuel .alternatives (second ++ rest)).bind _ = _
  rw [back]
  rfl

theorem reads_condition (c : Condition) (readable : isReadable c.column = true) :
    Reads .single (c.lexemes .value) c.expr := by
  -- a range is the only condition in parentheses, with two comparisons inside
  by_cases within : ∃ column low high, c = .within column low high
  · obtain ⟨column, low, high, rfl⟩ := within
    have part (test : OrderTest) (value : Value) :
        Reads .single [nameLexeme column, test.lexeme, .value value]
          (.compare (.column column) test.comparator (.value value)) :=
      .comparison (fun rest => sign_other (nameLexeme_not_sign column) _)
        fun rest follows => comparison_order readable test value follows
    exact ((part .atLeast low).and (part .below high).conjunction).alternatives.brackets
  · apply Reads.comparison
    · intro rest
      cases c with
      | contains column pattern => rfl
      | sameText column text => rfl
      | same column value => exact sign_other (nameLexeme_not_sign column) _
      | ordered column test value => exact sign_other (nameLexeme_not_sign column) _
      | within column low high => exact absurd ⟨column, low, high, rfl⟩ within
    · intro rest follows
      exact comparison_lexemes c (fun column low high same => within ⟨column, low, high, same⟩) readable
        follows

end Query

end TableTalk.Sql
