import TableTalk.Proofs.Sql.Truth

namespace TableTalk.Sql.Query

theorem name_keyword {column : String} (reserved : isKeywordName column = true) (rest : List Lexeme) :
    name (nameLexeme column :: rest) = none := by
  rw [isKeywordName, Bool.and_eq_true] at reserved
  rw [nameLexeme, if_pos reserved.1, name, if_pos reserved.2]

theorem keyword_reserved {word column : String} (free : keywords.contains word = false)
    (reserved : isKeywordName column = true) (rest : List Lexeme) :
    keyword word (nameLexeme column :: rest) = none := by
  rw [isKeywordName, Bool.and_eq_true] at reserved
  rw [nameLexeme, if_pos reserved.1, keyword, if_neg]
  intro same
  rw [Lexeme.isKeyword, beq_iff_eq] at same
  rw [same, String.ofList_toList, free] at reserved
  cases reserved.2

theorem operand_keyword {column : String} (reserved : isKeywordName column = true) (rest : List Lexeme) :
    operand (nameLexeme column :: rest) = none := by
  have noCast : castText (nameLexeme column :: rest) = none := by
    rw [castText, keyword_reserved (by decide) reserved]
    rfl
  rw [operand, keyword_reserved (by decide) reserved, Option.bind_none]
  dsimp only
  rw [atom, noCast, name_keyword reserved]
  · rfl
  · intro v later same
    exact nameLexeme_not_value column v (List.cons.inj same).1

theorem castText_keyword {column : String} (reserved : isKeywordName column = true) (rest : List Lexeme) :
    castText (castLexemes column ++ rest) = none := by
  change (name (nameLexeme column :: _)).bind _ = none
  rw [name_keyword reserved]
  rfl

theorem atom_keyword {column : String} (reserved : isKeywordName column = true) (rest : List Lexeme) :
    atom (castLexemes column ++ rest) = some (.column "CAST", (castLexemes column ++ rest).tail) := by
  have noCast := castText_keyword reserved rest
  unfold castLexemes at noCast ⊢
  simp only [List.cons_append, List.nil_append] at noCast ⊢
  rw [atom, noCast]
  · rfl
  · intro v later same
    cases same

theorem comparison_keyword (c : Condition) (notWithin : ∀ column low high, c ≠ .within column low high)
    (reserved : isKeywordName c.column = true) (rest : List Lexeme) :
    comparison (c.lexemes .value ++ rest) = none := by
  -- a parenthesis stands where a sign of comparison or a closing parenthesis is expected
  cases c with
  | contains column pattern =>
    have reserved : isKeywordName column = true := reserved
    have left (rest : List Lexeme) : operand (castLexemes column ++ rest) = some (.column "CAST", _) :=
      atom_keyword reserved rest
    rw [Condition.lexemes, List.append_assoc, comparison, left]
    rfl
  | sameText column text =>
    have reserved : isKeywordName column = true := reserved
    have left (rest : List Lexeme) :
        operand (.word "LOWER".toList :: .sign ['('] :: (castLexemes column ++ rest)) = none := by
      change (atom (castLexemes column ++ rest)).bind _ = none
      rw [atom_keyword reserved]
      rfl
    rw [Condition.lexemes, List.append_assoc, List.cons_append, List.cons_append, comparison, left]
    rfl
  | same column value =>
    have reserved : isKeywordName column = true := reserved
    rw [comparison, Condition.lexemes, List.cons_append, operand_keyword reserved]
    rfl
  | ordered column test value =>
    have reserved : isKeywordName column = true := reserved
    rw [comparison, Condition.lexemes, List.cons_append, operand_keyword reserved]
    rfl
  | within column low high => exact absurd rfl (notWithin column low high)

/-- Nothing is read at a level from the lexemes, whatever follows them, with fuel that would be enough to read
them. -/
def Refuses (level : Level) (lexemes : List Lexeme) : Prop :=
  ∀ fuel rest, 3 * lexemes.length + slack level ≤ fuel → expr fuel level (lexemes ++ rest) = none

theorem Refuses.before {level : Level} {first : List Lexeme} (refuses : Refuses level first)
    (second : List Lexeme) : Refuses level (first ++ second) := by
  intro fuel rest enough
  rw [List.length_append] at enough
  rw [List.append_assoc]
  exact refuses fuel (second ++ rest) (by omega)

theorem Refuses.comparison {lexemes : List Lexeme} (notOpen : ∀ rest, sign "(" (lexemes ++ rest) = none)
    (refuses : ∀ rest, comparison (lexemes ++ rest) = none) : Refuses .single lexemes := by
  intro fuel rest enough
  obtain ⟨fuel, rfl⟩ : ∃ n, fuel = n + 1 := ⟨fuel - 1, by simp only [slack] at enough; omega⟩
  rw [expr, notOpen]
  exact refuses rest

theorem Refuses.conjunction {lexemes : List Lexeme} (refuses : Refuses .single lexemes) :
    Refuses .conjunction lexemes := by
  intro fuel rest enough
  simp only [slack] at enough
  obtain ⟨fuel, rfl⟩ : ∃ n, fuel = n + 1 := ⟨fuel - 1, by omega⟩
  rw [expr, refuses fuel rest (by simp only [slack]; omega)]
  rfl

theorem Refuses.alternatives {lexemes : List Lexeme} (refuses : Refuses .conjunction lexemes) :
    Refuses .alternatives lexemes := by
  intro fuel rest enough
  simp only [slack] at enough
  obtain ⟨fuel, rfl⟩ : ∃ n, fuel = n + 1 := ⟨fuel - 1, by omega⟩
  rw [expr, refuses fuel rest (by simp only [slack]; omega)]
  rfl

theorem Refuses.brackets {inner : List Lexeme} (refuses : Refuses .alternatives inner) :
    Refuses .single (.sign ['('] :: inner ++ [.sign [')']]) := by
  intro fuel rest enough
  simp only [slack, List.length_append, List.length_cons, List.length_nil] at enough
  obtain ⟨fuel, rfl⟩ : ∃ n, fuel = n + 1 := ⟨fuel - 1, by omega⟩
  have inside := refuses fuel (.sign [')'] :: rest) (by simp only [slack]; omega)
  rw [List.append_assoc, List.cons_append, expr]
  change (expr fuel .alternatives (inner ++ .sign [')'] :: rest)).bind _ = _
  rw [inside]
  rfl

theorem Refuses.and {first second : List Lexeme} {e : Expr} (left : Reads .single first e)
    (right : Refuses .conjunction second) : Refuses .conjunction (first ++ .word "AND".toList :: second) := by
  intro fuel rest enough
  simp only [slack, List.length_append, List.length_cons] at enough
  obtain ⟨fuel, rfl⟩ : ∃ n, fuel = n + 1 := ⟨fuel - 1, by omega⟩
  have front := left fuel (.word "AND".toList :: (second ++ rest)) (by simp only [slack]; omega) rfl
  have back := right fuel rest (by simp only [slack]; omega)
  rw [List.append_assoc, List.cons_append, expr, front, Option.bind_eq_bind, Option.bind_some]
  change (expr fuel .conjunction (second ++ rest)).bind _ = _
  rw [back]
  rfl

theorem Refuses.or {first second : List Lexeme} {e : Expr} (left : Reads .conjunction first e)
    (right : Refuses .alternatives second) : Refuses .alternatives (first ++ .word "OR".toList :: second) := by
  intro fuel rest enough
  simp only [slack, List.length_append, List.length_cons] at enough
  obtain ⟨fuel, rfl⟩ : ∃ n, fuel = n + 1 := ⟨fuel - 1, by omega⟩
  have front := left fuel (.word "OR".toList :: (second ++ rest)) (by simp only [slack]; omega) rfl
  have back := right fuel rest (by simp only [slack]; omega)
  rw [List.append_assoc, List.cons_append, expr, front, Option.bind_eq_bind, Option.bind_some]
  change (expr fuel .alternatives (second ++ rest)).bind _ = _
  rw [back]
  rfl

theorem refuses_condition (c : Condition) (reserved : isKeywordName c.column = true) :
    Refuses .single (c.lexemes .value) := by
  by_cases within : ∃ column low high, c = .within column low high
  · obtain ⟨column, low, high, rfl⟩ := within
    have first : Refuses .single [nameLexeme column, OrderTest.atLeast.lexeme, .value low] :=
      .comparison (fun rest => sign_other (nameLexeme_not_sign column) _)
        fun rest => comparison_keyword (.ordered column .atLeast low) (fun _ _ _ => nofun) reserved rest
    have inner := first.before [.word "AND".toList, nameLexeme column, OrderTest.below.lexeme, .value high]
    exact inner.conjunction.alternatives.brackets
  · refine .comparison (fun rest => ?_) fun rest =>
      comparison_keyword c (fun column low high same => within ⟨column, low, high, same⟩) reserved rest
    cases c with
    | contains column pattern => rfl
    | sameText column text => rfl
    | same column value => exact sign_other (nameLexeme_not_sign column) _
    | ordered column test value => exact sign_other (nameLexeme_not_sign column) _
    | within column low high => exact absurd ⟨column, low, high, rfl⟩ within

theorem refuses_alternatives {members : List Condition}
    (named : ∀ c ∈ members, isKeywordName c.column = false → isReadable c.column = true)
    (reserved : ∃ c ∈ members, isKeywordName c.column = true) :
    Refuses .alternatives ([Lexeme.word "OR".toList].intercalate (members.map (Condition.lexemes .value))) := by
  induction members with
  | nil => exact absurd reserved (by simp)
  | cons c rest ih =>
    obtain ⟨here, there⟩ := List.forall_mem_cons.mp named
    cases first : isKeywordName c.column with
    | true =>
      have refuses := (refuses_condition c first).conjunction.alternatives
      cases rest with
      | nil =>
        rw [List.map_cons, List.map_nil, List.intercalate_singleton]
        exact refuses
      | cons next more =>
        rw [List.map_cons, List.map_cons, List.intercalate_cons_cons, List.append_assoc]
        exact refuses.before _
    | false =>
      have later : ∃ c ∈ rest, isKeywordName c.column = true := by
        obtain ⟨other, member, reserved⟩ := reserved
        rcases List.mem_cons.mp member with rfl | inside
        · rw [first] at reserved
          cases reserved
        · exact ⟨other, inside, reserved⟩
      cases rest with
      | nil => exact absurd later (by simp)
      | cons next more =>
        rw [List.map_cons, List.map_cons, List.intercalate_cons_cons, List.append_assoc, List.singleton_append]
        exact .or (reads_condition c (here first)).conjunction (ih there later)

theorem refuses_group {members : List Condition}
    (named : ∀ c ∈ members, isKeywordName c.column = false → isReadable c.column = true)
    (reserved : ∃ c ∈ members, isKeywordName c.column = true) :
    Refuses .single (Clause.groupLexemes .value members) := by
  have alternatives := refuses_alternatives named reserved
  match members, reserved, alternatives with
  | [c], reserved, _ =>
    obtain ⟨_, single, reserved⟩ := reserved
    rw [List.mem_singleton.mp single] at reserved
    exact refuses_condition c reserved
  | _ :: _ :: _, _, alternatives => exact alternatives.brackets

theorem refuses_clause {clause : Clause}
    (nonempty : ∀ members ∈ clause, members ≠ [])
    (named : ∀ members ∈ clause, ∀ c ∈ members, isKeywordName c.column = false → isReadable c.column = true)
    (reserved : ∃ members ∈ clause, ∃ c ∈ members, isKeywordName c.column = true) :
    Refuses .conjunction (clause.lexemes .value) := by
  unfold Clause.lexemes
  induction clause with
  | nil => exact absurd reserved (by simp)
  | cons members rest ih =>
    obtain ⟨here, there⟩ := List.forall_mem_cons.mp named
    obtain ⟨stated, others⟩ := List.forall_mem_cons.mp nonempty
    by_cases first : ∃ c ∈ members, isKeywordName c.column = true
    · have refuses := (refuses_group here first).conjunction
      cases rest with
      | nil =>
        rw [List.map_cons, List.map_nil, List.intercalate_singleton]
        exact refuses
      | cons next more =>
        rw [List.map_cons, List.map_cons, List.intercalate_cons_cons, List.append_assoc]
        exact refuses.before _
    · have later : ∃ members ∈ rest, ∃ c ∈ members, isKeywordName c.column = true := by
        obtain ⟨other, member, reserved⟩ := reserved
        rcases List.mem_cons.mp member with rfl | inside
        · exact absurd reserved first
        · exact ⟨other, inside, reserved⟩
      have readable : ∀ c ∈ members, isReadable c.column = true := by
        intro c member
        exact here c member (Bool.eq_false_iff.mpr fun reserved => first ⟨c, member, reserved⟩)
      obtain ⟨e, group⟩ := reads_group stated readable
      cases rest with
      | nil => exact absurd later (by simp)
      | cons next more =>
        rw [List.map_cons, List.map_cons, List.intercalate_cons_cons, List.append_assoc, List.singleton_append]
        exact .and group.1 (ih others there later)

end TableTalk.Sql.Query
