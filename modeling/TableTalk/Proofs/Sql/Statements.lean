import TableTalk.Proofs.Sql.Refusing
import TableTalk.Proofs.Sql.Satisfaction
import TableTalk.Proofs.Sql.Tidying
import TableTalk.Proofs.Text.Words

namespace TableTalk.Sql

def Clause.conditionLexemes (slot : Value → Lexeme) (clause : Clause) : List Lexeme :=
  match clause with
  | [] => []
  | groups => .word "WHERE".toList :: Clause.lexemes slot groups

def Clause.written (clause : Clause) : List Char :=
  match clause with
  | [] => []
  | groups => ' ' :: groups.text.toList

def Clause.IsStatedBy (clause : Clause) : Option Expr → Prop
  | none => clause = []
  | some e => e.IsAllOf clause

def Statement.body (table : String) (clause : Clause) (tail : List Char) : List Char :=
  (quoteIdentifier table).toList ++ (clause.written ++ tail)

theorem Clause.written_stated {clause : Clause} (stated : clause ≠ []) :
    clause.written = ' ' :: clause.text.toList := by
  cases clause with
  | nil => exact absurd rfl stated
  | cons members rest => rfl

theorem Clause.conditionLexemes_stated {clause : Clause} (stated : clause ≠ []) (slot : Value → Lexeme) :
    clause.conditionLexemes slot = .word "WHERE".toList :: clause.lexemes slot := by
  cases clause with
  | nil => exact absurd rfl stated
  | cons members rest => rfl

theorem tidied_ne_nil {clause : Clause} (stated : clause ≠ []) : clause.tidied ≠ [] :=
  fun none => stated (List.map_eq_nil_iff.mp none)

theorem collapse_select (table : String) (clause : Clause) {limit : String}
    (plain : Tidies limit.toList limit.toList) :
    Text.collapse s!"SELECT * FROM {quoteIdentifier table} {clause.text} LIMIT {limit}" =
      String.ofList ("SELECT * FROM".toList ++ ' ' ::
        Statement.body (tidiedName table) clause.tidied (' ' :: ("LIMIT".toList ++ ' ' :: limit.toList))) := by
  have front : Tidies "SELECT * FROM".toList "SELECT * FROM".toList := tidies_fixed _ (by decide)
  have limited := (tidies_fixed "LIMIT".toList (by decide)).spaced plain
  have name := tidies_identifier table
  rw [← String.ofList_toList (s := s!"SELECT * FROM {quoteIdentifier table} {clause.text} LIMIT {limit}")]
  by_cases stated : clause = []
  · subst stated
    have whole := (front.spaced (name.apart limited [' '] (by simp))).collapse
    simpa [Clause.text, Statement.body, Clause.tidied, Clause.written, toString] using whole
  · have whole := (front.spaced (name.spaced ((tidies_clause stated).spaced limited))).collapse
    rw [Statement.body, Clause.written_stated (tidied_ne_nil stated)]
    simpa [toString] using whole

theorem collapse_count (table : String) (clause : Clause) :
    Text.collapse s!"SELECT COUNT(*) AS n FROM {quoteIdentifier table} {clause.text}" =
      String.ofList
        ("SELECT COUNT(*) AS n FROM".toList ++ ' ' :: Statement.body (tidiedName table) clause.tidied []) := by
  have front : Tidies "SELECT COUNT(*) AS n FROM".toList "SELECT COUNT(*) AS n FROM".toList :=
    tidies_fixed _ (by decide)
  have name := tidies_identifier table
  rw [← String.ofList_toList (s := s!"SELECT COUNT(*) AS n FROM {quoteIdentifier table} {clause.text}")]
  by_cases stated : clause = []
  · subst stated
    have whole := (front.spaced name).collapse
    rw [← Text.collapse_trailing (c := ' ') (by decide)] at whole
    simpa [Clause.text, Statement.body, Clause.tidied, Clause.written, toString] using whole
  · have whole := (front.spaced (name.spaced (tidies_clause stated))).collapse
    rw [Statement.body, Clause.written_stated (tidied_ne_nil stated)]
    simpa [toString] using whole

def limitLexeme (limit : Value) : Lexeme :=
  match limit with
  | .int _ => .number limit.shown.toList
  | _ => .word limit.shown.toList

theorem digitValues_map {digits : List Char} (all : ∀ c ∈ digits, c.isDigit = true) :
    Decimal.digitValues digits = digits.map fun c => c.toNat - '0'.toNat := by
  unfold Decimal.digitValues
  induction digits with
  | nil => rfl
  | cons c rest ih =>
    obtain ⟨digit, later⟩ := List.forall_mem_cons.mp all
    have ascii := (Text.alphanum_bounds (c := c) (by simp [Char.isAlphanum, digit])).2
    have value : Text.digitValue? c = some (c.toNat - '0'.toNat) := by
      rw [Text.digitValue?, if_pos ascii, if_pos digit]
    rw [List.filterMap_cons_some value, ih later, List.map_cons]

theorem isDigit_toDigits {n : Nat} : ∀ c ∈ Nat.toDigits 10 n, c.isDigit = true :=
  fun _ member => Nat.isDigit_of_mem_toDigits (by decide) (by decide) member

theorem ofDigits_toDigits (n : Nat) : Decimal.ofDigits (Decimal.digitValues (Nat.toDigits 10 n)) = n := by
  have read := Nat.ofDigitChars_ten_toDigits (n := n)
  rw [Nat.ofDigitChars_eq_foldl] at read
  rw [digitValues_map isDigit_toDigits, Decimal.ofDigits, List.foldl_map]
  exact read

namespace Lexeme

theorem digit_plain {c : Char} (digit : c.isDigit = true) :
    Text.isBlank c = false ∧ isWordStart c = false ∧ isWordPart c = true := by
  have ascii := (Text.alphanum_bounds (c := c) (by simp [Char.isAlphanum, digit])).2
  exact Text.ascii_all (P := fun c => c.isDigit = true →
    Text.isBlank c = false ∧ isWordStart c = false ∧ isWordPart c = true) (by decide) ascii digit

theorem spells_number {digits : List Char} (nonempty : digits ≠ []) (all : ∀ c ∈ digits, c.isDigit = true) :
    Spells digits [.number digits] := by
  intro rest breaks
  obtain ⟨c, later, rfl⟩ := List.exists_cons_of_ne_nil nonempty
  obtain ⟨digit, others⟩ := List.forall_mem_cons.mp all
  obtain ⟨shown, notWord, _⟩ := digit_plain digit
  have stop : rest.takeWhile Char.isDigit = [] ∧ rest.dropWhile Char.isDigit = rest := by
    cases rest with
    | nil => exact ⟨rfl, rfl⟩
    | cons d rest =>
      have other : d.isDigit = false := by
        rw [Bool.eq_false_iff]
        intro digit
        simp [Breaks, isBreak, (digit_plain digit).2.2] at breaks
      simp [other]
  rw [List.cons_append, scan, if_neg (by simp [shown]), if_neg (by simp [notWord]), if_pos digit,
    List.takeWhile_append_of_pos others, List.dropWhile_append_of_pos others, stop.1, stop.2, List.append_nil]
  rfl

end Lexeme

theorem limit_accepted {limit : Value} {n : Int} (number : limit.asInt? = some n) (positive : 0 < n) :
    Tidies limit.shown.toList limit.shown.toList ∧ Lexeme.Spells limit.shown.toList [limitLexeme limit] ∧
      Lexeme.isFixed (limitLexeme limit) = true ∧
        Query.readLimit [.word "LIMIT".toList, limitLexeme limit] = some (some n.toNat) := by
  cases limit with
  | bool b =>
    cases b with
    | false =>
      cases number
      exact absurd positive (by decide)
    | true =>
      cases number
      have word : Lexeme.isWord "True".toList = true := by decide
      have spells := Lexeme.Spells.nil.keyword "True" rfl word
      rw [List.append_nil] at spells
      exact ⟨tidies_fixed _ (by decide), spells, rfl, rfl⟩
  | int m =>
    cases number
    obtain ⟨m, rfl⟩ := Int.eq_ofNat_of_zero_le (Int.le_of_lt positive)
    have shown : (Value.int m).shown.toList = Nat.toDigits 10 m := Nat.toList_repr
    have visible : ∀ c ∈ Nat.toDigits 10 m, Text.isBlank c = false :=
      fun c member => (Lexeme.digit_plain (isDigit_toDigits c member)).1
    have read : Query.readLimit [.word "LIMIT".toList, .number (Nat.toDigits 10 m)] =
        some (some (Decimal.ofDigits (Decimal.digitValues (Nat.toDigits 10 m)))) := rfl
    rw [limitLexeme, shown, read, ofDigits_toDigits]
    exact ⟨.visible Nat.toDigits_ne_nil visible, Lexeme.spells_number Nat.toDigits_ne_nil isDigit_toDigits, rfl, rfl⟩
  | _ => cases number

namespace Lexeme

theorem scan_star (rest : List Char) : scan ('*' :: rest) = (scan rest).map (.sign ['*'] :: ·) := by
  rw [scan]
  rfl

def selectFront : List Lexeme :=
  [.word "SELECT".toList, .sign ['*'], .word "FROM".toList]

theorem Spells.selectFront {text : List Char} {lexemes : List Lexeme} (spells : Spells text lexemes) :
    Spells ("SELECT * FROM".toList ++ ' ' :: text) (selectFront ++ lexemes) :=
  ((spells.blank.keyword "FROM" rfl (by decide)).blank.step scan_star).blank.keyword "SELECT" rfl (by decide)

theorem spells_body {table : String} {clause : Clause} {tail : List Char} {lexemes : List Lexeme}
    (spells : Spells tail lexemes) (apart : Breaks tail) (named : table ≠ "*")
    (single : ∀ members ∈ clause, ∀ c ∈ members, c.column ≠ "*") :
    Spells (Statement.body table clause tail)
      (nameLexeme table :: (clause.conditionLexemes (fun _ => .placeholder) ++ lexemes)) := by
  by_cases stated : clause = []
  · subst stated
    exact spells.identifier named apart
  · have groups := (spells_clause clause single).blank.keyword "WHERE" rfl (by decide)
    have condition : Spells clause.text.toList (.word "WHERE".toList :: clause.lexemes fun _ => .placeholder) := by
      rw [Clause.text_stated stated, String.toList_append]
      exact groups
    rw [Statement.body, Clause.written_stated stated, Clause.conditionLexemes_stated stated]
    exact (condition.append spells apart).blank.identifier named rfl

theorem Binds.fixedAll {lexemes : List Lexeme} (fixed : lexemes.all isFixed = true) : Binds lexemes [] lexemes := by
  induction lexemes with
  | nil => exact Binds.nil
  | cons lexeme rest ih =>
    rw [List.all_cons, Bool.and_eq_true] at fixed
    exact (ih fixed.2).fixed lexeme fixed.1

theorem isFixed_name (name : String) : isFixed (nameLexeme name) = true := by
  unfold nameLexeme
  split <;> rfl

theorem binds_conditionLexemes (clause : Clause) :
    Binds (clause.conditionLexemes fun _ => .placeholder) clause.params (clause.conditionLexemes .value) := by
  by_cases stated : clause = []
  · subst stated
    exact Binds.nil
  · rw [Clause.conditionLexemes_stated stated, Clause.conditionLexemes_stated stated]
    exact (binds_clause clause).fixed _ rfl

theorem bind_statement (front tail : List Lexeme) (fixed : front.all isFixed = true) (fixed' : tail.all isFixed = true)
    (table : String) (clause : Clause) :
    bind (front ++ nameLexeme table :: (clause.conditionLexemes (fun _ => .placeholder) ++ tail)) clause.params =
      some (front ++ nameLexeme table :: (clause.conditionLexemes .value ++ tail)) := by
  have behind := (binds_conditionLexemes clause).append (Binds.fixedAll fixed')
  rw [List.append_nil] at behind
  exact ((Binds.fixedAll fixed).append (behind.fixed _ (isFixed_name table))).bind_eq

end Lexeme

namespace Query

theorem readCondition_clause {clause : Clause} {tail : List Lexeme} (follows : Follows .alternatives tail)
    (noWhere : keyword "WHERE" tail = none) (nonempty : ∀ members ∈ clause, members ≠ [])
    (readable : ∀ members ∈ clause, ∀ c ∈ members, isReadable c.column = true) :
    ∃ condition, readCondition (clause.conditionLexemes .value ++ tail) = some (condition, tail) ∧
      clause.IsStatedBy condition := by
  by_cases stated : clause = []
  · subst stated
    refine ⟨none, ?_, rfl⟩
    rw [Clause.conditionLexemes, List.nil_append, readCondition, noWhere]
  · obtain ⟨e, reads, allOf⟩ := reads_clause stated nonempty readable
    refine ⟨some e, ?_, allOf⟩
    have enough : 3 * (clause.lexemes .value).length + slack .alternatives ≤
        3 * (clause.lexemes .value ++ tail).length + 3 := by
      rw [List.length_append, slack]
      omega
    have read := reads.alternatives _ tail enough follows
    rw [Clause.conditionLexemes_stated stated, List.cons_append]
    change (readExpr (clause.lexemes .value ++ tail)).map _ = _
    rw [readExpr, read]
    rfl

theorem readCondition_keyword {clause : Clause} (tail : List Lexeme) (nonempty : ∀ members ∈ clause, members ≠ [])
    (named : ∀ members ∈ clause, ∀ c ∈ members, isKeywordName c.column = false → isReadable c.column = true)
    (reserved : ∃ members ∈ clause, ∃ c ∈ members, isKeywordName c.column = true) :
    readCondition (clause.conditionLexemes .value ++ tail) = none := by
  have stated : clause ≠ [] := by
    obtain ⟨members, member, _⟩ := reserved
    exact List.ne_nil_of_mem member
  have refuses := (refuses_clause nonempty named reserved).alternatives
  have enough : 3 * (clause.lexemes .value).length + slack .alternatives ≤
      3 * (clause.lexemes .value ++ tail).length + 3 := by
    rw [List.length_append, slack]
    omega
  rw [Clause.conditionLexemes_stated stated, List.cons_append]
  change (readExpr (clause.lexemes .value ++ tail)).map _ = none
  rw [readExpr, refuses _ tail enough]
  rfl

theorem ofLexemes_select (rest : List Lexeme) : ofLexemes (Lexeme.selectFront ++ rest) = (do
    let (table, rest) ← name rest
    let (condition, rest) ← readCondition rest
    return ⟨table, condition, .rows (← readLimit rest)⟩) :=
  rfl

end Query

end TableTalk.Sql

namespace TableTalk

open Sql

def Predicate.tidied (p : Predicate) : Predicate :=
  { p with column := tidiedName p.column }

namespace Sql

theorem ofPredicate_tidied (p : Predicate) :
    Condition.ofPredicate p.tidied = (Condition.ofPredicate p).tidied := by
  unfold Condition.ofPredicate Predicate.tidied
  dsimp only
  cases p.operator with
  | equals => cases p.value <;> rfl
  | unsupported name => cases p.value <;> rfl
  | _ => rfl

theorem ofChecked_tidied (predicates : List Predicate) :
    Clause.ofChecked (predicates.map Predicate.tidied) = (Clause.ofChecked predicates).tidied := by
  have groups := Assoc.groupBy_map Predicate.tidied Predicate.group predicates
  change Predicate.groups _ = (Predicate.groups predicates).map _ at groups
  rw [Clause.ofChecked, groups, List.map_map, Clause.tidied, Clause.ofChecked, List.map_map]
  refine List.map_congr_left fun group _ => ?_
  simp only [Function.comp_apply, List.map_map]
  exact List.map_congr_left fun p _ => ofPredicate_tidied p

theorem params_tidied (clause : Clause) : clause.tidied.params = clause.params := by
  have same (c : Condition) : c.tidied.params = c.params := by cases c <;> rfl
  simp only [Clause.params, Clause.tidied, List.flatMap_map, same]

theorem isKeywordName_tidied (name : String) : isKeywordName (tidiedName name) = isKeywordName name := by
  cases plain : isPlain name with
  | true => rw [tidiedName_visible (isPlain_name plain).2]
  | false =>
    have other : isPlain (tidiedName name) = false := by
      rw [Bool.eq_false_iff]
      intro plain'
      rw [eq_of_tidiedName rfl (isPlain_name plain').2, plain'] at plain
      cases plain
    rw [isKeywordName, isKeywordName, plain, other, Bool.false_and, Bool.false_and]

theorem checkName_tidied {context name : String} (accepted : checkName context name = .ok ()) :
    checkName context (tidiedName name) = .ok () := by
  have allowed := List.all_eq_true.mp (checkName_ok accepted).2
  have kept : (tidiedName name).toList.all isAllowedChar = true := by
    rw [tidiedName, String.toList_ofList, List.all_eq_true]
    intro c member
    rcases Text.mem_squeezeFrom member with same | rfl
    · exact allowed c same
    · decide
  have blank : Text.isBlankText (tidiedName name) = Text.isBlankText name := by
    rw [Text.isBlankText, tidiedName, String.toList_ofList]
    exact Text.all_blank_squeezeFrom false name.toList
  rw [checkName] at accepted ⊢
  rw [blank, if_pos kept]
  split at accepted
  · cases accepted
  · rename_i notBlank
    rw [if_neg notBlank]

theorem isReadable_tidied {context name : String} (accepted : checkName context name = .ok ())
    (free : isKeywordName name = false) : isReadable (tidiedName name) = true :=
  isReadable_of_accepted (checkName_tidied accepted) ((isKeywordName_tidied name).trans free)

theorem wellFormed_tidied {p : Predicate} (wellFormed : WellFormed p) : WellFormed p.tidied :=
  ⟨checkName_tidied wellFormed.named, wellFormed.supported, wellFormed.present, wellFormed.bounded⟩

def NamesAreFree (table : String) (predicates : List Predicate) : Prop :=
  isKeywordName table = false ∧ ∀ p ∈ predicates, isKeywordName p.column = false

namespace Query

variable {table : String} {predicates : List Predicate}

theorem read_body (named : checkName "table" table = .ok ()) (accepted : ∀ p ∈ predicates, checkPredicate p = .ok ())
    (tail : List Lexeme) (follows : Follows .alternatives tail) (noWhere : keyword "WHERE" tail = none)
    (finish : String → Option Expr → List Lexeme → Option Query) :
    let read := (do
      let (name, rest) ← name (nameLexeme (tidiedName table) ::
        ((Clause.ofChecked (predicates.map Predicate.tidied)).conditionLexemes .value ++ tail))
      let (condition, rest) ← readCondition rest
      finish name condition rest)
    (NamesAreFree table predicates → ∃ condition, read = finish (tidiedName table) condition tail ∧
      (Clause.ofChecked (predicates.map Predicate.tidied)).IsStatedBy condition) ∧
      (¬ NamesAreFree table predicates → read = none) := by
  intro read
  have columns {P : String → Prop} (all : ∀ p ∈ predicates, P (tidiedName p.column)) :
      ∀ members ∈ Clause.ofChecked (predicates.map Predicate.tidied), ∀ c ∈ members, P c.column :=
    columns_ofChecked (List.forall_mem_map.mpr all)
  constructor
  · rintro ⟨tableFree, columnsFree⟩
    have readable := columns (P := fun name => isReadable name = true) fun p member =>
      isReadable_tidied (checkPredicate_ok (accepted p member)).named (columnsFree p member)
    obtain ⟨condition, here, stated⟩ := readCondition_clause follows noWhere members_ne_nil readable
    refine ⟨condition, ?_, stated⟩
    simp only [read, name_nameLexeme (isReadable_tidied named tableFree), here, Option.bind_eq_bind, Option.bind_some]
  · intro taken
    cases tableFree : isKeywordName table with
    | true =>
      rw [← isKeywordName_tidied] at tableFree
      simp only [read, name_keyword tableFree, Option.bind_eq_bind, Option.bind_none]
    | false =>
      have readable := columns (P := fun name => isKeywordName name = false → isReadable name = true)
        fun p member free => isReadable_tidied (checkPredicate_ok (accepted p member)).named
          ((isKeywordName_tidied p.column).symm.trans free)
      have reserved : ∃ members ∈ Clause.ofChecked (predicates.map Predicate.tidied), ∃ c ∈ members,
          isKeywordName c.column = true := by
        obtain ⟨p, member, word⟩ : ∃ p ∈ predicates, isKeywordName p.column = true := by
          simpa [NamesAreFree, tableFree] using taken
        refine ⟨_, group_mem_ofChecked (List.mem_map_of_mem member), Condition.ofPredicate p.tidied,
          List.mem_map_of_mem (List.mem_filter.mpr ⟨List.mem_map_of_mem member, decide_eq_true rfl⟩), ?_⟩
        rw [column_ofPredicate, Predicate.tidied, isKeywordName_tidied, word]
      have refused := readCondition_keyword tail members_ne_nil readable reserved
      simp only [read, name_nameLexeme (isReadable_tidied named tableFree), refused, Option.bind_eq_bind,
        Option.bind_some, Option.bind_none]

theorem columns_tidied (accepted : ∀ p ∈ predicates, checkPredicate p = .ok ()) :
    ∀ members ∈ Clause.ofChecked (predicates.map Predicate.tidied), ∀ c ∈ members, c.column ≠ "*" := by
  refine columns_ofChecked (P := (· ≠ "*")) (List.forall_mem_map.mpr fun p member star => ?_)
  obtain ⟨_, allowed⟩ := checkName_ok (checkPredicate_ok (accepted p member)).named
  rw [eq_of_tidiedName star star_visible] at allowed
  exact absurd allowed (by decide)

theorem table_tidied (named : checkName "table" table = .ok ()) : tidiedName table ≠ "*" := by
  intro star
  have allowed := (checkName_ok named).2
  rw [eq_of_tidiedName star star_visible] at allowed
  exact absurd allowed (by decide)

theorem read_select (named : checkName "table" table = .ok ()) (accepted : ∀ p ∈ predicates, checkPredicate p = .ok ())
    {limit : Value} {n : Int} (number : limit.asInt? = some n) (positive : 0 < n) :
    let clause := Clause.ofChecked predicates
    let text := Text.collapse s!"SELECT * FROM {quoteIdentifier table} {clause.text} LIMIT {limit.shown}"
    (NamesAreFree table predicates → ∃ condition,
      read text clause.params = some ⟨tidiedName table, condition, .rows (some n.toNat)⟩ ∧
        (Clause.ofChecked (predicates.map Predicate.tidied)).IsStatedBy condition) ∧
      (¬ NamesAreFree table predicates → read text clause.params = none) := by
  intro clause text
  obtain ⟨plain, spells, fixed, limited⟩ := limit_accepted number positive
  have tail := (spells.blank.keyword "LIMIT" rfl (by decide)).blank
  have scanned := (Lexeme.spells_body tail rfl (table_tidied named) (columns_tidied accepted)).selectFront.scan_eq
  have bound := Lexeme.bind_statement Lexeme.selectFront [.word "LIMIT".toList, limitLexeme limit]
    (by decide) (by rw [List.all_cons, List.all_cons, fixed]; rfl) (tidiedName table)
    (Clause.ofChecked (predicates.map Predicate.tidied))
  have whole : read text clause.params = ofLexemes (Lexeme.selectFront ++ nameLexeme (tidiedName table) ::
      ((Clause.ofChecked (predicates.map Predicate.tidied)).conditionLexemes .value ++
        [.word "LIMIT".toList, limitLexeme limit])) := by
    rw [ofChecked_tidied] at scanned bound ⊢
    rw [params_tidied] at bound
    simp only [text, collapse_select table clause plain, read, String.toList_ofList, scanned, bound,
      Option.bind_eq_bind, Option.bind_some, clause]
  rw [whole, ofLexemes_select]
  have body := read_body named accepted [.word "LIMIT".toList, limitLexeme limit] rfl rfl
    fun name condition rest => (readLimit rest).bind fun limit => some ⟨name, condition, .rows limit⟩
  rw [limited] at body
  exact body

end Query

end Sql

end TableTalk
