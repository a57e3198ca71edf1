import TableTalk.Proofs.Store.Lookups

namespace TableTalk

namespace Text

theorem length_squeezeFrom (behindBlank : Bool) (text : List Char) :
    (squeezeFrom behindBlank text).length ≤ text.length := by
  induction text generalizing behindBlank with
  | nil => exact Nat.le_refl 0
  | cons c rest ih =>
    have shorter := ih true
    have longer := ih false
    rw [squeezeFrom]
    split
    · split <;> simp only [List.length_cons] <;> omega
    · simp only [List.length_cons]
      omega

theorem squeezeFrom_front {behindBlank : Bool} {front back : List Char}
    (same : squeezeFrom behindBlank (front ++ back) = front ++ back) :
    squeezeFrom behindBlank front = front ∧ squeezeFrom (endsBlank behindBlank front) back = back := by
  rw [squeezeFrom_append] at same
  have lengths := congrArg List.length same
  rw [List.length_append, List.length_append] at lengths
  have first := length_squeezeFrom behindBlank front
  have second := length_squeezeFrom (endsBlank behindBlank front) back
  exact List.append_inj same (by omega)

theorem squeezed_of_squeezeFrom {behindBlank : Bool} {text : List Char} (same : squeezeFrom behindBlank text = text) :
    squeezed text = text := by
  cases behindBlank with
  | false => exact same
  | true =>
    cases text with
    | nil => rfl
    | cons c rest =>
      cases blank : isBlank c with
      | true =>
        -- behind a blank this one would be left out
        have shorter := length_squeezeFrom true rest
        have length := congrArg List.length same
        rw [squeezeFrom, blank, if_pos rfl, if_pos rfl, List.length_cons] at length
        omega
      | false =>
        rw [squeezeFrom, blank, if_neg Bool.false_ne_true] at same
        rw [squeezed, squeezeFrom, blank, if_neg Bool.false_ne_true, same]

theorem squeezed_infix {part text : List Char} (inside : part <:+: text) (same : squeezed text = text) :
    squeezed part = part := by
  obtain ⟨front, back, rfl⟩ := inside
  rw [squeezed, List.append_assoc] at same
  exact squeezed_of_squeezeFrom (squeezeFrom_front (squeezeFrom_front same).2).1

end Text

namespace Sql

open Text Outcome

theorem identifier_tidied_iff (name : String) :
    quoteIdentifier (tidiedName name) = quoteIdentifier name ↔ tidiedName name = name :=
  ⟨fun same => quoteIdentifier_injective same, congrArg quoteIdentifier⟩

/-- Whether tidying leaves the names of a statement as they are. -/
def NamesAreTidy (table : String) (clause : Clause) : Prop :=
  tidiedName table = table ∧ ∀ members ∈ clause, ∀ c ∈ members, tidiedName c.column = c.column

theorem identifier_in_condition (c : Condition) : (quoteIdentifier c.column).toList <:+: c.text.toList := by
  have leads (back : List Char) : (quoteIdentifier c.column).toList <:+: (quoteIdentifier c.column).toList ++ back :=
    (List.prefix_append _ back).isInfix
  have behind {back : List Char} (front : List Char) (inside : (quoteIdentifier c.column).toList <:+: back) :
      (quoteIdentifier c.column).toList <:+: front ++ back := inside.trans (List.suffix_append front back).isInfix
  rw [c.text_toList]
  cases c with
  | contains column pattern => exact behind "CAST".toList (behind ['('] (leads _))
  | sameText column text => exact behind "LOWER".toList (behind ['('] (behind "CAST".toList (behind ['('] (leads _))))
  | same column value => exact leads _
  | ordered column test value => exact leads _
  | within column low high => exact behind ['('] (leads _)

theorem infix_joined {item : String} {items : List String} (member : item ∈ items) (separator : String) :
    item.toList <:+: (separator.intercalate items).toList := by
  induction items with
  | nil => cases member
  | cons first rest ih =>
    cases rest with
    | nil =>
      simp only [List.mem_singleton.mp member, String.intercalate_singleton, List.infix_rfl]
    | cons next more =>
      rw [String.intercalate_cons_cons, String.toList_append, String.toList_append]
      rcases List.mem_cons.mp member with rfl | later
      · exact ⟨[], _, by rw [List.nil_append, List.append_assoc]⟩
      · exact (ih later).trans (List.suffix_append _ _).isInfix

theorem condition_in_group {c : Condition} {members : List Condition} (member : c ∈ members) :
    c.text.toList <:+: (Clause.groupText members).toList := by
  unfold Clause.groupText
  split
  · rename_i single
    have listed : c.text ∈ members.map Condition.text := List.mem_map_of_mem member
    rw [single] at listed
    simp only [List.mem_singleton.mp listed, List.infix_rfl]
  · rw [String.toList_append, String.toList_append]
    exact (infix_joined (List.mem_map_of_mem member) " OR ").trans ⟨"(".toList, ")".toList, rfl⟩

theorem identifier_in_clause {clause : Clause} {members : List Condition} (member : members ∈ clause) {c : Condition}
    (inside : c ∈ members) : (quoteIdentifier c.column).toList <:+: clause.text.toList := by
  rw [Clause.text_stated (List.ne_nil_of_mem member), String.toList_append]
  have joined := infix_joined (List.mem_map_of_mem (f := Clause.groupText) member) " AND "
  exact (identifier_in_condition c).trans ((condition_in_group inside).trans
    (joined.trans (List.suffix_append _ _).isInfix))

theorem Clause.tidied_eq {clause : Clause}
    (tidy : ∀ members ∈ clause, ∀ c ∈ members, tidiedName c.column = c.column) : clause.tidied = clause := by
  have each : ∀ members ∈ clause, members.map Condition.tidied = members := by
    intro members member
    refine (List.map_congr_left fun c inside => ?_).trans (List.map_id members)
    have same := tidy members member c inside
    cases c <;> simp only [Condition.column] at same <;> simp only [Condition.tidied, same, id]
  exact (List.map_congr_left each).trans (List.map_id clause)

def Clause.appended (clause : Clause) : String :=
  if clause.text = "" then "" else " " ++ clause.text

namespace Statement

def worded (front table : String) (clause : Clause) : String :=
  front ++ quoteIdentifier table ++ clause.appended

def rowsText (table : String) (clause : Clause) (limit : Value) : String :=
  worded "SELECT * FROM " table clause ++ " LIMIT " ++ limit.shown

def countText (table : String) (clause : Clause) : String :=
  worded "SELECT COUNT(*) AS n FROM " table clause

end Statement

theorem Clause.appended_toList (clause : Clause) : clause.appended.toList = clause.written := by
  by_cases stated : clause = []
  · subst stated
    rfl
  · have nonempty : clause.text ≠ "" := by
      intro none
      have front := congrArg String.toList (text_stated stated)
      rw [none, String.toList_append] at front
      cases front
    rw [written_stated stated, appended, if_neg nonempty, String.toList_append]
    rfl

theorem Statement.body_toList (table : String) (clause : Clause) :
    (quoteIdentifier table ++ clause.appended).toList = Statement.body table clause [] := by
  rw [String.toList_append, clause.appended_toList, Statement.body, List.append_nil]

theorem tidies_body (table : String) (clause : Clause) :
    Tidies (Statement.body table clause []) (Statement.body (tidiedName table) clause.tidied []) := by
  have name := tidies_identifier table
  by_cases stated : clause = []
  · subst stated
    simpa [Statement.body, Clause.written, Clause.tidied] using name
  · rw [Statement.body, Statement.body, Clause.written_stated stated, Clause.written_stated (tidied_ne_nil stated),
      List.append_nil, List.append_nil]
    exact name.spaced (tidies_clause stated)

theorem body_tidied_iff (table : String) (clause : Clause) :
    quoteIdentifier (tidiedName table) ++ clause.tidied.appended = quoteIdentifier table ++ clause.appended ↔
      NamesAreTidy table clause := by
  constructor
  · intro same
    have fixed := (tidies_body table clause).squeezed
    rw [← Statement.body_toList, ← Statement.body_toList, same] at fixed
    have each {name : String}
        (inside : (quoteIdentifier name).toList <:+: (quoteIdentifier table ++ clause.appended).toList) :
        tidiedName name = name := by
      rw [← identifier_tidied_iff, ← String.toList_inj, ← (tidies_identifier name).squeezed]
      exact squeezed_infix inside fixed
    rw [String.toList_append] at each
    refine ⟨each (List.prefix_append _ _).isInfix, fun members member c inside => each ?_⟩
    have stated : clause ≠ [] := List.ne_nil_of_mem member
    rw [clause.appended_toList, Clause.written_stated stated]
    exact (identifier_in_clause member inside).trans ⟨(quoteIdentifier table).toList ++ [' '], [], by simp⟩
  · rintro ⟨tableTidy, tidy⟩
    rw [tableTidy, Clause.tidied_eq tidy]

theorem Statement.worded_toList {front word : String} (spaced : front.toList = word.toList ++ [' ']) (table : String)
    (clause : Clause) : (worded front table clause).toList = word.toList ++ ' ' :: Statement.body table clause [] := by
  rw [worded, String.append_assoc, String.toList_append, Statement.body_toList, spaced, List.append_assoc,
    List.singleton_append]

theorem collapse_rowsText (table : String) (clause : Clause) {limit : Value}
    (plain : Tidies limit.shown.toList limit.shown.toList) :
    Text.collapse s!"SELECT * FROM {quoteIdentifier table} {clause.text} LIMIT {limit.shown}" =
      Statement.rowsText (tidiedName table) clause.tidied limit := by
  have spaced : "SELECT * FROM ".toList = "SELECT * FROM".toList ++ [' '] := by decide
  have limited : " LIMIT ".toList = ' ' :: ("LIMIT".toList ++ [' ']) := by decide
  rw [collapse_select table clause plain, ← String.toList_inj, String.toList_ofList, Statement.rowsText,
    String.toList_append, String.toList_append, Statement.worded_toList spaced, limited]
  simp only [Statement.body, List.append_assoc, List.cons_append, List.nil_append]

theorem collapse_countText (table : String) (clause : Clause) :
    Text.collapse s!"SELECT COUNT(*) AS n FROM {quoteIdentifier table} {clause.text}" =
      Statement.countText (tidiedName table) clause.tidied := by
  have spaced : "SELECT COUNT(*) AS n FROM ".toList = "SELECT COUNT(*) AS n FROM".toList ++ [' '] := by decide
  rw [collapse_count, Statement.countText, ← Statement.worded_toList spaced, String.ofList_toList]

theorem worded_tidied_iff (front table : String) (clause : Clause) :
    Statement.worded front (tidiedName table) clause.tidied = Statement.worded front table clause ↔
      NamesAreTidy table clause := by
  rw [← body_tidied_iff, Statement.worded, Statement.worded, String.append_assoc, String.append_assoc,
    String.append_right_inj]

section Accepted

variable {table : String} {candidates : List Candidate} {limit : Value} {s : Statement}

theorem select_accepted : Statement.select table candidates limit = .ok s ↔
    checkName "table" table = .ok () ∧ Statement.checkLimit limit = .ok () ∧
      ∃ clause, Clause.ofCandidates candidates = .ok clause ∧
        s = ⟨Statement.rowsText (tidiedName table) clause.tidied limit, clause.params⟩ := by
  rw [Statement.select, check_ok, check_ok, bind_ok]
  refine and_congr_right fun _ => and_congr_right fun limited => exists_congr fun clause => ?_
  obtain ⟨n, number, positive⟩ := Database.checkLimit_ok.mp limited
  rw [pure_ok, collapse_rowsText table clause (limit_accepted number positive).1, eq_comm (a := s)]

theorem count_accepted : Statement.count table candidates = .ok s ↔
    checkName "table" table = .ok () ∧ ∃ clause, Clause.ofCandidates candidates = .ok clause ∧
      s = ⟨Statement.countText (tidiedName table) clause.tidied, clause.params⟩ := by
  rw [Statement.count, check_ok, bind_ok]
  refine and_congr_right fun _ => exists_congr fun clause => ?_
  rw [pure_ok, collapse_countText table clause, eq_comm (a := s)]

end Accepted

/-- What is accepted becomes a statement with the parameters of the clause and the names that tidying leaves. It is
worded with the names that were asked for exactly if all of them are tidy. -/
theorem statements_worded (table : String) (candidates : List Candidate) (limit : Value) :
    (∀ s, Statement.select table candidates limit = .ok s ↔
      checkName "table" table = .ok () ∧ Statement.checkLimit limit = .ok () ∧
        ∃ clause, Clause.ofCandidates candidates = .ok clause ∧
          s = ⟨Statement.rowsText (tidiedName table) clause.tidied limit, clause.params⟩) ∧
      (∀ s, Statement.count table candidates = .ok s ↔
        checkName "table" table = .ok () ∧ ∃ clause, Clause.ofCandidates candidates = .ok clause ∧
          s = ⟨Statement.countText (tidiedName table) clause.tidied, clause.params⟩) ∧
        ∀ clause,
          (Statement.rowsText (tidiedName table) clause.tidied limit = Statement.rowsText table clause limit ↔
            NamesAreTidy table clause) ∧
          (Statement.countText (tidiedName table) clause.tidied = Statement.countText table clause ↔
            NamesAreTidy table clause) := by
  refine ⟨fun s => select_accepted, fun s => count_accepted, fun clause => ?_⟩
  refine ⟨?_, worded_tidied_iff _ table clause⟩
  rw [Statement.rowsText, Statement.rowsText, String.append_left_inj, String.append_left_inj]
  exact worded_tidied_iff _ table clause

/-- A table with two blanks in its name: the rows of another table are asked for, with a single blank in its name. -/
theorem rows_of_other_table :
    (Statement.select "a  b" [] (.int 1)).toOption.map Statement.text = some "SELECT * FROM \"a b\" LIMIT 1" ∧
      Statement.rowsText "a  b" [] (.int 1) = "SELECT * FROM \"a  b\" LIMIT 1" := by
  decide +kernel

end Sql

end TableTalk
