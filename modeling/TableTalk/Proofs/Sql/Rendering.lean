import TableTalk.Proofs.Sql.Placeholders
import TableTalk.Proofs.Sql.Wording

namespace TableTalk

namespace Text

section Filling

variable {mark : Char} {front back : List Char} {pieces fillings : List (List Char)}

def filled (mark : Char) (text : List Char) (fillings : List (List Char)) : List Char :=
  fillings.foldl (fun text filling => replaceFirst mark filling text) text

def interleaved : List (List Char) → List (List Char) → List Char
  | piece :: pieces, filling :: fillings => piece ++ (filling ++ interleaved pieces fillings)
  | pieces, _ => pieces.flatten

theorem replaceFirst_behind (free : mark ∉ front) (filling back : List Char) :
    replaceFirst mark filling (front ++ back) = front ++ replaceFirst mark filling back := by
  induction front with
  | nil => rfl
  | cons c rest ih =>
    rw [List.mem_cons, not_or] at free
    rw [List.cons_append, replaceFirst, if_neg (Ne.symm free.1), ih free.2, List.cons_append]

theorem replaceFirst_front (member : mark ∈ front) (filling back : List Char) :
    replaceFirst mark filling (front ++ back) = replaceFirst mark filling front ++ back := by
  induction front with
  | nil => cases member
  | cons c rest ih =>
    rw [List.cons_append, replaceFirst, replaceFirst]
    split
    · rw [List.append_assoc]
    · rename_i other
      rw [ih ((List.mem_cons.mp member).resolve_left (Ne.symm other)), List.cons_append]

theorem count_replaceFirst (mark : Char) (filling text : List Char) :
    text.count mark ≤ (replaceFirst mark filling text).count mark + 1 := by
  induction text with
  | nil => exact Nat.zero_le _
  | cons c rest ih =>
    rw [replaceFirst]
    split
    · rename_i same
      rw [same, List.count_cons_self, List.count_append]
      omega
    · rename_i other
      rw [List.count_cons_of_ne other, List.count_cons_of_ne other]
      exact ih

theorem filled_behind (free : mark ∉ front) (back : List Char) (fillings : List (List Char)) :
    filled mark (front ++ back) fillings = front ++ filled mark back fillings := by
  induction fillings generalizing back with
  | nil => rfl
  | cons filling rest ih =>
    rw [filled, List.foldl_cons, replaceFirst_behind free]
    exact ih _

theorem filled_front (enough : fillings.length ≤ front.count mark) (back : List Char) :
    ∃ front', filled mark (front ++ back) fillings = front' ++ back := by
  induction fillings generalizing front with
  | nil => exact ⟨front, rfl⟩
  | cons filling rest ih =>
    rw [List.length_cons] at enough
    have member : mark ∈ front := List.count_pos_iff.mp (by omega)
    have fewer := count_replaceFirst mark filling front
    obtain ⟨front', same⟩ := @ih (replaceFirst mark filling front) (by omega)
    refine ⟨front', ?_⟩
    rw [filled, List.foldl_cons, replaceFirst_front member]
    exact same

theorem filled_first {piece next : List Char} (free : mark ∉ piece) (filling : List Char) :
    filled mark ([mark].intercalate (piece :: next :: pieces)) (filling :: fillings) =
      filled mark (piece ++ (filling ++ [mark].intercalate (next :: pieces))) fillings := by
  rw [filled, List.foldl_cons, List.intercalate_cons_cons, List.append_assoc, replaceFirst_behind free,
    List.singleton_append, replaceFirst, if_pos rfl]
  rfl

theorem filled_interleaved (length : pieces.length = fillings.length + 1) (free : ∀ piece ∈ pieces, mark ∉ piece)
    (plain : ∀ filling ∈ fillings.dropLast, mark ∉ filling) :
    filled mark ([mark].intercalate pieces) fillings = interleaved pieces fillings := by
  induction fillings generalizing pieces with
  | nil =>
    obtain ⟨piece, rfl⟩ := List.length_eq_one_iff.mp length
    simp [filled, interleaved]
  | cons filling rest ih =>
    match pieces, length with
    | piece :: next :: more, length =>
      obtain ⟨first, later⟩ := List.forall_mem_cons.mp free
      have shorter : (next :: more).length = rest.length + 1 := by simpa using length
      rw [filled_first first, interleaved, filled_behind first]
      cases rest with
      | nil =>
        obtain ⟨piece', same⟩ := List.length_eq_one_iff.mp shorter
        rw [same]
        simp [filled, interleaved]
      | cons other rest =>
        obtain ⟨here, behind⟩ := List.forall_mem_cons.mp plain
        rw [filled_behind here, ih shorter later behind]

def EndsWithout (mark : Char) (text : List Char) : Prop :=
  ∃ front c, text = front ++ [c] ∧ c ≠ mark

theorem last_piece (mark : Char) (filling : List Char) (length : pieces.length = fillings.length + 2) :
    ∃ front front' last, [mark].intercalate pieces = front ++ mark :: last ∧ fillings.length ≤ front.count mark ∧
      interleaved pieces (filling :: fillings) =
        front' ++ ((filling :: fillings).getLast (List.cons_ne_nil _ _) ++ last) := by
  induction fillings generalizing pieces filling with
  | nil =>
    match pieces, length with
    | [piece, last], _ => exact ⟨piece, piece, last, by simp, Nat.zero_le _, by simp [interleaved]⟩
  | cons next rest ih =>
    match pieces, length with
    | piece :: following :: more, length =>
      obtain ⟨front, front', last, text, enough, between⟩ :=
        @ih (following :: more) next (by simpa using length)
      refine ⟨piece ++ mark :: front, piece ++ (filling ++ front'), last, ?_, ?_, ?_⟩
      · rw [List.intercalate_cons_cons, text]
        simp
      · rw [List.length_cons, List.count_append, List.count_cons_self]
        omega
      · rw [interleaved, between, List.getLast_cons (List.cons_ne_nil _ _)]
        simp

/-- If the fillings stand between the pieces, no filling but the last one has a mark: such a mark would be taken for the
next one, and the last of the marks would stay. -/
theorem plain_of_filled (length : pieces.length = fillings.length + 1) (free : ∀ piece ∈ pieces, mark ∉ piece)
    (ends : ∀ filling ∈ fillings, EndsWithout mark filling)
    (same : filled mark ([mark].intercalate pieces) fillings = interleaved pieces fillings) :
    ∀ filling ∈ fillings.dropLast, mark ∉ filling := by
  induction fillings generalizing pieces with
  | nil => nofun
  | cons filling rest ih =>
    match pieces, length with
    | piece :: next :: more, length =>
      obtain ⟨first, later⟩ := List.forall_mem_cons.mp free
      have shorter : (next :: more).length = rest.length + 1 := by simpa using length
      rw [filled_first first, interleaved, filled_behind first, List.append_cancel_left_eq] at same
      cases rest with
      | nil => nofun
      | cons other rest =>
        by_cases here : mark ∈ filling
        · obtain ⟨front, front', last, text, enough, between⟩ := last_piece mark other shorter
          have marks : (other :: rest).length ≤ (filling ++ front).count mark := by
            have positive := List.count_pos_iff.mpr here
            rw [List.count_append, List.length_cons]
            omega
          obtain ⟨kept, left⟩ := filled_front marks (mark :: last)
          rw [text, between, ← List.append_assoc, left] at same
          have final := List.getLast_mem (List.cons_ne_nil other rest)
          obtain ⟨init, c, shown, apart⟩ := ends _ (List.mem_cons_of_mem _ final)
          rw [shown] at same
          have chars : kept ++ [mark] ++ last = filling ++ front' ++ init ++ [c] ++ last := by simpa using same
          have behind := List.append_inj_right' (List.append_cancel_right chars) rfl
          exact absurd (List.singleton_inj.mp behind).symm apart
        · rw [filled_behind here, List.append_cancel_left_eq] at same
          exact List.forall_mem_cons.mpr ⟨here, ih shorter later (List.forall_mem_cons.mp ends).2 same⟩

theorem free_splitOn (mark : Char) (text : List Char) : ∀ piece ∈ text.splitOn mark, mark ∉ piece := by
  induction text with
  | nil => simp
  | cons c rest ih =>
    rw [List.splitOn_cons_eq_if_modifyHead]
    split
    · exact List.forall_mem_cons.mpr ⟨List.not_mem_nil, ih⟩
    · rename_i other
      obtain ⟨first, more, pieces⟩ := List.exists_cons_of_ne_nil (List.splitOn_ne_nil mark rest)
      rw [pieces] at ih ⊢
      obtain ⟨free, later⟩ := List.forall_mem_cons.mp ih
      have apart : mark ≠ c := fun same => other (beq_iff_eq.mpr same.symm)
      exact List.forall_mem_cons.mpr ⟨by simp [apart, free], later⟩

theorem length_splitOn (mark : Char) (text : List Char) : (text.splitOn mark).length = text.count mark + 1 := by
  have whole : [mark].intercalate (text.splitOn mark) = text := List.intercalate_splitOn mark
  have joined := congrArg (List.count mark) whole
  have nonempty := List.splitOn_ne_nil mark text
  have free := free_splitOn mark text
  rw [← joined]
  generalize text.splitOn mark = pieces at nonempty free
  induction pieces with
  | nil => exact absurd rfl nonempty
  | cons piece rest ih =>
    obtain ⟨first, later⟩ := List.forall_mem_cons.mp free
    cases rest with
    | nil => simpa using List.count_eq_zero.mpr first
    | cons next more =>
      have counted := ih (List.cons_ne_nil _ _) later
      rw [List.intercalate_cons_cons, List.count_append, List.count_append, List.count_eq_zero.mpr first,
        List.count_singleton_self, List.length_cons, counted]
      omega

end Filling

end Text

namespace Sql

open Text Outcome

namespace Statement

theorem ends_behind {back : String} (ends : EndsWithout '?' back.toList) (front : String) :
    EndsWithout '?' (front ++ back).toList := by
  obtain ⟨inner, c, shown, apart⟩ := ends
  exact ⟨front.toList ++ inner, c, by rw [String.toList_append, shown, List.append_assoc], apart⟩

theorem ends_char {c : Char} (apart : c ≠ '?') (front : List Char) : EndsWithout '?' (front ++ [c]) :=
  ⟨front, c, rfl, apart⟩

theorem ends_digits (n : Nat) (front : List Char) : EndsWithout '?' (front ++ Nat.toDigits 10 n) := by
  have nonempty : Nat.toDigits 10 n ≠ [] := Nat.toDigits_ne_nil
  refine ⟨front ++ (Nat.toDigits 10 n).dropLast, (Nat.toDigits 10 n).getLast nonempty, ?_, ?_⟩
  · rw [List.append_assoc, List.dropLast_concat_getLast]
  · intro mark
    have digit := isDigit_toDigits _ (List.getLast_mem nonempty)
    rw [mark] at digit
    exact absurd digit (by decide)

theorem ends_padded (width n : Nat) : EndsWithout '?' (Decimal.padded width n).toList := by
  rw [Decimal.padded, String.toList_ofList]
  exact ends_digits n _

theorem ends_int (n : Int) : EndsWithout '?' (toString n).toList := by
  cases n with
  | ofNat n =>
    have shown : (toString (Int.ofNat n)).toList = Nat.toDigits 10 n := Nat.toList_repr
    rw [shown]
    exact ends_digits n []
  | negSucc n =>
    have shown : toString (Int.negSucc n) = "-" ++ Nat.repr (n + 1) := rfl
    rw [shown]
    refine ends_behind ?_ _
    rw [Nat.toList_repr]
    exact ends_digits _ []

theorem ends_write (d : Decimal.Digits) : EndsWithout '?' (Decimal.answerLayout.write d).toList := by
  unfold Decimal.Layout.write
  dsimp only
  split
  · unfold Decimal.positional
    split
    · exact ends_behind ⟨['.'], '0', rfl, by decide⟩ _
    · exact ends_behind (ends_padded _ _) _
  · exact ends_behind (ends_padded _ _) _

theorem ends_float (x : Float) : EndsWithout '?' (Decimal.answerLayout.render x).toList := by
  unfold Decimal.Layout.render
  split
  · exact ⟨['n', 'a'], 'n', rfl, by decide⟩
  · exact ends_behind ⟨['i', 'n'], 'f', rfl, by decide⟩ _
  · refine ends_behind ?_ _
    split
    · exact ends_behind ⟨['.'], '0', rfl, by decide⟩ _
    · exact ends_write _

/-- What stands for a value never ends in a question mark, whatever the value contains. -/
theorem ends_literal (value : Value) : EndsWithout '?' (literal value).toList := by
  have closed {mark : String} (c : Char) (single : mark.toList = [c]) (apart : c ≠ '?') (front : String) :
      EndsWithout '?' (front ++ mark).toList := by
    rw [String.toList_append, single]
    exact ends_char apart _
  cases value with
  | null => exact ⟨['N', 'o', 'n'], 'e', rfl, by decide⟩
  | bool b =>
    cases b with
    | false => exact ⟨['F', 'a', 'l', 's'], 'e', rfl, by decide⟩
    | true => exact ⟨['T', 'r', 'u'], 'e', rfl, by decide⟩
  | int n => exact ends_int n
  | float x => exact ends_float x
  | text s =>
    rw [literal, Lexeme.enclosed_toList]
    exact ends_char (by decide) _
  | date d => exact closed singleQuote rfl (by decide) _
  | moment m => exact closed singleQuote rfl (by decide) _
  | list items => exact closed ']' rfl (by decide) _
  | mapping entries => exact closed '\x7d' rfl (by decide) _
  | named name fields => exact closed ')' rfl (by decide) _

/-- Whether a statement is one of those that are made for what is asked for. -/
def IsCompiled (s : Statement) : Prop :=
  (∃ table candidates limit, select table candidates limit = .ok s) ∨
    ∃ table candidates, count table candidates = .ok s

def pieces (s : Statement) : List (List Char) :=
  s.text.toList.splitOn '?'

def literals (s : Statement) : List (List Char) :=
  s.params.map fun value => (literal value).toList

end Statement

theorem predicates_of_checked {candidates : List Candidate} {checked : List Predicate}
    (accepted : candidates.mapM Candidate.checked = .ok checked) : candidates = checked.map .predicate := by
  induction candidates generalizing checked with
  | nil =>
    rw [List.mapM_nil, pure_ok] at accepted
    rw [← accepted, List.map_nil]
  | cons c rest ih =>
    rw [List.mapM_cons, bind_ok] at accepted
    obtain ⟨p, first, accepted⟩ := accepted
    obtain ⟨others, later, same⟩ := bind_ok.mp accepted
    rw [← pure_ok.mp same, List.map_cons, ← ih later]
    cases c with
    | predicate q =>
      obtain ⟨_, _, here⟩ := bind_ok.mp first
      rw [pure_ok.mp here]
    | other value => cases first

theorem columns_ofCandidates {candidates : List Candidate} {clause : Clause}
    (accepted : Clause.ofCandidates candidates = .ok clause) :
    ∀ members ∈ clause, ∀ c ∈ members, checkName "column" c.column = .ok () := by
  obtain ⟨checked, each, _⟩ := bind_ok.mp accepted
  rw [predicates_of_checked each] at accepted
  obtain ⟨rfl, all⟩ := ofCandidates_iff.mp accepted
  exact columns_ofChecked (P := fun name => checkName "column" name = .ok ()) fun p member =>
    (checkPredicate_ok (all p member)).named

theorem placeholders_limit {limit : Value} {n : Int} (number : limit.asInt? = some n) (positive : 0 < n) :
    placeholders limit.shown = 0 := by
  cases limit with
  | bool b => cases b <;> decide
  | int m =>
    cases number
    obtain ⟨m, rfl⟩ := Int.eq_ofNat_of_zero_le (Int.le_of_lt positive)
    have shown : (Value.int m).shown.toList = Nat.toDigits 10 m := Nat.toList_repr
    rw [placeholders, shown, List.count_eq_zero]
    intro mark
    exact absurd (isDigit_toDigits _ mark) (by decide)
  | _ => cases number

theorem placeholders_appended {clause : Clause} (free : ∀ members ∈ clause, ∀ c ∈ members, '?' ∉ c.column.toList) :
    placeholders clause.appended = clause.params.length := by
  rw [← placeholders_clause clause free, Clause.appended]
  split
  · rename_i none
    rw [none]
  · rw [placeholders_append]
    exact Nat.zero_add _

theorem column_tidied (c : Condition) : c.tidied.column = tidiedName c.column := by
  cases c <;> rfl

theorem placeholders_worded {front table : String} {candidates : List Candidate} {clause : Clause}
    (plain : placeholders front = 0) (named : checkName "table" table = .ok ())
    (accepted : Clause.ofCandidates candidates = .ok clause) :
    placeholders (Statement.worded front (tidiedName table) clause.tidied) = clause.params.length := by
  have free : ∀ members ∈ clause.tidied, ∀ c ∈ members, '?' ∉ c.column.toList := by
    refine List.forall_mem_map.mpr fun members member => List.forall_mem_map.mpr fun c inside => ?_
    rw [column_tidied]
    exact free_of_accepted (checkName_tidied (columns_ofCandidates accepted members member c inside))
  rw [Statement.worded, placeholders_append, placeholders_append, plain,
    placeholders_name (free_of_accepted (checkName_tidied named)), placeholders_appended free, params_tidied]
  omega

theorem Statement.IsCompiled.placeholders {s : Statement} (compiled : s.IsCompiled) :
    placeholders s.text = s.params.length := by
  rcases compiled with ⟨table, candidates, limit, made⟩ | ⟨table, candidates, made⟩
  · obtain ⟨named, limited, clause, accepted, rfl⟩ := select_accepted.mp made
    obtain ⟨n, number, positive⟩ := Database.checkLimit_ok.mp limited
    rw [Statement.rowsText, placeholders_append, placeholders_append, placeholders_worded (by decide) named accepted,
      placeholders_limit number positive]
    rfl
  · obtain ⟨named, clause, accepted, rfl⟩ := count_accepted.mp made
    exact placeholders_worded (by decide) named accepted

/-- A statement is rendered as its pieces with the literals of its parameters between them, one for each placeholder and
in order, exactly if no literal but the last one shows a question mark. -/
theorem render_pieces {s : Statement} (compiled : s.IsCompiled) :
    s.pieces.length = s.params.length + 1 ∧
      (s.render = String.ofList (interleaved s.pieces s.literals) ↔
        ∀ value ∈ s.params.dropLast, '?' ∉ (Statement.literal value).toList) := by
  have length : s.pieces.length = s.params.length + 1 := by
    rw [Statement.pieces, length_splitOn, ← compiled.placeholders, Sql.placeholders]
  refine ⟨length, ?_⟩
  have filledText : s.render = String.ofList (filled '?' (['?'].intercalate s.pieces) s.literals) := by
    rw [Statement.pieces, List.intercalate_splitOn, filled, Statement.literals, List.foldl_map, Statement.render]
  have enough : s.pieces.length = s.literals.length + 1 := by rw [length, Statement.literals, List.length_map]
  have free := free_splitOn '?' s.text.toList
  have ends : ∀ filling ∈ s.literals, EndsWithout '?' filling :=
    List.forall_mem_map.mpr fun value _ => Statement.ends_literal value
  have plain : (∀ filling ∈ s.literals.dropLast, '?' ∉ filling) ↔
      ∀ value ∈ s.params.dropLast, '?' ∉ (Statement.literal value).toList := by
    rw [Statement.literals, ← List.map_dropLast, List.forall_mem_map]
  rw [filledText, String.ofList_inj, ← plain]
  exact ⟨plain_of_filled enough free ends, filled_interleaved enough free⟩

theorem render_pieces_range :
    (Statement.mk "SELECT * FROM t WHERE (x >= ? AND x < ?) LIMIT 5" [.int 1, .int 2]).IsCompiled ∧
      (Statement.mk "SELECT * FROM t WHERE (x >= ? AND x < ?) LIMIT 5" [.int 1, .int 2]).render =
        "SELECT * FROM t WHERE (x >= 1 AND x < 2) LIMIT 5" := by
  have compiled : (Statement.mk "SELECT * FROM t WHERE (x >= ? AND x < ?) LIMIT 5" [.int 1, .int 2]).IsCompiled :=
    Or.inl ⟨"t", [.predicate { table := "t", column := "x", operator := .range, value := .int 1, value2 := .int 2 }],
      .int 5, by rfl⟩
  have plain : ∀ value ∈ [Value.int 1], '?' ∉ (Statement.literal value).toList :=
    List.forall_mem_singleton.mpr (by decide)
  exact ⟨compiled, ((render_pieces compiled).2.mpr plain).trans (by decide +kernel)⟩

/-- Of two texts the first one shows a question mark: the second one is put in its place, and a placeholder is left. -/
theorem question_mark_replaced :
    let asked := (Statement.count "t" [
      .predicate { table := "t", column := "x", operator := .equals, value := .text "a?" },
      .predicate { table := "t", column := "y", operator := .equals, value := .text "b", group := 1 }]).toOption
    asked.map Statement.render = some ("SELECT COUNT(*) AS n FROM t WHERE " ++
      "LOWER(CAST(x AS VARCHAR)) = LOWER('a'b'') AND LOWER(CAST(y AS VARCHAR)) = LOWER(?)") ∧
    (asked.map fun s => String.ofList (interleaved s.pieces s.literals)) = some ("SELECT COUNT(*) AS n FROM t WHERE " ++
      "LOWER(CAST(x AS VARCHAR)) = LOWER('a?') AND LOWER(CAST(y AS VARCHAR)) = LOWER('b')") := by
  decide +kernel

end Sql

end TableTalk
