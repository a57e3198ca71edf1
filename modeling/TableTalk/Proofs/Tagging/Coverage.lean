import TableTalk.Proofs.Tagging.Serving
import TableTalk.Proofs.Tagging.Verbatim

namespace TableTalk

/-- A word of the vocabulary on its own: a pronoun, or a time, a state or a place in a single word. -/
def Lexicon.Knows (l : Lexicon) (word : String) : Prop :=
  word ∈ l.pronouns ∨ ∃ group canonical, ([word], canonical) ∈ l.synonymPhrases group

theorem Token.eq_of_overlaps {question : List Char} {a b : Token} (memberA : a ∈ scan question)
    (memberB : b ∈ scan question)
    (overlap : (Tagger.tokenSpan a).overlaps (Tagger.tokenSpan b) = true) : a = b := by
  obtain ⟨j, atJ⟩ := List.mem_iff_getElem?.mp memberA
  obtain ⟨k, atK⟩ := List.mem_iff_getElem?.mp memberB
  simp only [Tagger.tokenSpan, Span.overlaps, Bool.and_eq_true, decide_eq_true_eq, Int.ofNat_lt] at overlap
  rcases Nat.lt_trichotomy j k with before | rfl | after
  · have apart := stop_le_start (scan_ordered question) atJ atK before
    omega
  · exact Option.some.inj (atJ.symm.trans atK)
  · have apart := stop_le_start (scan_ordered question) atK atJ after
    omega

theorem Token.overlaps_self {question : List Char} {token : Token} (member : token ∈ scan question) :
    (Tagger.tokenSpan token).overlaps (Tagger.tokenSpan token) = true := by
  have length := (scan_bounds member).1
  simp only [Tagger.tokenSpan, Span.overlaps, Bool.and_eq_true, decide_eq_true_eq, Int.ofNat_lt]
  exact ⟨length, length⟩

namespace Claims

variable {α : Type} {place : α → Span} {build : α → Except TagFault (Option Entity)} {items : List α}

theorem sweep_apart {made : α → Entity} (built : ∀ item ∈ items, build item = .ok (some (made item)))
    (apart : items.Pairwise fun a b => (place b).overlaps (place a) = false) {claims : Claims}
    (free : ∀ item ∈ items, isFree claims (place item) = true) :
    sweep place build claims items = ((items.map place).reverse ++ claims, .ok (items.map made)) := by
  induction items generalizing claims with
  | nil => rfl
  | cons item rest ih =>
    obtain ⟨builtHere, builtLater⟩ := List.forall_mem_cons.mp built
    obtain ⟨behind, apartLater⟩ := List.pairwise_cons.mp apart
    obtain ⟨freeHere, freeLater⟩ := List.forall_mem_cons.mp free
    have freeStill : ∀ other ∈ rest, isFree (place item :: claims) (place other) = true := fun other member =>
      isFree_cons.mpr ⟨behind other member, freeLater other member⟩
    have later := ih builtLater apartLater freeStill
    rw [sweep, if_pos freeHere, builtHere]
    simp only [later, Except.map, List.map_cons, List.reverse_cons, List.append_assoc, List.singleton_append]

theorem isFree_cons_blocked {claims : Claims} {span : Span} (blocked : isFree claims span = false) (taken : Span) :
    isFree (taken :: claims) span = false := by
  rw [Bool.eq_false_iff] at *
  exact fun free => blocked (isFree_cons.mp free).2

theorem sweep_keeps {claims : Claims} {span : Span} (blocked : isFree claims span = false) :
    isFree (sweep place build claims items).1 span = false := by
  induction items generalizing claims with
  | nil => exact blocked
  | cons item rest ih =>
    rw [sweep_cons]
    cases attempt place build claims item with
    | error fault => exact blocked
    | ok made =>
      cases made with
      | none => exact ih blocked
      | some e => exact ih (isFree_cons_blocked blocked (place item))

/-- A candidate that is never passed over for its own sake is taken, or lies on something taken, unless the pass
breaks. -/
theorem sweep_covers {item : α} (member : item ∈ items) (wanted : build item ≠ .ok none)
    (nonempty : (place item).overlaps (place item) = true) {claims : Claims}
    (unbroken : (sweep place build claims items).2.isOk = true) :
    isFree (sweep place build claims items).1 (place item) = false := by
  induction items generalizing claims with
  | nil => cases member
  | cons first rest ih =>
    by_cases taken : isFree claims (place item) = false
    · exact sweep_keeps taken
    rw [sweep_cons] at unbroken ⊢
    cases tried : attempt place build claims first with
    | error fault =>
      rw [tried] at unbroken
      cases unbroken
    | ok made =>
      rw [tried] at unbroken
      rcases List.mem_cons.mp member with rfl | later
      · rw [attempt, if_pos (Bool.not_eq_false _ ▸ taken)] at tried
        cases made with
        | none => exact absurd tried wanted
        | some e =>
          refine sweep_keeps (Bool.eq_false_iff.mpr fun free => ?_)
          rw [(isFree_cons.mp free).1] at nonempty
          cases nonempty
      · cases made with
        | none => exact ih later unbroken
        | some e =>
          refine ih later ?_
          dsimp only at unbroken
          cases swept : (sweep place build (place first :: claims) rest).2 with
          | error fault =>
            rw [swept] at unbroken
            cases unbroken
          | ok others => rfl

end Claims

namespace Pass

def Unbroken : List Pass → Claims → Prop
  | [], _ => True
  | pass :: rest, claims => (pass claims).2.isOk = true ∧ Unbroken rest (pass claims).1

instance decidableUnbroken : (passes : List Pass) → (claims : Claims) → Decidable (Unbroken passes claims)
  | [], _ => inferInstanceAs (Decidable True)
  | pass :: rest, claims =>
    have := decidableUnbroken rest (pass claims).1
    inferInstanceAs (Decidable (_ ∧ _))

theorem Unbroken.losesNothing {passes : List Pass} {claims : Claims} (unbroken : Unbroken passes claims) :
    LosesNothing passes claims := by
  induction passes generalizing claims with
  | nil => trivial
  | cons pass rest ih =>
    obtain ⟨returned, later⟩ := unbroken
    refine ⟨?_, ih later⟩
    rintro ⟨fault, broke⟩
    rw [broke] at returned
    cases returned

/-- Unless it breaks, a pass leaves no part of a place free. -/
def Covers (pass : Pass) (span : Span) : Prop :=
  ∀ claims, (pass claims).2.isOk = true → Claims.isFree (pass claims).1 span = false

theorem run_covers {P : Entity → Prop} {passes : List Pass} (finds : ∀ pass ∈ passes, pass.Finds P) {claims : Claims}
    (unbroken : Unbroken passes claims) {pass : Pass} (member : pass ∈ passes) {span : Span}
    (covers : pass.Covers span) : Claims.isFree (run passes claims).1 span = false := by
  induction passes generalizing claims with
  | nil => cases member
  | cons first rest ih =>
    obtain ⟨returned, later⟩ := unbroken
    obtain ⟨here, there⟩ := List.forall_mem_cons.mp finds
    rw [run_cons]
    rcases List.mem_cons.mp member with rfl | behind
    · have blocked := covers claims returned
      obtain ⟨_, takes, _⟩ := run_takes there (pass claims).1
      rw [Bool.eq_false_iff] at blocked ⊢
      intro free
      rw [takes.spans] at free
      exact blocked (Claims.isFree_append.mp free).2
    · exact ih there later behind

end Pass

namespace Tagger

theorem tokenPass_covers {β : Type} {find : Token → Option β} {build : Token → β → Except TagFault (Option Entity)}
    {question : List Char} {token : Token} (member : token ∈ Token.scan question) {known : β}
    (found : find token = some known) (wanted : build token known ≠ .ok none) :
    (tokenPass (Token.scan question) find build).Covers (tokenSpan token) := by
  intro claims unbroken
  have candidate : (token, known) ∈
      (Token.scan question).filterMap fun token => (find token).map fun found => (token, found) :=
    List.mem_filterMap.mpr ⟨token, member, by rw [found]; rfl⟩
  exact Claims.sweep_covers candidate wanted (Token.overlaps_self member) unbroken

theorem keywordEntity_wanted (p : Part) (k : Keyword) (confidence : Float) (now : Moment) :
    (keywordEntity p k confidence now).map some ≠ .ok none := by
  cases keywordEntity p k confidence now <;> nofun

theorem exists_covers {l : Lexicon} (names : Phrasebook PhraseMeaning) (directory : Option Directory) (asker : Asker)
    {question : List Char} {token : Token} (member : token ∈ Token.scan question) (known : l.Knows token.text) :
    ∃ pass ∈ passes l.vocabulary names directory asker question, pass.Covers (tokenSpan token) := by
  rcases known with pronoun | ⟨group, canonical, declared⟩
  · have listed : l.vocabulary.pronouns.contains token.text = true := List.contains_iff_mem.mpr pronoun
    refine ⟨pronounPass l.vocabulary asker question (Token.scan question), by simp [passes], ?_⟩
    refine tokenPass_covers member (if_pos listed) ?_
    intro made
    cases made
  · have phrase : ([token.text], group.keyword canonical) ∈ l.keywordPhrases :=
      List.mem_flatMap.mpr ⟨group, by cases group <;> decide, List.mem_map.mpr ⟨_, declared, rfl⟩⟩
    have word : (token.text, group.keyword canonical) ∈ l.keywordWords :=
      List.mem_filterMap.mpr ⟨_, phrase, rfl⟩
    by_cases time : (group.keyword canonical).kind = .temporal
    · have inside : (token.text, group.keyword canonical) ∈ l.vocabulary.temporalWords :=
        List.mem_filter.mpr ⟨word, decide_eq_true time⟩
      obtain ⟨k, found⟩ := Assoc.exists_get?_of_mem inside
      refine ⟨temporalPass l.vocabulary asker question (Token.scan question), by simp [passes], ?_⟩
      exact tokenPass_covers member found (keywordEntity_wanted _ k _ _)
    · have inside : (token.text, group.keyword canonical) ∈ l.vocabulary.keywords :=
        List.mem_filter.mpr ⟨word, decide_eq_true time⟩
      obtain ⟨k, found⟩ := Assoc.exists_get?_of_mem inside
      refine ⟨keywordPass l.vocabulary asker question (Token.scan question), by simp [passes], ?_⟩
      exact tokenPass_covers member found (keywordEntity_wanted _ k _ _)

def tableEntities (l : Lexicon) (question : List Char) : List Entity :=
  (Token.scan question).filterMap fun token =>
    (Assoc.get? token.text l.tableWords).map fun word => tableEntity (tokenPart question token) word

theorem mem_tableEntities {l : Lexicon} {question : List Char} {e : Entity} :
    e ∈ tableEntities l question ↔ ∃ token ∈ Token.scan question, ∃ word,
      Assoc.get? token.text l.tableWords = some word ∧ e = tableEntity (tokenPart question token) word := by
  simp only [tableEntities, List.mem_filterMap, Option.map_eq_some_iff]
  constructor
  · rintro ⟨token, member, word, known, rfl⟩
    exact ⟨token, member, word, known, rfl⟩
  · rintro ⟨token, member, word, known, rfl⟩
    exact ⟨token, member, word, known, rfl⟩

theorem tablePass_eq (l : Lexicon) (question : List Char) :
    tablePass l.vocabulary question (Token.scan question) [] =
      (((tableEntities l question).map Entity.span).reverse, .ok (tableEntities l question)) := by
  let candidates := (Token.scan question).filterMap fun token =>
    (Assoc.get? token.text l.tableWords).map fun word => (token, word)
  have apart : candidates.Pairwise fun a b => (tokenSpan b.1).overlaps (tokenSpan a.1) = false := by
    refine List.Pairwise.filterMap _ ?_ (Token.scan_ordered question)
    intro a b ordered x first y second
    obtain ⟨_, _, rfl⟩ := Option.map_eq_some_iff.mp first
    obtain ⟨_, _, rfl⟩ := Option.map_eq_some_iff.mp second
    simp only [tokenSpan, Span.overlaps, Bool.and_eq_false_iff, decide_eq_false_iff_not, Int.ofNat_lt]
    omega
  have entities : candidates.map (fun entry => tableEntity (tokenPart question entry.1) entry.2) =
      tableEntities l question := by
    simp only [candidates, tableEntities, List.map_filterMap, Option.map_map]
    rfl
  have spans : candidates.map (fun entry => tokenSpan entry.1) = (tableEntities l question).map Entity.span := by
    rw [← entities, List.map_map]
    rfl
  have swept : tablePass l.vocabulary question (Token.scan question) [] = _ :=
    Claims.sweep_apart (fun _ _ => rfl) apart fun _ _ => rfl
  rw [swept, spans, entities, List.append_nil]

/-- What is tagged are the words for tables, and besides these no tables and nothing that overlaps one of them. -/
theorem Serves.tag_tables {t : Tagger} {l : Lexicon} (serves : t.Serves l) (directory : Option Directory) (asker : Asker)
    (question : String) :
    ∃ others, (t.tag directory asker question).1.Perm (tableEntities l question.toList ++ others) ∧
      ∀ e ∈ others, e.kind ≠ .table ∧ ∀ x ∈ tableEntities l question.toList, e.span.overlaps x.span = false := by
  obtain ⟨names, same⟩ := serves.passesOver directory
  rw [t.tag_eq, same]
  cases blank : Text.isBlankText question with
  | true =>
    have wordless : Token.scan question.toList = [] := by
      refine List.eq_nil_iff_forall_not_mem.mpr fun token member => ?_
      rw [not_blank_of_token member] at blank
      cases blank
    have none : tableEntities l question.toList = [] := by
      rw [tableEntities, wordless]
      rfl
    rw [none, if_pos rfl]
    exact ⟨[], Entity.inOrder_perm [], fun e member => absurd member List.not_mem_nil⟩
  | false =>
    let later := (passes l.vocabulary (namePhrases names) directory asker question.toList).tail
    have first : passes l.vocabulary (namePhrases names) directory asker question.toList =
        tablePass l.vocabulary question.toList (Token.scan question.toList) :: later := rfl
    -- the words for tables are taken first, so the other passes find nothing on them
    obtain ⟨_, takes, kinds, returned, _⟩ :=
      Pass.run_takes (laterPasses_kinds l names directory asker question.toList)
        ((tableEntities l question.toList).map Entity.span).reverse
    rw [if_neg Bool.false_ne_true, first, Pass.run_cons, tablePass_eq]
    refine ⟨_, Entity.inOrder_perm _, fun e member => ?_⟩
    have accepted := returned.mem member
    refine ⟨(kinds e accepted).1, fun x table => ?_⟩
    have free := takes.free e accepted
    rw [← List.append_nil (List.reverse _), Claims.isFree_append] at free
    exact free.1 x.span (List.mem_reverse.mpr (List.mem_map_of_mem table))

/-- In entities of a question, words for tables are just what they stand for. -/
structure TablesFirst (l : Lexicon) (question : List Char) (found : List Entity) : Prop where
  tagged : ∀ token ∈ Token.scan question,
    (∃ e ∈ found, e.kind = .table ∧ e.span = tokenSpan token) ↔ Assoc.has token.text l.tableWords = true
  alone : ∀ token ∈ Token.scan question, ∀ word, Assoc.get? token.text l.tableWords = some word →
    ∀ e, e ∈ found ∧ e.span.overlaps (tokenSpan token) = true ↔ e = tableEntity (tokenPart question token) word
  only : ∀ e ∈ found, e.kind = .table → ∃ token ∈ Token.scan question, ∃ word,
    Assoc.get? token.text l.tableWords = some word ∧ e = tableEntity (tokenPart question token) word

theorem tablesFirst_of_perm {l : Lexicon} {question : List Char} {found others : List Entity}
    (same : found.Perm (tableEntities l question ++ others))
    (apart : ∀ e ∈ others, e.kind ≠ .table ∧ ∀ x ∈ tableEntities l question, e.span.overlaps x.span = false) :
    TablesFirst l question found := by
  have only : ∀ e ∈ found, e.kind = .table → e ∈ tableEntities l question := by
    intro e member kind
    exact (List.mem_append.mp (same.mem_iff.mp member)).resolve_right fun other => (apart e other).1 kind
  have tagged {token : Token} {word : TableWord} (member : token ∈ Token.scan question)
      (found : Assoc.get? token.text l.tableWords = some word) :
      tableEntity (tokenPart question token) word ∈ tableEntities l question :=
    mem_tableEntities.mpr ⟨token, member, word, found, rfl⟩
  refine ⟨fun token member => ⟨?_, ?_⟩, fun token member word known e => ⟨?_, ?_⟩,
    fun e member kind => mem_tableEntities.mp (only e member kind)⟩
  · rintro ⟨e, inside, kind, here⟩
    obtain ⟨other, another, word, known, rfl⟩ := mem_tableEntities.mp (only e inside kind)
    have one : other = token := by
      refine Token.eq_of_overlaps another member ?_
      rw [show tokenSpan other = tokenSpan token from here]
      exact Token.overlaps_self member
    rw [← one]
    exact Option.isSome_iff_exists.mpr ⟨word, known⟩
  · intro has
    obtain ⟨word, known⟩ := Option.isSome_iff_exists.mp has
    exact ⟨_, same.mem_iff.mpr (List.mem_append_left _ (tagged member known)), rfl, rfl⟩
  · rintro ⟨inside, overlap⟩
    rcases List.mem_append.mp (same.mem_iff.mp inside) with table | other
    · obtain ⟨token', another, word', known', rfl⟩ := mem_tableEntities.mp table
      cases Token.eq_of_overlaps another member overlap
      rw [Option.some.inj (known'.symm.trans known)]
    · have free := (apart e other).2 _ (tagged member known)
      rw [show (tableEntity (tokenPart question token) word).span = tokenSpan token from rfl, overlap] at free
      cases free
  · rintro rfl
    exact ⟨same.mem_iff.mpr (List.mem_append_left _ (tagged member known)), Token.overlaps_self member⟩

/-- A tagger at any time tags words for tables as what they stand for and nothing else, and if no pass breaks, no word of
the vocabulary is dropped: some entity overlaps it. -/
theorem tag_covers (l : Lexicon) (asked : List Asked) (directory : Option Directory) (asker : Asker)
    (question : String) :
    let t := after l asked
    let found := (t.tag directory asker question).1
    TablesFirst l question.toList found ∧
      (Pass.Unbroken (t.passesOver directory asker question) [] →
        ∀ token ∈ Token.scan question.toList, l.Knows token.text →
          ∃ e ∈ found, (tokenSpan token).overlaps e.span = true) := by
  intro t found
  have serves := serves_after l asked
  obtain ⟨others, same, apart⟩ := serves.tag_tables directory asker question
  refine ⟨tablesFirst_of_perm same apart, fun unbroken token member known => ?_⟩
  have finds := t.passesOver_find directory asker question
  obtain ⟨accepted, takes, _, _, whole⟩ := Pass.run_takes finds []
  obtain ⟨names, shape⟩ := serves.passesOver directory
  obtain ⟨pass, among, covers⟩ := exists_covers (namePhrases names) directory asker member known
  have planned : pass ∈ t.passesOver directory asker question := by
    rw [shape, not_blank_of_token member]
    exact among
  -- what is not free in the end lies on something accepted, and all that was accepted is returned
  have blocked := Pass.run_covers finds unbroken planned covers
  rw [takes.spans, List.append_nil, ← whole.mpr unbroken.losesNothing] at blocked
  rw [Claims.isFree, Bool.not_eq_false', List.any_eq_true] at blocked
  obtain ⟨span, taken, overlap⟩ := blocked
  obtain ⟨e, inside, rfl⟩ := List.mem_map.mp (List.mem_reverse.mp taken)
  refine ⟨e, ?_, overlap⟩
  rw [show found = _ from t.tag_eq directory asker question, Entity.mem_inOrder]
  exact inside

theorem day_covered :
    let c := DomainCache.calls dayLexicon.domainSources .unloaded [(.ensureLoaded,
      { contents := .memory [("staff", DomainCache.recordFrame 1 "My Tasks")] })]
    let t := after dayLexicon [⟨none, dayAsker, "today"⟩]
    let found := (t.tag (some (.ofCache c)) dayAsker "my tasks today").1
    c.multiword.map Prod.fst = [["my", "tasks"]] ∧
      (∃ e ∈ found, e.kind = .table ∧ e.span = ⟨3, 8⟩) ∧
        Pass.Unbroken (t.passesOver (some (.ofCache c)) dayAsker "my tasks today") [] ∧
          ∃ e ∈ found, (⟨0, 2⟩ : Span).overlaps e.span = true := by
  intro c t found
  obtain ⟨tables, words⟩ := tag_covers dayLexicon [⟨none, dayAsker, "today"⟩] (some (.ofCache c)) dayAsker
    "my tasks today"
  have unbroken : Pass.Unbroken (t.passesOver (some (.ofCache c)) dayAsker "my tasks today") [] := by decide +kernel
  have pronoun : (⟨"my", 0, 2⟩ : Token) ∈ Token.scan "my tasks today".toList := by decide +kernel
  have table : (⟨"tasks", 3, 8⟩ : Token) ∈ Token.scan "my tasks today".toList := by decide +kernel
  have known : Assoc.has "tasks" dayLexicon.tableWords = true := by decide +kernel
  refine ⟨by decide +kernel, (tables.tagged _ table).mpr known, unbroken, ?_⟩
  exact words unbroken _ pronoun (Or.inl List.mem_cons_self)

end Tagger

end TableTalk
