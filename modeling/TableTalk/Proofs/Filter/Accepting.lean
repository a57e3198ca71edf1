import TableTalk.Proofs.Domain.Loading
import TableTalk.Proofs.Filter.Compiling
import TableTalk.Proofs.Sql.Satisfaction
import TableTalk.Proofs.Tagging.Origins

namespace TableTalk

open Sql Outcome

/-- No text that the values of entities come from is longer than a filter takes. -/
structure ShortTexts (l : Lexicon) (c : DomainCache) (asker : Asker) : Prop where
  displays : ∀ e ∈ c.entries none, e.display.length ≤ maxValueLength
  forms : ∀ e ∈ c.entries none, ∀ form ∈ e.forms.all, form.length ≤ maxValueLength
  records : ∀ e ∈ c.entries none, ∀ s, e.recordId = .text s → s.length ≤ maxValueLength
  meanings : ∀ group, ∀ meaning ∈ l.synonyms.inGroup group, meaning.1.length ≤ maxValueLength
  user : ∀ user, asker.userId = some user → user.length ≤ maxValueLength

namespace Filter

structure Condition.Fits (k : Condition) : Prop where
  supported : ∀ name, k.operator ≠ .unsupported name
  value : Usable k.value
  bound : k.operator = .range → Usable k.value2
  order : k.operator.isOrdering = true → isText k.value = false

theorem usable_other {value : Value} (present : value ≠ .null) (other : ∀ s, value ≠ .text s) : Usable value :=
  ⟨present, fun s same => absurd same (other s)⟩

theorem Condition.Fits.of_usable {k : Condition} (plain : k.operator = .equals ∨ k.operator = .contains)
    (usable : Usable k.value) : k.Fits := by
  rcases plain with operator | operator
  all_goals
    refine ⟨?_, usable, ?_, ?_⟩
    all_goals rw [operator]; nofun

theorem usable_text {s : String} (short : s.length ≤ maxValueLength) : Usable (.text s) :=
  ⟨nofun, fun _ same => by cases same; exact short⟩

section Values

variable {l : Lexicon} {c : DomainCache} {asker : Asker} {e : Entity}

theorem Condition.AsksFor.fits {k : Condition} (asks : k.AsksFor e) (short : ShortTexts l c asker)
    (origin : e.Origin l c asker) : k.Fits := by
  cases asks with
  | record kind present operator value =>
    obtain ⟨primary, known, _, _, _, record⟩ := origin.of_name kind
    refine .of_usable (Or.inl operator) ⟨value ▸ present, fun s text => ?_⟩
    have same := record.resolve_left present
    exact short.records primary known s (same ▸ value ▸ text)
  | name kind present operator value =>
    obtain ⟨primary, known, text, canonical, form, _⟩ := origin.of_name kind
    refine .of_usable (Or.inr operator) ?_
    rw [value, canonical]
    rcases form with rfl | form
    · exact usable_text (short.displays primary known)
    · exact usable_text (short.forms primary known text form)
  | asker kind present operator value =>
    refine .of_usable (Or.inl operator) ?_
    rw [value]
    rw [origin.of_asker kind] at present ⊢
    cases user : asker.userId with
    | none => simp [user, Canonical.ofText?] at present
    | some name => exact usable_text (short.user name user)
  | meaning kind operator value =>
    obtain ⟨group, _, meaning, declared, canonical⟩ := origin.of_synonym kind
    refine .of_usable operator ?_
    rw [value, canonical]
    exact usable_text (short.meanings group meaning declared)
  | since range kind canonical operator value =>
    obtain ⟨column, _, _, _⟩ := k
    cases operator
    cases value
    exact ⟨nofun, usable_other nofun nofun, nofun, fun _ => rfl⟩
  | during range stop kind canonical operator value value2 =>
    obtain ⟨column, _, _, _⟩ := k
    cases operator
    cases value
    cases value2
    exact ⟨nofun, usable_other nofun nofun, fun _ => usable_other nofun nofun, nofun⟩
  | number comparison kind canonical operator value =>
    obtain ⟨order, number⟩ := origin.of_number kind canonical
    obtain ⟨_, n⟩ := comparison
    obtain ⟨column, _, _, _⟩ := k
    cases operator
    cases value
    have plain : Usable n ∧ isText n = false := by
      rcases number with ⟨n, rfl⟩ | ⟨n, rfl⟩
      all_goals exact ⟨usable_other nofun nofun, rfl⟩
    rcases order with rfl | rfl
    all_goals exact ⟨nofun, plain.1, nofun, fun _ => plain.2⟩

end Values

def NamesColumns (t : Taxonomy) : Prop :=
  ∀ role, ∀ column ∈ t.fieldsFor role, Text.isBlankText column = false ∧ column.toList.all isAllowedChar = true

theorem checkName_of_names {context name : String} (visible : Text.isBlankText name = false)
    (allowed : name.toList.all isAllowedChar = true) : checkName context name = .ok () := by
  rw [checkName, visible, if_neg Bool.false_ne_true, if_pos allowed]

/-- Whatever a question leads to for a table becomes a clause. -/
theorem compile_accepted (l : Lexicon) (c : DomainCache) (asker : Asker) (question : String)
    (short : ShortTexts l c asker) (t : Taxonomy) (named : NamesColumns t) :
    let entities := ((Tagger.ofLexicon l).tag (some (.ofCache c)) asker question).1
    ∃ clause, Clause.ofPredicates (compile t.table t entities question l.homeTables) = .ok clause := by
  intro entities
  obtain ⟨source, stems⟩ := compile_stems t.table t l.homeTables entities question
  refine ⟨_, ofCandidates_iff.mpr ⟨rfl, fun p member => ?_⟩⟩
  obtain ⟨tagged, _, compiled⟩ := stems p member
  obtain ⟨k, among, same⟩ := mem_groupOf.mp compiled
  obtain ⟨⟨role, declared⟩, asks⟩ := conditions_cases among
  obtain ⟨visible, allowed⟩ := named role k.column declared
  have origin := (Tagger.current_ofLexicon l c).tag_origins question (source p.group) tagged
  obtain ⟨supported, value, bound, order⟩ := asks.fits short origin
  rw [same]
  exact checkPredicate_iff.mpr ⟨checkName_of_names visible allowed, supported, value, bound, order⟩

def deskTasks : Taxonomy :=
  { table := "tasks"
    userFields := ["owner id", "owner-name"]
    relationships := [("staff", ⟨"owner id", "id"⟩)]
    statusFields := ["state"]
    numericFields := ["hours"]
    dateFields := ["due.on"] }

def deskLexicon : Lexicon :=
  { tables := [deskTasks]
    synonyms := { status := [("open", ["open"])], temporal := [("today", ["today"])] }
    comparisons := [(.above, ["above"])]
    domainSources := [{ category := "user", table := "staff", valueColumns := ["name"] }]
    categories := [⟨"user", "staff", []⟩] }

def deskCache : DomainCache :=
  DomainCache.calls deskLexicon.domainSources .unloaded [(.ensureLoaded,
    { contents := .memory [("staff", DomainCache.recordFrame 1 "Sam Hill")] })]

theorem desk_accepted :
    let asker : Asker := { userId := some "u1", now := .midnight ⟨2024, 6, 12⟩ }
    let question := "tasks of Sam Hill today above 5 open"
    let entities := ((Tagger.ofLexicon deskLexicon).tag (some (.ofCache deskCache)) asker question).1
    ShortTexts deskLexicon deskCache asker ∧ NamesColumns deskTasks ∧
      ∃ clause, Clause.ofPredicates (compile "tasks" deskTasks entities question deskLexicon.homeTables) = .ok clause ∧
        clause.map List.length = [2, 1, 1, 1] := by
  intro asker question entities
  have short : ShortTexts deskLexicon deskCache asker :=
    { displays := by decide +kernel
      forms := by decide +kernel
      records := by
        have numbers : ∀ e ∈ deskCache.entries none, isText e.recordId = false := by decide +kernel
        intro e member s text
        have number := numbers e member
        rw [text] at number
        cases number
      meanings := by
        intro group
        cases group <;> decide
      user := by
        intro user same
        cases same
        decide }
  have named : NamesColumns deskTasks := by
    intro role
    cases role <;> decide +kernel
  obtain ⟨clause, accepted⟩ := compile_accepted deskLexicon deskCache asker question short deskTasks named
  refine ⟨short, named, clause, accepted, ?_⟩
  -- the passes find the entities in the order of the question
  let t := Tagger.ofLexicon deskLexicon
  have ordered : (t.tag (some (.ofCache deskCache)) asker question).1 =
      (Pass.run (t.passesOver (some (.ofCache deskCache)) asker question) []).2 := by
    rw [t.tag_eq]
    exact List.mergeSort_of_pairwise (by decide +kernel)
  rw [← (ofCandidates_iff.mp accepted).1, ordered]
  decide +kernel

end Filter

end TableTalk
