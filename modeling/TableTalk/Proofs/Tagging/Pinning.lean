import TableTalk.Proofs.Domain.Loading
import TableTalk.Proofs.Tagging.Matching

namespace TableTalk

theorem Tagger.listed_firsts_eq_nil_iff {same : DomainEntry → DomainEntry → Bool} {primary : DomainEntry}
    {others : List DomainEntry} :
    listed (Assoc.firsts same (primary :: others)) = [] ↔ ∀ e ∈ others, same e primary = true := by
  obtain ⟨later, firsts⟩ := Assoc.firsts_cons same primary others
  rw [← Assoc.firsts_single_iff, firsts]
  cases later with
  | nil => simp [listed]
  | cons e rest => simp [listed, maxAlternatives]

/-- What a match should say about the rows that the matching names are from. A record number stands for the one row
of all names, and if they are from several rows there is none, but the first names from the other rows are listed. -/
structure Entity.PinsRow (x : Entity) (primary : DomainEntry) (others : List DomainEntry) : Prop where
  pinned : x.recordId ≠ .null → x.recordId = primary.recordId ∧ ∀ e ∈ others, e.sameRow primary = true
  ambiguous : (∃ e ∈ others, e.sameRow primary = false) →
    x.recordId = .null ∧ x.alternatives = Tagger.listed (DomainEntry.rows (primary :: others))

namespace Entity.Matches

variable {x : Entity} {question : List Char} {c : DomainCache} {primary : DomainEntry} {others : List DomainEntry}

theorem pinsRow_of_one (stands : x.Matches question c primary others)
    (one : ∀ e ∈ others, e.sameRow primary = true) : x.PinsRow primary others where
  pinned := by
    intro number
    have record := stands.recordId
    split at record
    · exact ⟨record, one⟩
    · exact absurd record number
  ambiguous := by
    rintro ⟨e, member, other⟩
    rw [one e member] at other
    cases other

theorem recordId_of_other (stands : x.Matches question c primary others)
    (several : ∃ e ∈ others, e.sameRecord primary = false) : x.recordId = .null := by
  obtain ⟨e, member, other⟩ := several
  rw [stands.recordId, if_neg]
  intro all
  rw [List.all_eq_true.mp all e member] at other
  cases other

theorem pinsRow_iff (stands : x.Matches question c primary others) :
    x.PinsRow primary others ↔
      (∀ e ∈ others, e.sameRow primary = true) ∨
        (∃ e ∈ others, e.sameRecord primary = false) ∧
          Tagger.listed (DomainEntry.records (primary :: others)) =
            Tagger.listed (DomainEntry.rows (primary :: others)) := by
  constructor
  · intro pins
    by_cases one : ∀ e ∈ others, e.sameRow primary = true
    · exact Or.inl one
    · obtain ⟨_, alternatives⟩ := pins.ambiguous (by simpa using one)
      rw [stands.alternatives] at alternatives
      refine Or.inr ⟨?_, alternatives⟩
      -- if all had one record, nothing would be listed, but the other rows are
      have listed : ¬ Tagger.listed (DomainEntry.rows (primary :: others)) = [] := fun none =>
        one (Tagger.listed_firsts_eq_nil_iff.mp none)
      rw [← alternatives] at listed
      have several : ¬ ∀ e ∈ others, e.sameRecord primary = true := fun single =>
        listed (Tagger.listed_firsts_eq_nil_iff.mpr single)
      simpa using several
  · rintro (one | ⟨several, same⟩)
    · exact stands.pinsRow_of_one one
    · have none := stands.recordId_of_other several
      refine ⟨fun number => absurd none number, fun _ => ⟨none, ?_⟩⟩
      rw [stands.alternatives, same]

theorem pinsRow_of_tables (stands : x.Matches question c primary others)
    (tables : DomainEntry.CategoriesAreTables (primary :: others)) : x.PinsRow primary others := by
  have same {e : DomainEntry} (member : e ∈ others) : e.sameRecord primary = e.sameRow primary :=
    tables.sameRecord (List.mem_cons_of_mem _ member) List.mem_cons_self
  have firsts : DomainEntry.records (primary :: others) = DomainEntry.rows (primary :: others) :=
    Assoc.firsts_congr fun a memberA b memberB => tables.sameRecord memberA memberB
  by_cases one : ∀ e ∈ others, e.sameRow primary = true
  · exact stands.pinsRow_of_one one
  · obtain ⟨e, member, other⟩ : ∃ e ∈ others, e.sameRow primary = false := by simpa using one
    exact stands.pinsRow_iff.mpr (Or.inr ⟨⟨e, member, by rw [same member, other]⟩, by rw [firsts]⟩)

end Entity.Matches

namespace Tagger

/-- An entity of a known name stands for the first of the names that its words match, and says what it should about
their rows exactly if it tells the rows apart: always if no two categories share a table or two tables a category. -/
theorem tag_pinsRow (l : Lexicon) (c : DomainCache) (asker : Asker) (question : String) :
    ∀ x ∈ ((ofLexicon l).tag (some (.ofCache c)) asker question).1, x.kind = .domainValue →
      ∃ primary others, x.Matches question.toList c primary others ∧
        (x.PinsRow primary others ↔
          (∀ e ∈ others, e.sameRow primary = true) ∨
            (∃ e ∈ others, e.sameRecord primary = false) ∧
              listed (DomainEntry.records (primary :: others)) = listed (DomainEntry.rows (primary :: others))) ∧
          (DomainEntry.CategoriesAreTables (primary :: others) → x.PinsRow primary others) := by
  intro x member kind
  obtain ⟨primary, others, stands⟩ := tag_namesMatch l c asker question x member kind
  exact ⟨primary, others, stands, stands.pinsRow_iff, stands.pinsRow_of_tables⟩

def hillSource (table : String) : DomainSource :=
  { category := "user", table := table, valueColumns := ["name"] }

def hillLexicon (tables : List String) : Lexicon :=
  { tables := tables.map fun table => { table := table }
    domainSources := tables.map hillSource }

def hillCache (tables : List String) : DomainCache :=
  DomainCache.calls (tables.map hillSource) .unloaded [(.ensureLoaded,
    { contents := .memory (tables.map fun table => (table, DomainCache.recordFrame 1 "Sam Hill")) })]

theorem single_hill_pinned :
    let t := Tagger.ofLexicon (hillLexicon ["staff"])
    let asker : Asker := { now := .midnight ⟨2024, 6, 12⟩ }
    ∃ x ∈ (t.tag (some (.ofCache (hillCache ["staff"]))) asker "sam hill").1, x.kind = .domainValue ∧
      x.recordId.sameKey (.int 1) = true ∧ ∃ primary others, x.PinsRow primary others := by
  intro t asker
  let c := hillCache ["staff"]
  have tagged : (t.tag (some (.ofCache c)) asker "sam hill").1.map (fun x =>
      (x.kind, (c.matching (wordsIn "sam hill".toList x.span)).length, x.recordId.sameKey (.int 1))) =
        [(.domainValue, 1, true)] := by decide +kernel
  obtain ⟨x, only, same⟩ := List.map_eq_singleton_iff.mp tagged
  simp only [Prod.mk.injEq] at same
  obtain ⟨kind, single, number⟩ := same
  have member : x ∈ (t.tag (some (.ofCache c)) asker "sam hill").1 := by rw [only]; exact List.mem_singleton_self x
  obtain ⟨primary, others, stands, pins, _⟩ := tag_pinsRow _ c asker "sam hill" x member kind
  rw [stands.names, List.length_cons] at single
  have none : others = [] := List.length_eq_zero_iff.mp (Nat.succ.inj single)
  subst none
  exact ⟨x, member, kind, number, primary, [], pins.mpr (Or.inl nofun)⟩

/-- A name that is in the first row of two tables of one category is taken for the row of the first table alone. -/
theorem second_hill_dropped :
    let t := Tagger.ofLexicon (hillLexicon ["staff", "contractors"])
    let asker : Asker := { now := .midnight ⟨2024, 6, 12⟩ }
    let c := hillCache ["staff", "contractors"]
    ∃ x, (t.tag (some (.ofCache c)) asker "sam hill").1 = [x] ∧ x.kind = .domainValue ∧
      (c.matching (wordsIn "sam hill".toList x.span)).map DomainEntry.table = ["staff", "contractors"] ∧
        x.recordId.sameKey (.int 1) = true ∧ x.alternatives = [] ∧
          ∀ primary others, c.matching (wordsIn "sam hill".toList x.span) = primary :: others →
            ¬ x.PinsRow primary others := by
  intro t asker c
  have tagged : (t.tag (some (.ofCache c)) asker "sam hill").1.map (fun x =>
      (x.kind, (c.matching (wordsIn "sam hill".toList x.span)).map DomainEntry.table,
        x.recordId.sameKey (.int 1), x.alternatives)) =
          [(.domainValue, ["staff", "contractors"], true, [])] := by decide +kernel
  obtain ⟨x, only, same⟩ := List.map_eq_singleton_iff.mp tagged
  simp only [Prod.mk.injEq] at same
  obtain ⟨kind, tables, number, alternatives⟩ := same
  refine ⟨x, only, kind, tables, number, alternatives, ?_⟩
  intro primary others names pins
  have numbered : x.recordId ≠ .null := by
    intro none
    rw [none] at number
    cases number
  have one := (pins.pinned numbered).2
  rw [names, List.map_cons, List.cons.injEq, List.map_eq_singleton_iff] at tables
  obtain ⟨staff, second, rfl, contractors⟩ := tables
  have same := one second (List.mem_singleton_self second)
  simp [DomainEntry.sameRow, staff, contractors] at same

end Tagger

end TableTalk
