import TableTalk.Proofs.Filter.Rules

namespace TableTalk.Filter

variable {table : String} {t : Taxonomy} {words : List String} {homes : List (String × String)}

def homeOf (homes : List (String × String)) (e : Entity) : Option String :=
  e.category.bind fun category => Assoc.get? category homes

theorem mem_groupOf {group : Int} {e : Entity} {p : Predicate} :
    p ∈ groupOf table t words homes group e ↔ ∃ k ∈ conditions t words (homeOf homes e) e,
      p = ⟨table, k.column, k.operator, k.value, k.value2, group, e.text⟩ := by
  rw [groupOf, List.mem_map]
  exact exists_congr fun k => and_congr_right fun _ => eq_comm

theorem compileFrom_cons (group : Int) (e : Entity) (rest : List Entity) :
    compileFrom table t words homes group (e :: rest) =
      if e.isFilter = true ∧ groupOf table t words homes group e ≠ [] then
        groupOf table t words homes group e ++ compileFrom table t words homes (group + 1) rest
      else compileFrom table t words homes group rest := by
  rw [compileFrom]
  cases e.isFilter with
  | false => rfl
  | true =>
    simp only [if_true, true_and]
    cases groupOf table t words homes group e with
    | nil => rfl
    | cons p members => rfl

/-- A predicate is one that the entity behind its group puts on the table. -/
structure StemsFrom (table : String) (t : Taxonomy) (words : List String) (homes : List (String × String))
    (entities : List Entity) (source : Int → Entity) (p : Predicate) : Prop where
  tagged : source p.group ∈ entities
  filters : (source p.group).isFilter = true
  compiled : p ∈ groupOf table t words homes p.group (source p.group)

/-- The groups are numbered upwards, and one entity is behind each. -/
theorem compileFrom_stems (group : Int) (entities : List Entity) :
    ∃ source : Int → Entity, ∀ p ∈ compileFrom table t words homes group entities,
      group ≤ p.group ∧ StemsFrom table t words homes entities source p := by
  induction entities generalizing group with
  | nil => exact ⟨fun _ => default, nofun⟩
  | cons e rest ih =>
    rw [compileFrom_cons]
    split
    · rename_i filters
      obtain ⟨source, later⟩ := ih (group + 1)
      refine ⟨fun g => if g = group then e else source g, List.forall_mem_append.mpr ⟨?_, ?_⟩⟩
      · intro p member
        have here : p.group = group := by
          obtain ⟨_, _, rfl⟩ := mem_groupOf.mp member
          rfl
        refine ⟨Int.le_of_eq here.symm, ?_, ?_, ?_⟩
        all_goals simp only [here, if_true]
        · exact List.mem_cons_self
        · exact filters.1
        · exact member
      · intro p member
        obtain ⟨behind, tagged, filters, compiled⟩ := later p member
        have other : ¬ p.group = group := by omega
        refine ⟨by omega, ?_, ?_, ?_⟩
        all_goals simp only [other, if_false]
        · exact List.mem_cons_of_mem _ tagged
        · exact filters
        · exact compiled
    · obtain ⟨source, later⟩ := ih group
      refine ⟨source, fun p member => ?_⟩
      obtain ⟨behind, tagged, filters, compiled⟩ := later p member
      exact ⟨behind, List.mem_cons_of_mem _ tagged, filters, compiled⟩

theorem compile_stems (table : String) (t : Taxonomy) (homes : List (String × String)) (entities : List Entity)
    (question : String) :
    ∃ source : Int → Entity, ∀ p ∈ compile table t entities question homes,
      StemsFrom table t (questionWords question) homes entities source p := by
  obtain ⟨source, stems⟩ := compileFrom_stems 0 entities
  exact ⟨source, fun p member => (stems p member).2⟩

inductive Condition.AsksFor (e : Entity) (k : Condition) : Prop
  | record (kind : e.kind = .domainValue) (present : e.recordId ≠ .null) (operator : k.operator = .equals)
      (value : k.value = e.recordId)
  | name (kind : e.kind = .domainValue) (present : e.canonical.isEmpty = false) (operator : k.operator = .contains)
      (value : k.value = e.canonical.toValue)
  | asker (kind : e.kind = .pronoun) (present : e.canonical ≠ .nothing) (operator : k.operator = .equals)
      (value : k.value = e.canonical.toValue)
  | since (range : TimeRange) (kind : e.kind = .temporal) (canonical : e.canonical = .range range)
      (operator : k.operator = .gte) (value : k.value = .moment range.start)
  | during (range : TimeRange) (stop : Moment) (kind : e.kind = .temporal) (canonical : e.canonical = .range range)
      (operator : k.operator = .range) (value : k.value = .moment range.start) (value2 : k.value2 = .moment stop)
  | number (comparison : Comparison) (kind : e.kind = .numericFilter) (canonical : e.canonical = .comparison comparison)
      (operator : k.operator = comparison.operator) (value : k.value = comparison.value)
  | meaning (kind : e.kind = .statusFilter ∨ e.kind = .locationFilter)
      (operator : k.operator = .equals ∨ k.operator = .contains) (value : k.value = e.canonical.toValue)

theorem conditions_cases {e : Entity} {home : Option String} {k : Condition}
    (member : k ∈ conditions t words home e) : (∃ role, k.column ∈ t.fieldsFor role) ∧ k.AsksFor e := by
  cases mem_conditions_iff.mp member with
  | record kind _ field _ present => exact ⟨⟨_, field⟩, .record kind present rfl rfl⟩
  | name kind _ field _ present => exact ⟨⟨_, field⟩, .name kind present rfl rfl⟩
  | asker kind first present => exact ⟨⟨.user, List.mem_of_mem_head? first⟩, .asker kind present rfl rfl⟩
  | since kind canonical first _ => exact ⟨⟨.date, List.mem_of_mem_head? first⟩, .since _ kind canonical rfl rfl⟩
  | during kind canonical first _ =>
    exact ⟨⟨.date, List.mem_of_mem_head? first⟩, .during _ _ kind canonical rfl rfl rfl⟩
  | number kind canonical compares => exact ⟨⟨.numeric, compares.mem⟩, .number _ kind canonical rfl rfl⟩
  | priority kind _ field => exact ⟨⟨.priority, field⟩, .meaning (Or.inl kind) (Or.inl rfl) rfl⟩
  | status kind _ field => exact ⟨⟨.status, field⟩, .meaning (Or.inl kind) (Or.inl rfl) rfl⟩
  | location kind field => exact ⟨⟨.location, field⟩, .meaning (Or.inr kind) (Or.inr rfl) rfl⟩

end TableTalk.Filter
