import TableTalk.Demo.Lexicon
import TableTalk.Proofs.Routing.Reaching

namespace TableTalk

/-- No category is at home in a table that is related to the home of another category. -/
def Lexicon.HomesApart (l : Lexicon) : Prop :=
  ∀ one other first second, one ≠ other → l.categoryRouting? one = some first → l.categoryRouting? other = some second →
    second.homeTable ∉ l.relatedTables first.homeTable

theorem Lexicon.not_mem_relatedTables_self (l : Lexicon) (table : String) : table ∉ l.relatedTables table := by
  rw [mem_relatedTables]
  simp [isRelated]

theorem Lexicon.homesApart_of_categories {l : Lexicon}
    (apart : ∀ first ∈ l.categories, ∀ second ∈ l.categories, second.homeTable ∉ l.relatedTables first.homeTable) :
    l.HomesApart :=
  fun _ _ first second _ foundFirst foundSecond =>
    apart first (List.mem_of_find?_eq_some foundFirst) second (List.mem_of_find?_eq_some foundSecond)

theorem Clue.routing?_eq_some {l : Lexicon} {clue : Clue} {routing : CategoryRouting}
    (leads : clue.routing? l = some routing) : ∃ category, l.categoryRouting? category = some routing := by
  unfold routing? at leads
  split at leads
  · split at leads
    · cases leads
    · exact ⟨_, leads⟩
  · cases leads

theorem Lexicon.HomesApart.unrelated {l : Lexicon} (apart : l.HomesApart) {clues : List Clue} :
    ∀ one ∈ clues.filterMap (Clue.routing? l), ∀ other ∈ clues.filterMap (Clue.routing? l),
      other.homeTable ∉ l.relatedTables one.homeTable := by
  intro one memberOne other memberOther
  obtain ⟨_, _, leadsOne⟩ := List.mem_filterMap.mp memberOne
  obtain ⟨_, _, leadsOther⟩ := List.mem_filterMap.mp memberOther
  obtain ⟨category, foundOne⟩ := Clue.routing?_eq_some leadsOne
  obtain ⟨category', foundOther⟩ := Clue.routing?_eq_some leadsOther
  by_cases same : category = category'
  · rw [← same, foundOne] at foundOther
    cases foundOther
    exact l.not_mem_relatedTables_self _
  · exact apart _ _ _ _ same foundOne foundOther

namespace Routing

variable {l : Lexicon} {named : List String} {homes : List CategoryRouting}

theorem mem_reachedFrom_iff (distinct : named.Nodup) (some : named ≠ [])
    (unrelated : ∀ one ∈ homes, ∀ other ∈ homes, other.homeTable ∉ l.relatedTables one.homeTable) {table : String} :
    table ∈ reachedFrom l named homes ↔ table ∈ named ∨
      ∃ routing ∈ homes, routing.homeTable = table ∧ ∃ anchor ∈ named, anchor ∈ l.relatedTables table := by
  have reached := reached_reachedFrom l distinct homes
  -- every table behind the named ones is the home of something and related to a table before it
  have further : ∀ (before back : List String) (table : String),
      reachedFrom l named homes = named ++ before ++ table :: back →
      ∃ routing ∈ homes, routing.homeTable = table ∧ ∃ anchor ∈ named ++ before, anchor ∈ l.relatedTables table := by
    intro before back table split
    obtain ⟨routing, member, ⟨home, anchor⟩ | ⟨none, _⟩⟩ := reached.further _ _ _ split (List.prefix_append _ _)
    · exact ⟨routing, member, home.symm, anchor⟩
    · exact absurd none some
  constructor
  · intro member
    obtain ⟨behind, same⟩ := reached.front
    rw [← same, List.mem_append] at member
    refine member.imp_right fun inside => ?_
    obtain ⟨before, back, rfl⟩ := List.append_of_mem inside
    obtain ⟨routing, among, home, anchor, known, related⟩ := further before back table
      (same.symm.trans (List.append_assoc _ _ _).symm)
    refine ⟨routing, among, home, anchor, ?_, related⟩
    rcases List.mem_append.mp known with here | there
    · exact here
    · -- the anchor would be a home itself
      obtain ⟨earlier, between, rfl⟩ := List.append_of_mem there
      obtain ⟨other, amongOther, homeOther, _⟩ := further earlier (between ++ table :: back) anchor
        (by rw [← same]; simp)
      rw [← home, ← homeOther] at related
      exact absurd related (unrelated routing among other amongOther)
  · rintro (here | ⟨routing, among, rfl, anchor, known, related⟩)
    · exact reached.front.subset here
    · exact home_mem_reachedFrom among known related

def namedTables (entities : List Entity) : List String :=
  Assoc.distinct ((entities.map Entity.clue).filterMap Clue.tableNamed?)

def ledTo (l : Lexicon) (entities : List Entity) : List CategoryRouting :=
  (entities.map Entity.clue).filterMap (Clue.routing? l)

theorem namedTables_eq (entities : List Entity) : namedTables entities =
    Assoc.distinct ((entities.filter fun e => e.kind = .table).filterMap fun e => e.clue.tableNamed?) := by
  rw [namedTables, List.filterMap_map, List.filterMap_filter]
  congr 2
  funext e
  by_cases kind : e.kind = .table
  · simp [kind]
  · have other : e.clue.tableNamed? = none := by
      cases found : e.clue.tableNamed? with
      | none => rfl
      | some table => exact absurd (Clue.tableNamed?_eq_some found).1 kind
    simp [kind, other]

theorem namedTables_ne_nil {entities : List Entity}
    (naming : ∃ e ∈ entities, e.kind = .table ∧ ∃ table, e.table = some table ∧ table ≠ "") :
    namedTables entities ≠ [] := by
  obtain ⟨e, member, kind, table, names, nonempty⟩ := naming
  have found : e.clue.tableNamed? = some table := by
    simp [Clue.tableNamed?, Entity.clue, kind, names, nonempty]
  exact List.ne_nil_of_mem
    (Assoc.mem_distinct.mpr (List.mem_filterMap.mpr ⟨e.clue, List.mem_map_of_mem member, found⟩))

theorem tables_named {entities : List Entity} (some : namedTables entities ≠ []) :
    (route l entities).tables = reachedFrom l (namedTables entities) (ledTo l entities) := by
  rcases route_cases l entities with ⟨none, _⟩ | ⟨_, _, same⟩
  · rw [visited_eq] at none
    exact absurd none ((reachedFrom_ne_nil (Assoc.distinct_nodup _)).mpr (Or.inl some))
  · rw [same, visited_eq]
    rfl

theorem primary?_named {entities : List Entity} (some : namedTables entities ≠ []) :
    (route l entities).primary? = (namedTables entities).head? := by
  have front : namedTables entities <+: reachedFrom l (namedTables entities) (ledTo l entities) :=
    (reached_reachedFrom l (Assoc.distinct_nodup _) _).front
  obtain ⟨further, same⟩ := front
  obtain ⟨table, rest, first⟩ := List.exists_cons_of_ne_nil some
  rw [primary?, tables_named some, ← same, first]
  rfl

theorem mem_route_iff (apart : l.HomesApart) {entities : List Entity} (some : namedTables entities ≠ [])
    {table : String} :
    table ∈ (route l entities).tables ↔ table ∈ namedTables entities ∨
      ∃ routing ∈ ledTo l entities, routing.homeTable = table ∧
        ∃ anchor ∈ namedTables entities, anchor ∈ l.relatedTables table := by
  rw [tables_named some]
  exact mem_reachedFrom_iff (Assoc.distinct_nodup _) some apart.unrelated

theorem mem_namedTables_perm {first second : List Entity} (perm : first.Perm second) {table : String} :
    table ∈ namedTables first ↔ table ∈ namedTables second := by
  rw [namedTables, namedTables, Assoc.mem_distinct, Assoc.mem_distinct]
  exact ((perm.map Entity.clue).filterMap Clue.tableNamed?).mem_iff

theorem mem_ledTo_perm (l : Lexicon) {first second : List Entity} (perm : first.Perm second)
    {routing : CategoryRouting} : routing ∈ ledTo l first ↔ routing ∈ ledTo l second :=
  ((perm.map Entity.clue).filterMap (Clue.routing? l)).mem_iff

/-- Where homes are apart and a table is named, the tables that a question is put to do not depend on the order of its
entities, and the first of them only depends on the order in which tables are named. Homes are apart in the lexicon of
the demo business. -/
theorem route_reordered :
    Demo.lexicon.HomesApart ∧ ∀ l : Lexicon, l.HomesApart → ∀ first second : List Entity, first.Perm second →
      (∃ e ∈ first, e.kind = .table ∧ ∃ table, e.table = some table ∧ table ≠ "") →
      (route l first).tables.Perm (route l second).tables ∧
        ((first.filter fun e => e.kind = .table) = (second.filter fun e => e.kind = .table) →
          (route l first).primary? = (route l second).primary?) := by
  refine ⟨Lexicon.homesApart_of_categories (by decide +kernel), fun l apart first second perm naming => ?_⟩
  have someFirst := namedTables_ne_nil naming
  have someSecond : namedTables second ≠ [] :=
    namedTables_ne_nil (naming.imp fun e naming => ⟨perm.subset naming.1, naming.2⟩)
  constructor
  · rw [List.perm_ext_iff_of_nodup (route_distinct l first) (route_distinct l second)]
    intro table
    simp only [mem_route_iff apart someFirst, mem_route_iff apart someSecond, mem_namedTables_perm perm,
      mem_ledTo_perm l perm]
  · intro kept
    rw [primary?_named someFirst, primary?_named someSecond, namedTables_eq, namedTables_eq, kept]

theorem laptop_reordered :
    let first := [salesMention, nameMention "product", nameMention "customer"]
    let second := [nameMention "customer", nameMention "product", salesMention]
    Demo.lexicon.HomesApart ∧ first.Perm second ∧
      (∃ e ∈ first, e.kind = .table ∧ ∃ table, e.table = some table ∧ table ≠ "") ∧
      (route Demo.lexicon first).tables = ["sales", "products", "customers"] ∧
      (route Demo.lexicon second).tables = ["sales", "customers", "products"] ∧
      (route Demo.lexicon first).tables.Perm (route Demo.lexicon second).tables ∧
      (route Demo.lexicon first).primary? = (route Demo.lexicon second).primary? := by
  intro first second
  have perm : first.Perm second := (List.reverse_perm first).symm
  have naming : ∃ e ∈ first, e.kind = .table ∧ ∃ table, e.table = some table ∧ table ≠ "" :=
    ⟨salesMention, List.mem_cons_self, rfl, "sales", rfl, by decide⟩
  obtain ⟨apart, reordered⟩ := route_reordered
  obtain ⟨same, primary⟩ := reordered Demo.lexicon apart first second perm naming
  exact ⟨apart, perm, naming, by decide +kernel, by decide +kernel, same, primary rfl⟩

end Routing

end TableTalk
