import TableTalk.Filter.Compile

namespace TableTalk

/-- A column holds keys of the rows of a table: the primary key of that very table does, and so does the foreign key of
a relationship with another one. -/
def Taxonomy.Refers (t : Taxonomy) (column home : String) : Prop :=
  home = t.table ∧ column = t.primaryKey ∨
    home ≠ t.table ∧ ∃ relationship, Assoc.get? home t.relationships = some relationship ∧
      relationship.foreignKey = column

/-- A comparison is about a column: the numeric one of the first hint whose word is among the words of the question, or
the first numeric one if there is no such hint. -/
def Taxonomy.Compares (t : Taxonomy) (words : List String) (column : String) : Prop :=
  (∃ earlier word later, t.numericHints = earlier ++ (word, column) :: later ∧ word ∈ words ∧ column ∈ t.numericFields ∧
    ∀ hint ∈ earlier, ¬ (hint.1 ∈ words ∧ hint.2 ∈ t.numericFields)) ∨
  (∀ hint ∈ t.numericHints, ¬ (hint.1 ∈ words ∧ hint.2 ∈ t.numericFields)) ∧ t.numericFields.head? = some column

theorem Taxonomy.references_iff {t : Taxonomy} {column home : String} :
    t.references column home = true ↔ t.Refers column home := by
  unfold references Refers
  by_cases same : home = t.table
  · simp [same]
  · rw [if_neg same]
    cases Assoc.get? home t.relationships <;> simp [same]

section Hints

variable {t : Taxonomy} {words : List String} {column : String}

def Taxonomy.fitsHint (t : Taxonomy) (words : List String) (hint : String × String) : Bool :=
  words.contains hint.1 && t.numericFields.contains hint.2

theorem Taxonomy.fitsHint_iff {hint : String × String} :
    t.fitsHint words hint = true ↔ hint.1 ∈ words ∧ hint.2 ∈ t.numericFields := by
  simp [fitsHint]

theorem Taxonomy.hinted_iff {word : String} : t.numericHints.find? (t.fitsHint words) = some (word, column) ↔
    ∃ earlier later, t.numericHints = earlier ++ (word, column) :: later ∧ word ∈ words ∧ column ∈ t.numericFields ∧
      ∀ hint ∈ earlier, ¬ (hint.1 ∈ words ∧ hint.2 ∈ t.numericFields) := by
  rw [List.find?_eq_some_iff_append, fitsHint_iff]
  constructor
  · rintro ⟨⟨here, numeric⟩, earlier, later, split, none⟩
    refine ⟨earlier, later, split, here, numeric, fun hint member fits => ?_⟩
    have excluded := none hint member
    rw [fitsHint_iff.mpr fits] at excluded
    cases excluded
  · rintro ⟨earlier, later, split, here, numeric, none⟩
    refine ⟨⟨here, numeric⟩, earlier, later, split, fun hint member => ?_⟩
    rw [Bool.not_eq_true', Bool.eq_false_iff]
    exact fun fits => none hint member (fitsHint_iff.mp fits)

theorem Taxonomy.numericColumnFor?_iff :
    t.numericColumnFor? words = some column ↔ t.Compares (words.map Text.lower) column := by
  have shape : t.numericColumnFor? words = t.numericFields.head?.map fun first =>
      (t.numericHints.find? (t.fitsHint (words.map Text.lower))).elim first Prod.snd := by
    unfold numericColumnFor? fitsHint
    cases t.numericFields <;> rfl
  rw [shape]
  generalize words.map Text.lower = words
  unfold Compares
  cases found : t.numericHints.find? (t.fitsHint words) with
  | none =>
    have unhinted : ∀ hint ∈ t.numericHints, ¬ (hint.1 ∈ words ∧ hint.2 ∈ t.numericFields) :=
      fun hint member fits => List.find?_eq_none.mp found hint member (fitsHint_iff.mpr fits)
    constructor
    · intro chosen
      exact Or.inr ⟨unhinted, by simpa using chosen⟩
    · rintro (⟨earlier, word, later, split, here, numeric, _⟩ | ⟨_, first⟩)
      · exact absurd ⟨here, numeric⟩ (unhinted (word, column) (by simp [split]))
      · simpa using first
  | some hint =>
    obtain ⟨word, target⟩ := hint
    obtain ⟨earlier, later, split, here, numeric, none⟩ := hinted_iff.mp found
    obtain ⟨first, rest, fields⟩ := List.exists_cons_of_ne_nil (List.ne_nil_of_mem numeric)
    constructor
    · intro chosen
      have same : target = column := by simpa [fields] using chosen
      subst same
      exact Or.inl ⟨earlier, word, later, split, here, numeric, none⟩
    · rintro (⟨earlier', word', later', split', fits⟩ | ⟨unhinted, _⟩)
      · have other := hinted_iff.mpr ⟨earlier', later', split', fits⟩
        rw [found] at other
        cases other
        simp [fields]
      · exact absurd ⟨here, numeric⟩ (unhinted (word, target) (by simp [split]))

theorem Taxonomy.Compares.mem (compares : t.Compares words column) : column ∈ t.numericFields := by
  rcases compares with ⟨_, _, _, _, _, numeric, _⟩ | ⟨_, first⟩
  · exact numeric
  · exact List.mem_of_mem_head? first

end Hints

namespace Filter

/-- The role of the columns that the names of a category are looked for in; only three categories have one. -/
def HasRole (e : Entity) (role : Role) : Prop :=
  (role = .user ∨ role = .product ∨ role = .customer) ∧ e.category = some role.name

/-- A column holds keys of a category's home table. A home table without a name counts as none. -/
def HoldsKeys (t : Taxonomy) (home : Option String) (column : String) : Prop :=
  ∃ table, home = some table ∧ table ≠ "" ∧ t.Refers column table

/-- The rules: what the taxonomy of a table allows to be asked for an entity whose category has the given home. -/
inductive Licensed (t : Taxonomy) (words : List String) (home : Option String) (e : Entity) : Condition → Prop
  | record {role : Role} {column : String} (kind : e.kind = .domainValue) (category : HasRole e role)
      (field : column ∈ t.fieldsFor role) (keys : HoldsKeys t home column) (present : e.recordId ≠ .null) :
      Licensed t words home e ⟨column, .equals, e.recordId, .null⟩
  | name {role : Role} {column : String} (kind : e.kind = .domainValue) (category : HasRole e role)
      (field : column ∈ t.fieldsFor role) (texts : ¬ HoldsKeys t home column) (present : e.canonical.isEmpty = false) :
      Licensed t words home e ⟨column, .contains, e.canonical.toValue, .null⟩
  | asker {column : String} (kind : e.kind = .pronoun) (first : t.userFields.head? = some column)
      (present : e.canonical ≠ .nothing) : Licensed t words home e ⟨column, .equals, e.canonical.toValue, .null⟩
  | since {column : String} {range : TimeRange} (kind : e.kind = .temporal) (canonical : e.canonical = .range range)
      (first : t.dateFields.head? = some column) (openEnded : range.stop = none) :
      Licensed t words home e ⟨column, .gte, .moment range.start, .null⟩
  | during {column : String} {range : TimeRange} {stop : Moment} (kind : e.kind = .temporal)
      (canonical : e.canonical = .range range) (first : t.dateFields.head? = some column)
      (bounded : range.stop = some stop) :
      Licensed t words home e ⟨column, .range, .moment range.start, .moment stop⟩
  | number {column : String} {comparison : Comparison} (kind : e.kind = .numericFilter)
      (canonical : e.canonical = .comparison comparison) (compares : t.Compares words column) :
      Licensed t words home e ⟨column, comparison.operator, comparison.value, .null⟩
  | priority {column : String} (kind : e.kind = .statusFilter) (category : e.category = some "priority")
      (field : column ∈ t.priorityFields) : Licensed t words home e ⟨column, .equals, e.canonical.toValue, .null⟩
  | status {column : String} (kind : e.kind = .statusFilter) (category : e.category ≠ some "priority")
      (field : column ∈ t.statusFields) : Licensed t words home e ⟨column, .equals, e.canonical.toValue, .null⟩
  | location {column : String} (kind : e.kind = .locationFilter) (field : column ∈ t.locationFields) :
      Licensed t words home e ⟨column, .contains, e.canonical.toValue, .null⟩

section Conditions

variable {t : Taxonomy} {words : List String} {home : Option String} {e : Entity} {k : Condition}

theorem roleOfCategory?_iff {role : Role} : roleOfCategory? e.category = some role ↔ HasRole e role := by
  constructor
  · intro found
    unfold roleOfCategory? at found
    split at found
    · rename_i same
      cases found
      exact ⟨Or.inl rfl, same⟩
    · rename_i same
      cases found
      exact ⟨Or.inr (Or.inl rfl), same⟩
    · rename_i same
      cases found
      exact ⟨Or.inr (Or.inr rfl), same⟩
    · cases found
  · rintro ⟨rfl | rfl | rfl, same⟩
    all_goals rw [same]; rfl

theorem holdsKeys_iff {column : String} :
    (home.any fun table => !table.isEmpty && t.references column table) = true ↔
      HoldsKeys t home column := by
  unfold HoldsKeys
  cases home with
  | none => simp
  | some table => simp [Taxonomy.references_iff]

theorem domainCondition?_iff {column : String} : domainCondition? t e home column = some k ↔
    HoldsKeys t home column ∧ e.recordId ≠ .null ∧ k = ⟨column, .equals, e.recordId, .null⟩ ∨
      ¬ HoldsKeys t home column ∧ e.canonical.isEmpty = false ∧
        k = ⟨column, .contains, e.canonical.toValue, .null⟩ := by
  unfold domainCondition?
  dsimp only
  by_cases keys : HoldsKeys t home column
  · rw [if_pos (holdsKeys_iff.mpr keys)]
    constructor
    · intro made
      split at made
      · cases made
      · rename_i present
        cases made
        exact Or.inl ⟨keys, present, rfl⟩
    · rintro (⟨_, present, rfl⟩ | ⟨texts, _⟩)
      · split
        · rename_i none
          exact absurd none present
        · rfl
      · exact absurd keys texts
  · rw [if_neg fun here => keys (holdsKeys_iff.mp here)]
    constructor
    · intro made
      split at made
      · cases made
      · rename_i present
        cases made
        exact Or.inr ⟨keys, Bool.eq_false_iff.mpr present, rfl⟩
    · rintro (⟨here, _⟩ | ⟨_, present, rfl⟩)
      · exact absurd here keys
      · rw [present]
        rfl

theorem mem_domainConditions_iff : k ∈ domainConditions t e home ↔ ∃ role, HasRole e role ∧
    ∃ column ∈ t.fieldsFor role, domainCondition? t e home column = some k := by
  simp only [← roleOfCategory?_iff]
  unfold domainConditions
  cases roleOfCategory? e.category with
  | none => simp
  | some role => simp

/-- The conditions for an entity are those that the rules license. -/
theorem mem_conditions_iff : k ∈ conditions t words home e ↔ Licensed t (words.map Text.lower) home e k := by
  constructor
  · intro member
    unfold conditions at member
    split at member
    · cases member
    · rename_i kind
      obtain ⟨role, category, column, field, made⟩ := mem_domainConditions_iff.mp member
      rcases domainCondition?_iff.mp made with ⟨keys, present, rfl⟩ | ⟨texts, present, rfl⟩
      · exact .record kind category field keys present
      · exact .name kind category field texts present
    · rename_i kind
      split at member
      · cases member
      · cases member
      · rename_i owner _ first present
        cases List.mem_singleton.mp member
        exact .asker kind first present
    · rename_i kind
      split at member
      · rename_i column range first canonical
        split at member
        · rename_i openEnded
          cases List.mem_singleton.mp member
          exact .since kind canonical first openEnded
        · rename_i stop bounded
          cases List.mem_singleton.mp member
          exact .during kind canonical first bounded
      · cases member
    · rename_i kind
      split at member
      · rename_i comparison column canonical chosen
        cases List.mem_singleton.mp member
        exact .number kind canonical (Taxonomy.numericColumnFor?_iff.mp chosen)
      · cases member
    · rename_i kind
      split at member
      · rename_i category
        obtain ⟨column, field, rfl⟩ := List.mem_map.mp member
        exact .priority kind category field
      · rename_i category
        obtain ⟨column, field, rfl⟩ := List.mem_map.mp member
        exact .status kind category field
    · rename_i kind
      obtain ⟨column, field, rfl⟩ := List.mem_map.mp member
      exact .location kind field
  · intro licensed
    cases licensed with
    | record kind category field keys present =>
      rw [conditions, kind]
      have made := domainCondition?_iff.mpr (Or.inl ⟨keys, present, rfl⟩)
      exact mem_domainConditions_iff.mpr ⟨_, category, _, field, made⟩
    | name kind category field texts present =>
      rw [conditions, kind]
      have made := domainCondition?_iff.mpr (Or.inr ⟨texts, present, rfl⟩)
      exact mem_domainConditions_iff.mpr ⟨_, category, _, field, made⟩
    | asker kind first present =>
      rw [conditions, kind]
      dsimp only [Taxonomy.ownerField?]
      rw [first]
      cases canonical : e.canonical with
      | nothing => exact absurd canonical present
      | _ => exact List.mem_singleton.mpr rfl
    | since kind canonical first openEnded =>
      rw [conditions, kind]
      dsimp only [Taxonomy.primaryDateField?]
      rw [first, canonical]
      dsimp only
      rw [openEnded]
      exact List.mem_singleton.mpr rfl
    | during kind canonical first bounded =>
      rw [conditions, kind]
      dsimp only [Taxonomy.primaryDateField?]
      rw [first, canonical]
      dsimp only
      rw [bounded]
      exact List.mem_singleton.mpr rfl
    | number kind canonical compares =>
      rw [conditions, kind]
      dsimp only
      rw [canonical, Taxonomy.numericColumnFor?_iff.mpr compares]
      exact List.mem_singleton.mpr rfl
    | priority kind category field =>
      rw [conditions, kind]
      dsimp only
      rw [if_pos category]
      exact List.mem_map_of_mem field
    | status kind category field =>
      rw [conditions, kind]
      dsimp only
      rw [if_neg category]
      exact List.mem_map_of_mem field
    | location kind field =>
      rw [conditions, kind]
      exact List.mem_map_of_mem field

end Conditions

end Filter

end TableTalk
