import TableTalk.Lexicon.Basic
import TableTalk.Proofs.Assoc

namespace TableTalk.Lexicon

/-- A word for a table, in any case: its name, or an alias of it that is neither the name of a table nor an alias of one
of the tables in front of it. -/
inductive IsWordFor (l : Lexicon) (front : List Taxonomy) (t : Taxonomy) (word : String) : Prop where
  | name (same : Text.lower word = Text.lower t.table)
  | further (among : Text.lower word ∈ t.aliases.map Text.lower)
      (unnamed : ∀ other ∈ l.tables, Text.lower other.table ≠ Text.lower word)
      (new : ∀ earlier ∈ front, Text.lower word ∉ earlier.aliases.map Text.lower)

def namePairs (l : Lexicon) : List (String × String) :=
  l.tables.map fun t => (Text.lower t.table, t.table)

def aliasPairs (tables : List Taxonomy) : List (String × String) :=
  tables.flatMap fun t => t.aliases.map fun word => (Text.lower word, t.table)

theorem get?_tableWords (l : Lexicon) (word : String) :
    Assoc.get? word l.tableWords =
      ((Assoc.get? word l.namePairs.reverse).map fun table => ⟨table, 0.95⟩).or
        ((Assoc.get? word (aliasPairs l.tables)).map fun table => ⟨table, 0.9⟩) := by
  have byAlias : (aliasPairs l.tables).foldl (fun words entry => Assoc.putNew entry.1 ⟨entry.2, 0.9⟩ words) [] =
      ((aliasPairs l.tables).map fun entry => (entry.1, (⟨entry.2, 0.9⟩ : TableWord))).foldl
        (fun words entry => Assoc.putNew entry.1 entry.2 words) [] := by
    rw [List.foldl_map]
  have byName (words : List (String × TableWord)) :
      l.tableNames.foldl (fun words name => Assoc.put (Text.lower name) ⟨name, 0.95⟩ words) words =
        (l.namePairs.map fun entry => (entry.1, (⟨entry.2, 0.95⟩ : TableWord))).foldl
          (fun words entry => Assoc.put entry.1 entry.2 words) words := by
    rw [List.foldl_map, namePairs, List.foldl_map, tableNames, List.foldl_map]
  unfold tableWords
  dsimp only
  rw [byName, ← aliasPairs, byAlias, Assoc.get?_foldl_put, Assoc.get?_foldl_putNew, ← List.map_reverse,
    Assoc.get?_map fun table => (⟨table, 0.95⟩ : TableWord), Assoc.get?_map fun table => (⟨table, 0.9⟩ : TableWord)]
  rfl

theorem get?_aliasPairs_none {word : String} {tables : List Taxonomy}
    (unknown : ∀ t ∈ tables, word ∉ t.aliases.map Text.lower) : Assoc.get? word (aliasPairs tables) = none := by
  rw [Assoc.get?_eq_none_iff]
  intro known
  obtain ⟨entry, member, same⟩ := List.mem_map.mp known
  obtain ⟨t, declared, among⟩ := List.mem_flatMap.mp member
  obtain ⟨a, inside, rfl⟩ := List.mem_map.mp among
  exact unknown t declared (same ▸ List.mem_map_of_mem inside)

theorem get?_aliases {word : String} {t : Taxonomy} (among : word ∈ t.aliases.map Text.lower) :
    Assoc.get? word (t.aliases.map fun a => (Text.lower a, t.table)) = some t.table := by
  obtain ⟨a, inside, rfl⟩ := List.mem_map.mp among
  obtain ⟨table, found⟩ := Assoc.exists_get?_of_mem (List.mem_map_of_mem (f := fun a => (Text.lower a, t.table)) inside)
  obtain ⟨_, _, same⟩ := List.mem_map.mp (Assoc.mem_of_get? found)
  rw [found, ← (Prod.mk.inj same).2]

variable {l : Lexicon} {front back : List Taxonomy} {t : Taxonomy} {word : String}

theorem get?_name (distinct : (l.tables.map fun t => Text.lower t.table).Nodup) (member : t ∈ l.tables) :
    Assoc.get? (Text.lower t.table) l.tableWords = some ⟨t.table, 0.95⟩ := by
  have keys : (Assoc.keys l.namePairs.reverse).Nodup := by
    rw [Assoc.keys, List.map_reverse, namePairs, List.map_map]
    exact List.pairwise_reverse.mpr (distinct.imp Ne.symm)
  have declared : (Text.lower t.table, t.table) ∈ l.namePairs.reverse :=
    List.mem_reverse.mpr (List.mem_map_of_mem member)
  rw [get?_tableWords, Assoc.get?_of_mem keys declared]
  rfl

theorem get?_alias (declared : l.tables = front ++ t :: back) (among : word ∈ t.aliases.map Text.lower)
    (unnamed : ∀ other ∈ l.tables, Text.lower other.table ≠ word)
    (new : ∀ earlier ∈ front, word ∉ earlier.aliases.map Text.lower) :
    Assoc.get? word l.tableWords = some ⟨t.table, 0.9⟩ := by
  have nameless : Assoc.get? word l.namePairs.reverse = none := by
    rw [Assoc.get?_eq_none_iff]
    intro known
    obtain ⟨entry, member, same⟩ := List.mem_map.mp known
    obtain ⟨other, inside, rfl⟩ := List.mem_map.mp (List.mem_reverse.mp member)
    exact unnamed other inside same
  have earlier : Assoc.get? word (aliasPairs front) = none := get?_aliasPairs_none new
  have here := get?_aliases among
  rw [get?_tableWords, nameless, declared, aliasPairs, List.flatMap_append, List.flatMap_cons, Assoc.get?_append,
    Assoc.get?_append, here, ← aliasPairs, earlier]
  rfl

theorem IsWordFor.stands (stands : l.IsWordFor front t word) (declared : l.tables = front ++ t :: back)
    (distinct : (l.tables.map fun t => Text.lower t.table).Nodup) :
    ∃ confidence, Assoc.get? (Text.lower word) l.tableWords = some ⟨t.table, confidence⟩ := by
  cases stands with
  | name same =>
    have member : t ∈ l.tables := by rw [declared]; simp
    exact ⟨0.95, same ▸ get?_name distinct member⟩
  | further among unnamed new => exact ⟨0.9, get?_alias declared among unnamed new⟩

end TableTalk.Lexicon
