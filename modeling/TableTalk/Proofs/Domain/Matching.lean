import TableTalk.Proofs.Domain.Index
import TableTalk.Proofs.Text.Words

namespace TableTalk

namespace DomainEntry

def sameRow (a b : DomainEntry) : Bool :=
  a.table == b.table && a.recordId.sameKey b.recordId

def rows (entries : List DomainEntry) : List DomainEntry :=
  Assoc.firsts sameRow entries

theorem records_single_iff (primary : DomainEntry) (others : List DomainEntry) :
    (records (primary :: others)).length = 1 ↔ (others.all fun e => e.sameRecord primary) = true := by
  rw [records, Assoc.firsts_single_iff, List.all_eq_true]

/-- Of names with one record number, those of one category are those of one table. -/
def CategoriesAreTables (entries : List DomainEntry) : Prop :=
  ∀ a ∈ entries, ∀ b ∈ entries, a.recordId.sameKey b.recordId = true → (a.category = b.category ↔ a.table = b.table)

theorem CategoriesAreTables.sameRecord {entries : List DomainEntry} (tables : CategoriesAreTables entries)
    {a b : DomainEntry} (memberA : a ∈ entries) (memberB : b ∈ entries) : a.sameRecord b = a.sameRow b := by
  unfold DomainEntry.sameRecord sameRow
  cases same : a.recordId.sameKey b.recordId with
  | false => rw [Bool.and_false, Bool.and_false]
  | true =>
    rw [Bool.and_true, Bool.and_true, Bool.eq_iff_iff, beq_iff_eq, beq_iff_eq]
    exact tables a memberA b memberB same

end DomainEntry

namespace DomainCache

def matchingWord (c : DomainCache) (word : String) : List DomainEntry :=
  ([c.named word, c.withForm word, (c.near word defaultNearLength).map Prod.fst].find? fun found =>
    !found.isEmpty).getD []

def matching (c : DomainCache) : List String → List DomainEntry
  | [word] => c.matchingWord word
  | words => (c.multiword.filter fun entry => entry.1 = words).map Prod.snd

theorem matching_several (c : DomainCache) {words : List String} (several : 1 < words.length) :
    c.matching words = (c.multiword.filter fun entry => entry.1 = words).map Prod.snd := by
  match words with
  | _ :: _ :: _ => rfl

theorem mem_multiword {c : DomainCache} {entry : List String × DomainEntry} :
    entry ∈ c.multiword ↔ entry.2 ∈ c.entries none ∧ entry.1 = entry.2.words ∧ 1 < entry.1.length := by
  have ordered (e : DomainEntry) :
      e ∈ (Assoc.groupBy DomainEntry.key (c.entries none)).flatMap Prod.snd ↔ e ∈ c.entries none := by
    rw [List.mem_flatMap]
    constructor
    · rintro ⟨group, member, inside⟩
      rw [(Assoc.mem_groupBy.mp member).2] at inside
      exact (List.mem_filter.mp inside).1
    · intro member
      refine ⟨(e.key, (c.entries none).filter fun other => other.key = e.key), ?_, ?_⟩
      · exact Assoc.mem_groupBy.mpr ⟨List.mem_map_of_mem member, rfl⟩
      · exact List.mem_filter.mpr ⟨member, decide_eq_true rfl⟩
  unfold multiword
  rw [byKey_eq]
  simp only [List.mem_filter, List.mem_map, decide_eq_true_eq]
  constructor
  · rintro ⟨⟨e, member, rfl⟩, several⟩
    exact ⟨(ordered e).mp member, rfl, several⟩
  · obtain ⟨words, e⟩ := entry
    rintro ⟨member, same, several⟩
    exact ⟨⟨e, (ordered e).mpr member, Prod.ext same.symm rfl⟩, several⟩

theorem lower_multiword {c : DomainCache} {entry : List String × DomainEntry} (member : entry ∈ c.multiword) :
    entry.1.map Text.lower = entry.1 := by
  rw [(mem_multiword.mp member).2.1]
  exact (List.map_congr_left fun word inside => Text.lower_word inside).trans (List.map_id _)

def spelled (c : DomainCache) (words : List String) : List DomainEntry :=
  (c.entries none).filter fun e => e.words = words

theorem matching_grouped (c : DomainCache) {words : List String} (several : 1 < words.length) :
    c.matching words =
      ((Assoc.groupBy DomainEntry.key (c.entries none)).flatMap Prod.snd).filter fun e => e.words = words := by
  rw [matching_several c several, multiword, byKey_eq, List.filter_filter, List.filter_map, List.map_map]
  refine (List.map_id _).trans ?_
  apply List.filter_congr
  intro e _
  have long : e.words = words → 1 < e.words.length := fun same => same ▸ several
  simp only [Function.comp_apply, ← Bool.decide_and, decide_eq_decide]
  exact ⟨And.left, fun same => ⟨same, long same⟩⟩

theorem matching_spelled (c : DomainCache) {words : List String} (several : 1 < words.length) {primary : DomainEntry}
    {others : List DomainEntry} (names : c.matching words = primary :: others) :
    ∃ later, c.spelled words = primary :: later ∧ others.Perm later := by
  have grouped := matching_grouped c several
  have same : (c.matching words).Perm (c.spelled words) := by
    rw [grouped]
    exact (Assoc.groupBy_perm DomainEntry.key (c.entries none)).filter _
  have head : (c.matching words).head? = (c.spelled words).head? := by
    rw [grouped, spelled, List.head?_filter, List.head?_filter]
    exact Assoc.find?_groupBy DomainEntry.key (fun key => Text.wordsOf key = words) (c.entries none)
  rw [names, List.head?_cons] at head
  obtain ⟨later, spelled⟩ := List.head?_eq_some_iff.mp head.symm
  rw [names, spelled] at same
  exact ⟨later, spelled, same.cons_inv⟩

end DomainCache

end TableTalk
