import TableTalk.Domain.Cache
import TableTalk.Proofs.Assoc

namespace TableTalk

namespace Variations

/-- A whole form of a name in lower case: the name, the name without spaces, or one of its longer words. -/
def IsWhole (lowered form : String) : Prop :=
  form = lowered ∨ form = joined lowered ∨ form ∈ Text.wordsOf lowered ∧ 2 ≤ form.length

theorem mem_wholeForms {lowered form : String} :
    form ∈ [lowered, joined lowered] ++ (Text.wordsOf lowered).filter (fun word => 2 ≤ word.length) ↔
      IsWhole lowered form := by
  rw [List.mem_append, List.mem_filter, decide_eq_true_eq, List.mem_cons, List.mem_singleton, or_assoc, IsWhole]

variable {lengths : PrefixLengths} {name form : String}

theorem mem_whole : form ∈ (of lengths name).whole ↔ IsWhole (normalized name) form ∧ form ≠ "" := by
  unfold of
  dsimp only
  rw [Assoc.mem_distinct, List.mem_filter, mem_wholeForms, Bool.not_eq_true', String.isEmpty_eq_false_iff]

theorem mem_beginnings : form ∈ (of lengths name).beginnings ↔
    (∃ word ∈ Text.wordsOf (normalized name), form ∈ beginningsOf lengths word) ∧
      ¬ IsWhole (normalized name) form := by
  unfold of
  dsimp only
  rw [Assoc.mem_distinct, List.mem_filter, List.mem_flatMap, Bool.not_eq_true', List.contains_eq_mem,
    decide_eq_false_iff_not, mem_wholeForms]

theorem nodup_all_of (lengths : PrefixLengths) (name : String) : (of lengths name).all.Nodup := by
  have whole : (of lengths name).whole.Nodup := by
    unfold of
    dsimp only
    exact Assoc.distinct_nodup _
  have beginnings : (of lengths name).beginnings.Nodup := by
    unfold of
    dsimp only
    exact Assoc.distinct_nodup _
  rw [all, List.nodup_append]
  refine ⟨whole, beginnings, ?_⟩
  intro form whole other beginning same
  rw [same] at whole
  exact (mem_beginnings.mp beginning).2 (mem_whole.mp whole).1

end Variations

namespace NameIndex

theorem of_byKey (entries : List DomainEntry) : (of entries).byKey = Assoc.groupBy DomainEntry.key entries := by
  suffices run : ∀ index : NameIndex, (entries.foldl add index).byKey =
      entries.foldl (fun groups e => Assoc.addTo e.key e groups) index.byKey by
    exact run {}
  induction entries with
  | nil => exact fun _ => rfl
  | cons e rest ih => exact fun index => ih (index.add e)

theorem getD_byKey (entries : List DomainEntry) (key : String) :
    (Assoc.get? key (of entries).byKey).getD [] = entries.filter fun e => e.key = key := by
  suffices run : ∀ index : NameIndex, (Assoc.get? key (entries.foldl add index).byKey).getD [] =
      (Assoc.get? key index.byKey).getD [] ++ entries.filter fun e => e.key = key by
    exact run {}
  induction entries with
  | nil => exact fun _ => (List.append_nil _).symm
  | cons e rest ih =>
    intro index
    rw [List.foldl_cons, ih, add, Assoc.getD_addTo, List.append_assoc, List.filter_cons]
    by_cases same : e.key = key <;> simp [same]

theorem getD_forms (e : DomainEntry) (form : String) (forms : List String)
    (found : List (String × List DomainEntry)) :
    (Assoc.get? form (forms.foldl (fun found form => Assoc.addTo form e found) found)).getD [] =
      (Assoc.get? form found).getD [] ++ List.replicate (forms.count form) e := by
  induction forms generalizing found with
  | nil => simp
  | cons other rest ih =>
    rw [List.foldl_cons, ih, Assoc.getD_addTo, List.append_assoc, List.count_cons]
    by_cases same : other = form
    · simp [same, List.replicate_succ]
    · simp [same]

theorem getD_byForm (entries : List DomainEntry) (form : String) :
    (Assoc.get? form (of entries).byForm).getD [] =
      entries.flatMap fun e => List.replicate (e.forms.all.count form) e := by
  suffices run : ∀ index : NameIndex, (Assoc.get? form (entries.foldl add index).byForm).getD [] =
      (Assoc.get? form index.byForm).getD [] ++
        entries.flatMap fun e => List.replicate (e.forms.all.count form) e by
    exact run {}
  induction entries with
  | nil => exact fun _ => (List.append_nil _).symm
  | cons e rest ih =>
    intro index
    rw [List.foldl_cons, ih, add, getD_forms, List.append_assoc, List.flatMap_cons]

theorem getD_byForm_nodup {entries : List DomainEntry} (once : ∀ e ∈ entries, e.forms.all.Nodup) (form : String) :
    (Assoc.get? form (of entries).byForm).getD [] = entries.filter fun e => form ∈ e.forms.all := by
  rw [getD_byForm]
  induction entries with
  | nil => rfl
  | cons e rest ih =>
    obtain ⟨here, there⟩ := List.forall_mem_cons.mp once
    rw [List.flatMap_cons, ih there, List.filter_cons, here.count]
    by_cases has : form ∈ e.forms.all <;> simp [has]

end NameIndex

namespace DomainCache

theorem index_eq (c : DomainCache) : c.index = .of (c.entries none) :=
  c.indexed

theorem byKey_eq (c : DomainCache) : c.index.byKey = Assoc.groupBy DomainEntry.key (c.entries none) := by
  rw [index_eq, NameIndex.of_byKey]

theorem named_eq (c : DomainCache) (key : String) :
    c.named key = (c.entries none).filter fun e => e.key = Variations.normalized key := by
  rw [named, index_eq, NameIndex.getD_byKey]

theorem withForm_eq (c : DomainCache) (once : ∀ e ∈ c.entries none, e.forms.all.Nodup) (token : String) :
    c.withForm token = (c.entries none).filter fun e => Text.lower token ∈ e.forms.all := by
  rw [withForm, index_eq, NameIndex.getD_byForm_nodup once]

theorem mem_withForm {c : DomainCache} {token : String} {e : DomainEntry} :
    e ∈ c.withForm token ↔ e ∈ c.entries none ∧ Text.lower token ∈ e.forms.all := by
  rw [withForm, index_eq, NameIndex.getD_byForm, List.mem_flatMap]
  simp only [List.mem_replicate, ne_eq, List.count_eq_zero, Decidable.not_not]
  constructor
  · rintro ⟨other, member, has, rfl⟩
    exact ⟨member, has⟩
  · rintro ⟨member, has⟩
    exact ⟨e, member, has, rfl⟩

end DomainCache

end TableTalk
