import TableTalk.Proofs.Domain.Views
import TableTalk.Proofs.Sql.Comparing

namespace TableTalk

namespace DomainEntry

def Has (query : String) (e : DomainEntry) : Prop :=
  ∃ form ∈ e.forms.all, query.toList <:+: form.toList

instance (query : String) : DecidablePred (Has query) := fun e =>
  decidable_of_iff (e.forms.all.any (Text.contains · query) = true) <| by
    simp only [List.any_eq_true, Text.contains, Sql.occursIn_infix, Has]

def begins (query : String) (e : DomainEntry) : Bool :=
  (e.key :: e.words).any fun word => Text.startsWith word query

def scoreFor (query : String) (e : DomainEntry) : Float :=
  if e.begins query then 0.9 else 0.7

def suggestion (query : String) (e : DomainEntry) : Suggestion :=
  ⟨e.display, e.category, e.table, e.recordId, e.scoreFor query⟩

@[simp] theorem suggestion_score (query : String) (e : DomainEntry) :
    (e.suggestion query).score = e.scoreFor query := rfl

theorem begins_iff {query : String} {e : DomainEntry} :
    e.begins query = true ↔ ∃ word ∈ e.key :: e.words, query.toList <+: word.toList := by
  simp only [begins, List.any_eq_true, Text.startsWith, List.isPrefixOf_iff_prefix]

theorem Has.shorter {query longer : String} {e : DomainEntry} (has : e.Has longer)
    (front : query.toList <+: longer.toList) : e.Has query := by
  obtain ⟨form, member, inside⟩ := has
  exact ⟨form, member, front.isInfix.trans inside⟩

theorem scoreFor_mono {query longer : String} (front : query.toList <+: longer.toList) (e : DomainEntry) :
    e.scoreFor longer ≤ e.scoreFor query := by
  unfold scoreFor
  by_cases starts : e.begins longer = true
  · obtain ⟨word, member, begins⟩ := begins_iff.mp starts
    rw [if_pos starts, if_pos (begins_iff.mpr ⟨word, member, front.trans begins⟩)]
    decide
  · rw [if_neg starts]
    split <;> decide

def suggestedBefore (query : String) (a b : DomainEntry) : Bool :=
  (a.begins query && !b.begins query) ||
    (a.begins query == b.begins query && Text.lower a.display ≤ Text.lower b.display)

theorem suggestedBefore_trans (query : String) (a b c : DomainEntry) (first : suggestedBefore query a b = true)
    (second : suggestedBefore query b c = true) : suggestedBefore query a c = true := by
  have texts := @String.le_trans (Text.lower a.display) (Text.lower b.display) (Text.lower c.display)
  unfold suggestedBefore at first second ⊢
  generalize a.begins query = p, b.begins query = q, c.begins query = r at first second ⊢
  cases p <;> cases q <;> cases r <;> simp_all

theorem suggestedBefore_total (query : String) (a b : DomainEntry) :
    (suggestedBefore query a b || suggestedBefore query b a) = true := by
  have texts := String.le_total (Text.lower a.display) (Text.lower b.display)
  unfold suggestedBefore
  cases a.begins query <;> cases b.begins query <;> simp [texts]

theorem scoreFor_lt {query : String} {a b : DomainEntry} :
    b.scoreFor query < a.scoreFor query ↔ (a.begins query && !b.begins query) = true := by
  unfold scoreFor
  cases a.begins query <;> cases b.begins query <;> decide

theorem scoreFor_beq (query : String) (a b : DomainEntry) :
    (a.scoreFor query == b.scoreFor query) = (a.begins query == b.begins query) := by
  unfold scoreFor
  cases a.begins query <;> cases b.begins query <;> decide

theorem scoreFor_eq {query : String} {a b : DomainEntry} :
    a.scoreFor query = b.scoreFor query ↔ (a.begins query == b.begins query) = true := by
  unfold scoreFor
  cases a.begins query <;> cases b.begins query <;> decide

def shownBefore (a b : Suggestion) : Bool :=
  b.score < a.score || (a.score == b.score && Text.lower a.value ≤ Text.lower b.value)

theorem suggestedBefore_eq (query : String) (a b : DomainEntry) :
    suggestedBefore query a b = shownBefore (a.suggestion query) (b.suggestion query) := by
  change _ = (decide (b.scoreFor query < a.scoreFor query) ||
    (a.scoreFor query == b.scoreFor query && Text.lower a.display ≤ Text.lower b.display))
  rw [Bool.eq_iff_iff, Bool.or_eq_true, decide_eq_true_eq, scoreFor_lt, scoreFor_beq, suggestedBefore, Bool.or_eq_true]

theorem suggestedBefore_iff {query : String} {a b : DomainEntry} : suggestedBefore query a b = true ↔
    b.scoreFor query < a.scoreFor query ∨
      a.scoreFor query = b.scoreFor query ∧ Text.lower a.display ≤ Text.lower b.display := by
  rw [scoreFor_lt, scoreFor_eq, suggestedBefore, Bool.or_eq_true, Bool.and_eq_true (_ == _), decide_eq_true_eq]

end DomainEntry

namespace DomainCache

theorem mem_entries {c : DomainCache} {category : Option String} {e : DomainEntry} (member : e ∈ c.entries category) :
    e ∈ c.entries none := by
  cases category with
  | none => exact member
  | some category =>
    rw [entries, ofCategory] at member
    cases found : Assoc.get? category c.byCategory with
    | none =>
      rw [found] at member
      cases member
    | some group =>
      rw [found] at member
      exact List.mem_flatMap.mpr ⟨(category, group), Assoc.mem_of_get? found, member⟩

theorem score?_eq {query : String} {e : DomainEntry} (listed : e.key ∈ e.forms.all) :
    score? query e = if e.Has query then some (e.scoreFor query) else none := by
  have found : ((e.key :: e.forms.all).any fun form => Text.contains form query) = true ↔ e.Has query := by
    simp only [List.any_eq_true, Text.contains, Sql.occursIn_infix, DomainEntry.Has]
    constructor
    · rintro ⟨form, member, inside⟩
      rcases List.mem_cons.mp member with rfl | member
      · exact ⟨e.key, listed, inside⟩
      · exact ⟨form, member, inside⟩
    · rintro ⟨form, member, inside⟩
      exact ⟨form, List.mem_cons_of_mem _ member, inside⟩
  by_cases has : e.Has query
  · rw [if_pos has, score?, if_pos (found.mpr has)]
    rfl
  · rw [if_neg has, score?, if_neg (mt found.mp has)]

theorem filterMap_score? {query : String} {entries : List DomainEntry}
    (listed : ∀ e ∈ entries, e.key ∈ e.forms.all) :
    (entries.filterMap fun e => (score? query e).map fun score =>
      (⟨e.display, e.category, e.table, e.recordId, score⟩ : Suggestion)) =
        (entries.filter fun e => e.Has query).map (DomainEntry.suggestion query) := by
  induction entries with
  | nil => rfl
  | cons e rest ih =>
    obtain ⟨here, there⟩ := List.forall_mem_cons.mp listed
    rw [List.filterMap_cons, score?_eq here, ih there]
    by_cases has : e.Has query
    · rw [List.filter_cons, if_pos has, if_pos (decide_eq_true has)]
      rfl
    · rw [List.filter_cons, if_neg has, if_neg (by simpa using has)]
      rfl

theorem suggestions_eq {c : DomainCache} {query text : String} {category : Option String}
    (same : Variations.normalized query = text) (asked : text ≠ "")
    (listed : ∀ e ∈ c.entries category, e.key ∈ e.forms.all) :
    c.suggestions query category =
      (((c.entries category).filter fun e => e.Has text).mergeSort (DomainEntry.suggestedBefore text)).map
        (DomainEntry.suggestion text) := by
  have some' : ¬ text.isEmpty = true := fun empty => asked (String.isEmpty_iff.mp empty)
  unfold suggestions
  dsimp only
  rw [same, if_neg some', filterMap_score? listed]
  exact (List.map_mergeSort fun a _ b _ => DomainEntry.suggestedBefore_eq text a b).symm

theorem suggest_eq (c : DomainCache) (query : String) (category : Option String) (n : Nat) :
    c.suggest query category n = (c.suggestions query category).take n := by
  unfold suggest
  rfl

/-- After any calls the suggestions for a text that is not blank are ranked, whatever the limit: one for each name of the
category that has the text, those with a better score first and those with the same one in the order of their texts. A
name that has a text has any beginning of it, with a score that is as good. -/
theorem calls_suggest (o : CacheOptions) (sources : List DomainSource) (steps : List (LoadCall × Store)) :
    let c := calls sources { options := o } steps
    (∀ (query : String) (category : Option String), Variations.normalized query ≠ "" →
      let text := Variations.normalized query
      ∃ ranked : List Suggestion,
        (∀ n : Nat, c.suggest query category n = ranked.take n) ∧
        ranked.Perm (((c.entries category).filter fun e => e.Has text).map (DomainEntry.suggestion text)) ∧
        ranked.Pairwise fun a b =>
          b.score < a.score ∨ a.score = b.score ∧ Text.lower a.value ≤ Text.lower b.value) ∧
    (∀ (query longer : String), Variations.normalized query ≠ "" →
      (Variations.normalized query).toList <+: (Variations.normalized longer).toList →
        ∀ (category : Option String), ∀ e ∈ c.entries category, e.Has (Variations.normalized longer) →
          e.Has (Variations.normalized query) ∧
            (e.suggestion (Variations.normalized longer)).score ≤ (e.suggestion (Variations.normalized query)).score) := by
  intro c
  have made := calls_made sources o steps
  refine ⟨fun query category asked => ?_, fun query longer asked front category e member has => ?_⟩
  · intro text
    have same : Variations.normalized query = text := rfl
    clear_value text
    rw [same] at asked
    have listed : ∀ e ∈ c.entries category, e.key ∈ e.forms.all := by
      intro e member
      exact List.mem_append_left _ (((made e (mem_entries member)).mem_whole e.key).mpr (Or.inl rfl))
    refine ⟨c.suggestions query category, c.suggest_eq query category, ?_, ?_⟩
    · rw [suggestions_eq same asked listed]
      exact (List.mergeSort_perm _ _).map _
    · rw [suggestions_eq same asked listed]
      have sorted := List.pairwise_mergeSort (DomainEntry.suggestedBefore_trans text)
        (DomainEntry.suggestedBefore_total text) ((c.entries category).filter fun e => e.Has text)
      refine List.pairwise_map.mpr (sorted.imp fun {a b} before => ?_)
      exact (@DomainEntry.suggestedBefore_iff text a b).mp before
  · rw [DomainEntry.suggestion_score, DomainEntry.suggestion_score]
    exact ⟨has.shorter front, DomainEntry.scoreFor_mono front e⟩

end DomainCache

end TableTalk
