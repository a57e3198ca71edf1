import TableTalk.Proofs.Domain.Nearest

namespace TableTalk

namespace DomainEntry

def bare (e : DomainEntry) : DomainEntry :=
  { e with forms := { whole := [], beginnings := [] } }

/-- Two names that are the same but for the order in which their forms are enumerated. -/
structure Reordered (e other : DomainEntry) : Prop where
  bare : other.bare = e.bare
  whole : other.forms.whole.Perm e.forms.whole
  beginnings : other.forms.beginnings.Perm e.forms.beginnings

theorem Reordered.refl (e : DomainEntry) : e.Reordered e :=
  ⟨rfl, .refl _, .refl _⟩

def leadWith (form : String) (e : DomainEntry) : DomainEntry :=
  { e with forms := { whole := form :: e.forms.whole.erase form, beginnings := e.forms.beginnings } }

theorem reordered_leadWith {e : DomainEntry} {form : String} (has : form ∈ e.forms.whole) :
    e.Reordered (e.leadWith form) :=
  ⟨rfl, (List.perm_cons_erase has).symm, .refl _⟩

/-- A name that belongs to a record and whose whole forms, in whatever order, are those of its key. -/
structure IsFormed (e : DomainEntry) : Prop where
  keyed : e.IsKeyed
  usable : DomainSource.isUsableRecord e.recordId = true
  whole : ∀ form, form ∈ e.forms.whole ↔ Variations.IsWhole e.key form

theorem IsMade.isFormed {lengths : PrefixLengths} {e : DomainEntry} (made : e.IsMade lengths) : e.IsFormed where
  keyed := made.keyed
  usable := made.usable
  whole := made.mem_whole

theorem Reordered.isFormed {e other : DomainEntry} (reordered : e.Reordered other) (formed : e.IsFormed) :
    other.IsFormed := by
  have same := reordered.bare
  obtain ⟨key, display, category, table, recordId, forms⟩ := other
  cases same
  exact ⟨formed.keyed, formed.usable, fun form => reordered.whole.mem_iff.trans (formed.whole form)⟩

end DomainEntry

namespace DomainCache

variable {entries : List DomainEntry} {least : Int} {token : String}

def nearForms (least : Int) (token key : String) : List String :=
  ([key, Variations.joined key] ++ (Text.wordsOf key).filter fun word => 2 ≤ word.length).filter (isNear least token)

theorem mem_nearForms {key form : String} :
    form ∈ nearForms least token key ↔ Variations.IsWhole key form ∧ isNear least token form = true := by
  rw [nearForms, List.mem_filter, Variations.mem_wholeForms]

def isShortest (least : Int) (token key form : String) : Bool :=
  (nearForms least token key).contains form &&
    (nearForms least token key).all fun other => form.length ≤ other.length

theorem isShortest_iff {key form : String} : isShortest least token key form = true ↔
    form ∈ nearForms least token key ∧ ∀ other ∈ nearForms least token key, form.length ≤ other.length := by
  simp only [isShortest, Bool.and_eq_true, List.contains_iff_mem, List.all_eq_true, decide_eq_true_eq]

/-- The form that a key is reported with: the first one of its shortest forms in the enumerations of all names. -/
def reported (entries : List DomainEntry) (least : Int) (token key : String) : Option String :=
  (entries.flatMap fun e => e.forms.whole).find? (isShortest least token key)

theorem find?_form (form : String) (e : DomainEntry) (wanted : String → Bool) (forms : List String) :
    (forms.map fun form => (form, e)).find? (fun found => decide (found.1 = form) && wanted found.1) =
      if form ∈ forms ∧ wanted form = true then some (form, e) else none := by
  induction forms with
  | nil => rfl
  | cons first rest ih =>
    rw [List.map_cons]
    by_cases here : first = form ∧ wanted first = true
    · obtain ⟨rfl, want⟩ := here
      rw [List.find?_cons_of_pos (by simp [want]), if_pos ⟨List.mem_cons_self, want⟩]
    · rw [List.find?_cons_of_neg (by simpa using here), ih]
      refine if_congr (and_congr_left fun want => ?_) rfl rfl
      have other : first ≠ form := fun same => here ⟨same, same ▸ want⟩
      rw [List.mem_cons, or_iff_right other.symm]

theorem find?_group (formed : ∀ e ∈ entries, e.IsFormed) {chosen : DomainEntry → Bool} {key : String}
    (keys : ∀ e ∈ entries, chosen e = true → e.key = key) (wanted : String → Bool) (form : String) :
    ((wholeForms entries).filter fun found => found.1 = form).find?
        (fun found => isNear least token found.1 && (chosen found.2 && wanted found.1)) =
      if (nearForms least token key).contains form && wanted form then
        (entries.find? chosen).map fun e => (form, e)
      else none := by
  induction entries with
  | nil => simp [wholeForms]
  | cons e rest ih =>
    obtain ⟨here, there⟩ := List.forall_mem_cons.mp formed
    obtain ⟨same, keys⟩ := List.forall_mem_cons.mp keys
    have first : wholeForms (e :: rest) = e.forms.whole.map (fun form => (form, e)) ++ wholeForms rest := rfl
    have own : ((e.forms.whole.map fun form => (form, e)).filter fun found => found.1 = form).find?
        (fun found => isNear least token found.1 && (chosen found.2 && wanted found.1)) =
          if form ∈ e.forms.whole ∧ (isNear least token form && (chosen e && wanted form)) = true then
            some (form, e) else none := by
      rw [← find?_form form e (fun form => isNear least token form && (chosen e && wanted form)), List.find?_filter,
        List.find?_map, List.find?_map]
      simp only [Function.comp_def, ← Bool.and_eq_decide]
    rw [first, List.filter_append, List.find?_append, own, ih there keys]
    cases pick : chosen e with
    | false => simp [pick]
    | true =>
      have near : form ∈ e.forms.whole ∧ (isNear least token form && (true && wanted form)) = true ↔
          ((nearForms least token key).contains form && wanted form) = true := by
        rw [here.whole, same pick, Bool.true_and, Bool.and_eq_true, Bool.and_eq_true, List.contains_iff_mem,
          mem_nearForms, and_assoc]
      rw [List.find?_cons_of_pos pick, Option.map_some]
      by_cases counts : ((nearForms least token key).contains form && wanted form) = true
      · rw [if_pos (near.mpr counts), if_pos counts, if_pos counts, Option.some_or]
      · rw [if_neg (mt near.mp counts), if_neg counts, if_neg counts, Option.none_or]

theorem find?_findings (formed : ∀ e ∈ entries, e.IsFormed) {chosen : DomainEntry → Bool} {key : String}
    (keys : ∀ e ∈ entries, chosen e = true → e.key = key) (wanted : String → Bool) :
    (findings entries least token).find? (fun found => chosen found.2 && wanted found.1) =
      ((entries.flatMap fun e => e.forms.whole).find? fun form =>
        (nearForms least token key).contains form && wanted form).bind
          fun form => (entries.find? chosen).map fun e => (form, e) := by
  have forms : (wholeForms entries).map Prod.fst = entries.flatMap fun e => e.forms.whole := by
    rw [wholeForms, List.map_flatMap]
    simp only [List.map_map]
    exact List.flatMap_congr fun e _ => List.map_id _
  have choose (forms : List String) (counts : String → Bool) (first : Option DomainEntry) :
      (forms.findSome? fun form => if counts form then first.map fun e => (form, e) else none) =
        (forms.find? counts).bind fun form => first.map fun e => (form, e) := by
    induction forms with
    | nil => rfl
    | cons form rest ih =>
      cases first <;> cases count : counts form <;> simp_all
  rw [findings, List.find?_filter, Assoc.groupBy_eq, List.flatMap_map, List.find?_flatMap, forms]
  simp only [← Bool.and_eq_decide]
  rw [← Assoc.find?_distinct, ← choose]
  congr 1
  funext form
  exact find?_group formed keys wanted form

section Formed

variable {c : DomainCache} (formed : ∀ e ∈ c.entries none, e.IsFormed)

include formed

theorem usable_findings (least : Int) (token : String) : AllUsable (findings (c.entries none) least token) := by
  intro found member
  exact (formed found.2 (mem_findings.mp member).1).usable

theorem find?_sameName (least : Int) (token : String) (e : DomainEntry) :
    (findings (c.entries none) least token).find?
    (fun found => found.2.sameName e && isShortest least token e.key found.1) =
      (reported (c.entries none) least token e.key).bind fun form =>
        ((c.entries none).find? fun other => other.sameName e).map fun other => (form, other) := by
  have keys : ∀ other ∈ c.entries none, other.sameName e = true → other.key = e.key := fun other member same =>
    congrArg (·.2.2) ((DomainEntry.sameName_iff (formed other member).usable e).mp same)
  have near (form : String) : ((nearForms least token e.key).contains form && isShortest least token e.key form) =
      isShortest least token e.key form := by
    rw [isShortest, ← Bool.and_assoc, Bool.and_self]
  rw [find?_findings formed keys]
  simp only [near]
  rfl

theorem find?_ident {e other : DomainEntry} (same : e.ident = other.ident) :
    (c.entries none).find? (fun first => first.sameName e) = (c.entries none).find? fun first => first.sameName other := by
  rw [← List.head?_filter, ← List.head?_filter]
  congr 1
  refine List.filter_congr fun first member => ?_
  have usable := (formed first member).usable
  rw [Bool.eq_iff_iff, DomainEntry.sameName_iff usable, DomainEntry.sameName_iff usable, same]

theorem FirstShortest.find? {p : DomainEntry × String} (first : FirstShortest (findings (c.entries none) least token) p) :
    (findings (c.entries none) least token).find? (fun found => found.2.sameName p.1 &&
      isShortest least token p.1.key found.1) = some (p.2, p.1) := by
  obtain ⟨known, whole, near⟩ := mem_findings.mp first.mem
  have here := formed p.1 known
  have shortest : isShortest least token p.1.key p.2 = true := by
    refine isShortest_iff.mpr ⟨mem_nearForms.mpr ⟨(here.whole p.2).mp whole, near⟩, fun other among => ?_⟩
    obtain ⟨whole', near'⟩ := mem_nearForms.mp among
    exact first.le (other, p.1) (mem_findings.mpr ⟨known, (here.whole other).mpr whole', near'⟩) rfl
  obtain ⟨before, after, split, earlier, _⟩ := first
  refine List.find?_eq_some_iff_append.mpr ⟨?_, before, after, split, fun found member => ?_⟩
  · rw [(DomainEntry.sameName_iff here.usable p.1).mpr rfl, shortest, Bool.and_self]
  · have among : found ∈ findings (c.entries none) least token := split ▸ List.mem_append_left _ member
    rw [Bool.not_eq_true', Bool.and_eq_false_iff]
    by_cases same : found.2.sameName p.1 = true
    · refine Or.inr (Bool.eq_false_iff.mpr fun short => ?_)
      have equal := (DomainEntry.sameName_iff (usable_findings formed least token found among) p.1).mp same
      exact absurd ((isShortest_iff.mp short).2 p.2 (isShortest_iff.mp shortest).1)
        (Nat.not_le_of_lt (earlier found member equal))
    · exact Or.inl (Bool.eq_false_iff.mpr same)

/-- The names that are near a token are the first ones of those that are the same, and a name is reported with the
first one of its shortest forms in the enumerations of all names. -/
theorem mem_nearest_iff {p : DomainEntry × String} : p ∈ c.nearest least token ↔
    ((c.entries none).find? fun e => e.sameName p.1) = some p.1 ∧
      reported (c.entries none) least token p.1.key = some p.2 := by
  have keeps := keeps_nearest (fun e member => (formed e member).usable) least token
  have reports : ∀ p ∈ c.nearest least token, ((c.entries none).find? fun e => e.sameName p.1) = some p.1 ∧
      reported (c.entries none) least token p.1.key = some p.2 := by
    intro p member
    have found := (keeps.shortest p member).find? formed
    rw [find?_sameName formed] at found
    obtain ⟨form, reports, named⟩ := Option.bind_eq_some_iff.mp found
    obtain ⟨e, first, pair⟩ := Option.map_eq_some_iff.mp named
    cases pair
    exact ⟨first, reports⟩
  refine ⟨reports p, fun ⟨first, shown⟩ => ?_⟩
  have found := find?_sameName formed least token p.1
  rw [first, shown, Option.bind_some, Option.map_some] at found
  obtain ⟨q, member, same⟩ := keeps.covers (p.2, p.1) (List.mem_of_find?_eq_some found)
  obtain ⟨first', shown'⟩ := reports q member
  rw [find?_ident formed same, first] at first'
  rw [show q.1.key = p.1.key from congrArg (·.2.2) same, shown] at shown'
  exact Prod.ext (Option.some_inj.mp first') (Option.some_inj.mp shown') ▸ member

end Formed

structure Leads (entries : List DomainEntry) (a b : DomainEntry) : Prop where
  apart : a.ident ≠ b.ident
  first : ∃ e, (entries.find? fun e => e.sameName a || e.sameName b) = some e ∧ e.ident = a.ident

theorem Leads.asymm {a b : DomainEntry} (leads : Leads entries a b) : ¬ Leads entries b a := by
  intro other
  obtain ⟨e, first, same⟩ := leads.first
  obtain ⟨e', first', same'⟩ := other.first
  have swapped : (fun e : DomainEntry => e.sameName b || e.sameName a) = fun e => e.sameName a || e.sameName b :=
    funext fun e => Bool.or_comm _ _
  rw [swapped, first] at first'
  exact leads.apart (same.symm.trans ((Option.some_inj.mp first') ▸ same'))

/-- The order in which names near a token are shown; the names with one text stand as they do in the cache. -/
def Precedes (entries : List DomainEntry) (a b : DomainEntry × String) : Prop :=
  a.2.length < b.2.length ∨ a.2.length = b.2.length ∧
    (a.1.display < b.1.display ∨ a.1.display = b.1.display ∧ Leads entries a.1 b.1)

theorem Precedes.asymm {a b : DomainEntry × String} (before : Precedes entries a b) : ¬ Precedes entries b a := by
  rcases before with shorter | ⟨same, before⟩
  · rintro (longer | ⟨same, _⟩) <;> omega
  · rintro (longer | ⟨_, after⟩)
    · omega
    · rcases before with less | ⟨equal, leads⟩ <;> rcases after with more | ⟨equal', leads'⟩
      · exact String.lt_asymm less more
      · exact String.lt_irrefl _ (equal' ▸ less)
      · exact String.lt_irrefl _ (equal ▸ more)
      · exact leads.asymm leads'

section Formed

variable {c : DomainCache} (formed : ∀ e ∈ c.entries none, e.IsFormed)

include formed

theorem leads_of_place {a b : DomainEntry} (keys : a.key = b.key)
    (before : place (findings (c.entries none) least token) a < place (findings (c.entries none) least token) b)
    (met : place (findings (c.entries none) least token) a < (findings (c.entries none) least token).length) :
    Leads (c.entries none) a b := by
  have usable := usable_findings formed least token
  have named : (findings (c.entries none) least token)[place _ a].2.sameName a = true := List.findIdx_getElem (w := met)
  have first : (findings (c.entries none) least token).find?
      (fun found => (found.2.sameName a || found.2.sameName b) && true) =
        some (findings (c.entries none) least token)[place _ a] := by
    refine List.find?_eq_some_iff_getElem.mpr ⟨by rw [named]; rfl, _, met, rfl, fun i earlier => ?_⟩
    have notA := List.not_of_lt_findIdx earlier
    have notB := List.not_of_lt_findIdx (Nat.lt_trans earlier before)
    rw [notA, notB]
    rfl
  have alike : ∀ e ∈ c.entries none, (e.sameName a || e.sameName b) = true → e.key = a.key := by
    intro e member either
    have usable := (formed e member).usable
    rcases Bool.or_eq_true_iff.mp either with same | same
    · exact congrArg (·.2.2) ((DomainEntry.sameName_iff usable a).mp same)
    · exact (congrArg (·.2.2) ((DomainEntry.sameName_iff usable b).mp same)).trans keys.symm
  rw [find?_findings formed alike (fun _ => true)] at first
  obtain ⟨form, _, found⟩ := Option.bind_eq_some_iff.mp first
  obtain ⟨e, leads, pair⟩ := Option.map_eq_some_iff.mp found
  refine ⟨fun same => Nat.ne_of_lt before (place_congr usable same), e, leads, ?_⟩
  have same := (DomainEntry.sameName_iff (usable _ (List.getElem_mem met)) a).mp named
  rwa [← pair] at same

theorem near_precedes (token : String) (least : Int) :
    (c.near token least).Pairwise (Precedes (c.entries none)) := by
  have keeps := keeps_nearest (fun e member => (formed e member).usable) least (Text.lower token)
  have usable := usable_findings formed least (Text.lower token)
  have placed : (c.nearest least (Text.lower token)).Pairwise fun a b =>
      a.1.display = b.1.display → Leads (c.entries none) a.1 b.1 := by
    refine keeps.ordered.imp_of_mem fun {a b} memberA memberB before same => ?_
    have known := fun p member => formed p.1 (mem_findings.mp (keeps.shortest p member).mem).1
    refine leads_of_place formed ?_ before (place_lt usable (keeps.shortest a memberA).mem rfl)
    rw [(known a memberA).keyed, (known b memberB).keyed, same]
  refine (Sorting.pairwise_stable nearOrder_trans nearOrder_total placed).imp fun {a b} ⟨first, tie⟩ => ?_
  rcases nearOrder_iff.mp first with shorter | ⟨same, before⟩
  · exact Or.inl shorter
  · refine Or.inr ⟨same, ?_⟩
    by_cases after : b.1.display ≤ a.1.display
    · exact Or.inr ⟨String.le_antisymm before after, tie (nearOrder_iff.mpr (Or.inr ⟨same.symm, after⟩))
        (String.le_antisymm before after)⟩
    · exact Or.inl (String.not_le.mp after)

end Formed

/-- Two caches with the same names, whose forms are enumerated in any orders. -/
def Reordered (c other : DomainCache) : Prop :=
  List.Forall₂ DomainEntry.Reordered (c.entries none) (other.entries none)

def shownNear (c : DomainCache) (token : String) (least : Int) : List (DomainEntry × String) :=
  (c.near token least).map fun p => (p.1.bare, p.2)

/-- A cache is one of its own enumerations. -/
theorem Reordered.refl (c : DomainCache) : c.Reordered c :=
  List.forall₂_same.mpr fun e _ => .refl e

theorem entries_single (category : String) (entries : List DomainEntry) :
    DomainCache.entries { byCategory := [(category, entries)] } none = entries :=
  List.append_nil _

theorem bare_of_reordered {others : List DomainEntry} (reordered : List.Forall₂ DomainEntry.Reordered entries others) :
    others.map DomainEntry.bare = entries.map DomainEntry.bare := by
  induction reordered with
  | nil => rfl
  | cons first _ ih => rw [List.map_cons, List.map_cons, first.bare, ih]

theorem formed_of_reordered {others : List DomainEntry} (reordered : List.Forall₂ DomainEntry.Reordered entries others)
    (formed : ∀ e ∈ entries, e.IsFormed) : ∀ e ∈ others, e.IsFormed := by
  induction reordered with
  | nil => exact nofun
  | cons first _ ih =>
    obtain ⟨here, there⟩ := List.forall_mem_cons.mp formed
    exact List.forall_mem_cons.mpr ⟨first.isFormed here, ih there⟩

theorem reordered_replace {e other : DomainEntry} (reordered : e.Reordered other) (before after : List DomainEntry) :
    List.Forall₂ DomainEntry.Reordered (before ++ e :: after) (before ++ other :: after) := by
  induction before with
  | nil => exact .cons reordered (List.forall₂_same.mpr fun e _ => .refl e)
  | cons first _ ih => exact .cons (.refl first) ih

theorem find?_reordered {others : List DomainEntry} (reordered : List.Forall₂ DomainEntry.Reordered entries others)
    {wanted : String → Bool}
    (single : ∀ e, (entries.find? fun e => e.forms.whole.any wanted) = some e →
      ∀ form ∈ e.forms.whole, ∀ other ∈ e.forms.whole, wanted form = true → wanted other = true → form = other) :
    (others.flatMap fun e => e.forms.whole).find? wanted = (entries.flatMap fun e => e.forms.whole).find? wanted := by
  induction reordered with
  | nil => rfl
  | @cons e other rest others first _ ih =>
    rw [List.flatMap_cons, List.flatMap_cons, List.find?_append, List.find?_append]
    cases found : e.forms.whole.find? wanted with
    | some form =>
      have member := List.mem_of_find?_eq_some found
      have want := List.find?_some found
      have some' : other.forms.whole.find? wanted ≠ none := fun none =>
        List.find?_eq_none.mp none form (first.whole.mem_iff.mpr member) want
      obtain ⟨form', found'⟩ := Option.ne_none_iff_exists'.mp some'
      have here : ((e :: rest).find? fun e => e.forms.whole.any wanted) = some e :=
        List.find?_cons_of_pos (List.any_eq_true.mpr ⟨form, member, want⟩)
      have same := single e here form' (first.whole.mem_iff.mp (List.mem_of_find?_eq_some found')) form member
        (List.find?_some found') want
      rw [found', same, Option.some_or, Option.some_or]
    | none =>
      have absent := List.find?_eq_none.mp found
      have none' : other.forms.whole.find? wanted = none :=
        List.find?_eq_none.mpr fun form member => absent form (first.whole.mem_iff.mp member)
      have skip : ¬ (e.forms.whole.any wanted) = true := fun any => by
        obtain ⟨form, member, want⟩ := List.any_eq_true.mp any
        exact absent form member want
      rw [none', Option.none_or, Option.none_or]
      refine ih fun named later => single named ?_
      exact (List.find?_cons_of_neg (p := fun e : DomainEntry => e.forms.whole.any wanted) skip).trans later

theorem reordered_leading {c : DomainCache} {form : String} (has : ∀ e ∈ c.entries none, form ∈ e.forms.whole)
    (category : String) :
    c.Reordered { byCategory := [(category, (c.entries none).map (DomainEntry.leadWith form))] } := by
  unfold Reordered
  rw [entries_single, List.forall₂_map_right_iff, List.forall₂_same]
  exact fun e member => DomainEntry.reordered_leadWith (has e member)

def personSources : List DomainSource :=
  [{ category := "person", table := "people", valueColumns := ["name"] }]

def personStore : Store :=
  { contents := .memory [("people", recordFrame 1 "Jack Diaz")] }

/-- After any calls, and in whatever order the forms are enumerated, the names near a token are those with a whole form
near it, each of them once, with a shortest one of these forms, sorted by the lengths of the forms and then by their
texts. Beginnings of words never count. -/
theorem calls_near (o : CacheOptions) (sources : List DomainSource) (steps : List (LoadCall × Store)) (token : String)
    (least : Nat) (other : DomainCache) (reordered : (calls sources { options := o } steps).Reordered other) :
    let Matches (e : DomainEntry) (form : String) : Prop :=
      Variations.IsWhole e.key form ∧ IsNear least (Text.lower token) form
    let found := other.near token least
    (∀ p ∈ found, p.1 ∈ other.entries none ∧ Matches p.1 p.2 ∧ ∀ form, Matches p.1 form → p.2.length ≤ form.length) ∧
    (∀ e ∈ other.entries none, (∃ form, Matches e form) → found.countP (fun p => e.sameName p.1) = 1) ∧
    (∀ e ∈ other.entries none, (¬ ∃ form, Matches e form) → found.countP (fun p => e.sameName p.1) = 0) ∧
    found.Pairwise fun a b =>
      a.2.length < b.2.length ∨ a.2.length = b.2.length ∧ a.1.display ≤ b.1.display := by
  intro Matches found
  have formed : ∀ e ∈ other.entries none, e.IsFormed :=
    formed_of_reordered reordered fun e member => (calls_made sources o steps e member).isFormed
  let met := findings (other.entries none) least (Text.lower token)
  have keeps : Keeps met (other.nearest least (Text.lower token)) :=
    keeps_nearest (fun e member => (formed e member).usable) least (Text.lower token)
  have usable : AllUsable met := usable_findings formed least (Text.lower token)
  have kept : found.Perm (other.nearest least (Text.lower token)) := List.mergeSort_perm _ _
  have meets (e : DomainEntry) (form : String) : (form, e) ∈ met ↔ e ∈ other.entries none ∧ Matches e form := by
    rw [mem_findings, isNear_iff]
    exact and_congr_right fun known => and_congr_left fun _ => (formed e known).whole form
  have sound : ∀ p ∈ found, p.1 ∈ other.entries none ∧ Matches p.1 p.2 ∧
      ∀ form, Matches p.1 form → p.2.length ≤ form.length := by
    intro p member
    have first := keeps.shortest p (kept.mem_iff.mp member)
    obtain ⟨known, matching⟩ := (meets p.1 p.2).mp first.mem
    exact ⟨known, matching, fun form other => first.le (form, p.1) ((meets p.1 form).mpr ⟨known, other⟩) rfl⟩
  refine ⟨sound, fun e known ⟨form, matching⟩ => ?_, fun e known none => ?_, ?_⟩
  · rw [kept.countP_eq]
    exact keeps.single usable ((meets e form).mpr ⟨known, matching⟩)
  · rw [List.countP_eq_zero]
    intro p member same
    have key : e.key = p.1.key := congrArg (·.2.2) ((DomainEntry.sameName_iff (formed e known).usable _).mp same)
    obtain ⟨whole, near⟩ := (sound p member).2.1
    exact none ⟨p.2, key ▸ whole, near⟩
  · exact (other.near_sorted token least).imp nearOrder_iff.mp

theorem near_either_enumeration :
    let c := calls personSources {} [(.ensureLoaded, personStore)]
    let other : DomainCache := { byCategory := [("person", (c.entries none).map (DomainEntry.leadWith "diaz"))] }
    (c.Reordered c ∧ c.Reordered other) ∧
      (∀ e ∈ c.entries none, (c.near "diazjack" 4).countP (fun p => e.sameName p.1) = 1) ∧
      ∀ e ∈ other.entries none, (other.near "diazjack" 4).countP (fun p => e.sameName p.1) = 1 := by
  intro c other
  have same : c.Reordered c := .refl c
  have leading : c.Reordered other := reordered_leading (by decide +kernel) "person"
  have whole : Variations.IsWhole "jack diaz" "diaz" := Or.inr (Or.inr (by decide +kernel))
  have near : IsNear 4 (Text.lower "diazjack") "diaz" := isNear_iff.mp (by decide +kernel)
  have once (cache : DomainCache) (reordered : c.Reordered cache) (keys : ∀ e ∈ cache.entries none, e.key = "jack diaz") :
      ∀ e ∈ cache.entries none, (cache.near "diazjack" 4).countP (fun p => e.sameName p.1) = 1 := by
    obtain ⟨_, single, _, _⟩ :=
      calls_near {} personSources [(.ensureLoaded, personStore)] "diazjack" 4 cache reordered
    refine fun e known => single e known ⟨"diaz", ?_, near⟩
    rw [keys e known]
    exact whole
  exact ⟨⟨same, leading⟩, once c same (by decide +kernel), once other leading (by decide +kernel)⟩

section Formed

variable {c other : DomainCache} (formed : ∀ e ∈ c.entries none, e.IsFormed)

include formed

theorem shownNear_precedes (token : String) (least : Int) :
    (c.shownNear token least).Pairwise (Precedes ((c.entries none).map DomainEntry.bare)) := by
  refine List.pairwise_map.mpr ((near_precedes formed token least).imp fun {a b} before => ?_)
  refine before.imp_right (And.imp_right (Or.imp_right (And.imp_right fun leads => ⟨leads.apart, ?_⟩)))
  obtain ⟨e, first, same⟩ := leads.first
  exact ⟨e.bare, by rw [List.find?_map]; exact congrArg (Option.map DomainEntry.bare) first, same⟩

theorem mem_shownNear_iff {p : DomainEntry × String} : p ∈ c.shownNear token least ↔
    (((c.entries none).map DomainEntry.bare).find? fun e => e.sameName p.1) = some p.1 ∧
      reported (c.entries none) least (Text.lower token) p.1.key = some p.2 := by
  rw [shownNear, List.mem_map, List.find?_map]
  constructor
  · rintro ⟨q, member, rfl⟩
    obtain ⟨first, reports⟩ := (mem_nearest_iff formed).mp (List.mem_mergeSort.mp member)
    exact ⟨congrArg (Option.map DomainEntry.bare) first, reports⟩
  · obtain ⟨x, form⟩ := p
    rintro ⟨first, reports⟩
    obtain ⟨e, found, rfl⟩ := Option.map_eq_some_iff.mp first
    exact ⟨(e, form), List.mem_mergeSort.mpr ((mem_nearest_iff formed).mpr ⟨found, reports⟩), rfl⟩

theorem shownNear_nodup (token : String) (least : Int) : (c.shownNear token least).Nodup :=
  (shownNear_precedes formed token least).imp fun before same => (same ▸ before).asymm (same ▸ before)

theorem shownNear_congr (formed' : ∀ e ∈ other.entries none, e.IsFormed)
    (bare : (other.entries none).map DomainEntry.bare = (c.entries none).map DomainEntry.bare)
    (reports : ∀ e ∈ c.entries none, ((c.entries none).find? fun first => first.sameName e) = some e →
      reported (other.entries none) least (Text.lower token) e.key =
        reported (c.entries none) least (Text.lower token) e.key) :
    other.shownNear token least = c.shownNear token least := by
  have sorted := shownNear_precedes formed' token least
  rw [bare] at sorted
  refine List.Perm.eq_of_pairwise (fun _ _ _ _ before after => absurd after before.asymm) sorted
    (shownNear_precedes formed token least) ?_
  refine (List.perm_ext_iff_of_nodup (shownNear_nodup formed' token least) (shownNear_nodup formed token least)).mpr ?_
  intro p
  rw [mem_shownNear_iff formed, mem_shownNear_iff formed', bare]
  refine and_congr_right fun first => ?_
  obtain ⟨x, form⟩ := p
  rw [List.find?_map] at first
  obtain ⟨e, found, rfl⟩ := Option.map_eq_some_iff.mp first
  have same := reports e (List.mem_of_find?_eq_some found) found
  exact iff_of_eq (congrArg (· = some form) same)

theorem shownNear_reordered_iff (token : String) (least : Int) :
    (∀ other : DomainCache, c.Reordered other → other.shownNear token least = c.shownNear token least) ↔
      ∀ p ∈ c.near token least, ∀ e,
        ((c.entries none).find? fun e => e.forms.whole.any (isShortest least (Text.lower token) p.1.key)) = some e →
          ∀ form ∈ e.forms.whole, isShortest least (Text.lower token) p.1.key form = true → form = p.2 := by
  constructor
  · intro same p member e owner form has shortest
    obtain ⟨_, before, after, split, skipped⟩ := List.find?_eq_some_iff_append.mp owner
    let other : DomainCache := { byCategory := [("", before ++ e.leadWith form :: after)] }
    have entries : other.entries none = before ++ e.leadWith form :: after := entries_single _ _
    have reordered : c.Reordered other := by
      rw [Reordered, entries, split]
      exact reordered_replace (DomainEntry.reordered_leadWith has) before after
    have shown : (p.1.bare, p.2) ∈ other.shownNear token least := same other reordered ▸ List.mem_map_of_mem member
    have reports := ((mem_shownNear_iff (formed_of_reordered reordered formed)).mp shown).2
    have absent : (before.flatMap fun e => e.forms.whole).find? (isShortest least (Text.lower token) p.1.key) =
        none := by
      refine List.find?_eq_none.mpr fun form inside wanted => ?_
      obtain ⟨e, among, has⟩ := List.mem_flatMap.mp inside
      have any : e.forms.whole.any (isShortest least (Text.lower token) p.1.key) = true :=
        List.any_eq_true.mpr ⟨form, has, wanted⟩
      simpa [any] using skipped e among
    have first : reported (other.entries none) least (Text.lower token) p.1.key = some form := by
      rw [reported, entries, List.flatMap_append, List.flatMap_cons, List.find?_append, absent, Option.none_or]
      exact List.find?_cons_of_pos shortest
    exact Option.some_inj.mp (first.symm.trans reports)
  · intro single other reordered
    refine shownNear_congr formed (formed_of_reordered reordered formed) (bare_of_reordered reordered) ?_
    intro e known first
    refine find?_reordered reordered fun owner owns form has form' has' shortest shortest' => ?_
    have some' : reported (c.entries none) least (Text.lower token) e.key ≠ Option.none := fun none =>
      List.find?_eq_none.mp none form
        (List.mem_flatMap.mpr ⟨owner, List.mem_of_find?_eq_some owns, has⟩) shortest
    obtain ⟨shown, reports⟩ := Option.ne_none_iff_exists'.mp some'
    have near : (e, shown) ∈ c.near token least :=
      List.mem_mergeSort.mpr ((mem_nearest_iff formed).mpr ⟨first, reports⟩)
    rw [single _ near owner owns form has shortest, single _ near owner owns form' has' shortest']

end Formed

/-- Of a loaded cache the names near a token and the forms that they are reported with are the same in all
enumerations of the forms exactly if no choice is left: for each name the first one that has any of its shortest near
forms has only the one reported. -/
theorem calls_reordered_iff (o : CacheOptions) (sources : List DomainSource) (steps : List (LoadCall × Store))
    (token : String) (least : Int) :
    let c := calls sources { options := o } steps
    (∀ other : DomainCache, c.Reordered other → other.shownNear token least = c.shownNear token least) ↔
      ∀ p ∈ c.near token least, ∀ e,
        ((c.entries none).find? fun e => e.forms.whole.any (isShortest least (Text.lower token) p.1.key)) = some e →
          ∀ form ∈ e.forms.whole, isShortest least (Text.lower token) p.1.key form = true → form = p.2 :=
  shownNear_reordered_iff (fun e member => (calls_made sources o steps e member).isFormed) token least

/-- A name with two near forms of one length is reported with the one or the other. -/
theorem near_forms_tied :
    let c := calls personSources {} [(.ensureLoaded, personStore)]
    let other : DomainCache := { byCategory := [("person", (c.entries none).map (DomainEntry.leadWith "diaz"))] }
    c.Reordered other ∧ (c.near "diazjack" defaultNearLength).map Prod.snd = ["jack"] ∧
      (other.near "diazjack" defaultNearLength).map Prod.snd = ["diaz"] := by
  intro c other
  refine ⟨reordered_leading (by decide +kernel) "person", ?_, ?_⟩
  · decide +kernel
  · decide +kernel

end DomainCache

end TableTalk
