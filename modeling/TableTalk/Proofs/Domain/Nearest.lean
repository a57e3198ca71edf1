import TableTalk.Proofs.Domain.Views
import TableTalk.Proofs.Sorting
import TableTalk.Proofs.Sql.Comparing
import TableTalk.Proofs.Value

namespace TableTalk

namespace DomainEntry

/-- What a name is the same by: its category, what its record stands for, and its key. -/
def ident (e : DomainEntry) : String × Value.Identity × String :=
  (e.category, e.recordId.identity, e.key)

theorem sameName_iff {e : DomainEntry} (usable : DomainSource.isUsableRecord e.recordId = true)
    (other : DomainEntry) : e.sameName other = true ↔ e.ident = other.ident := by
  rw [sameName, sameRecord, Bool.and_eq_true, Bool.and_eq_true, beq_iff_eq, beq_iff_eq, Value.sameKey_iff usable,
    ident, ident, Prod.mk.injEq, Prod.mk.injEq, and_assoc]

end DomainEntry

namespace DomainCache

def wholeForms (entries : List DomainEntry) : List (String × DomainEntry) :=
  entries.flatMap fun e => e.forms.whole.map fun form => (form, e)

theorem mem_wholeForms {entries : List DomainEntry} {found : String × DomainEntry} :
    found ∈ wholeForms entries ↔ found.2 ∈ entries ∧ found.1 ∈ found.2.forms.whole := by
  simp only [wholeForms, List.mem_flatMap, List.mem_map]
  constructor
  · rintro ⟨e, known, form, whole, rfl⟩
    exact ⟨known, whole⟩
  · rintro ⟨known, whole⟩
    exact ⟨found.2, known, found.1, whole, rfl⟩

theorem of_byWhole (entries : List DomainEntry) : (NameIndex.of entries).byWhole =
    (Assoc.groupBy Prod.fst (wholeForms entries)).map fun group => (group.1, group.2.map Prod.snd) := by
  suffices run : ∀ index : NameIndex, (entries.foldl NameIndex.add index).byWhole =
      (wholeForms entries).foldl (fun groups found => Assoc.addTo found.1 found.2 groups) index.byWhole by
    exact (run {}).trans (Assoc.foldl_addTo (wholeForms entries))
  induction entries with
  | nil => exact fun _ => rfl
  | cons e rest ih =>
    intro index
    have first : wholeForms (e :: rest) = e.forms.whole.map (fun form => (form, e)) ++ wholeForms rest := rfl
    rw [List.foldl_cons, ih, first, List.foldl_append, List.foldl_map]
    rfl

/-- The whole forms near a token with their names, in the order in which they are met: one form after the other, each
with all its names. -/
def findings (entries : List DomainEntry) (least : Int) (token : String) : List (String × DomainEntry) :=
  ((Assoc.groupBy Prod.fst (wholeForms entries)).flatMap Prod.snd).filter fun found => isNear least token found.1

theorem mem_findings {entries : List DomainEntry} {least : Int} {token : String} {found : String × DomainEntry} :
    found ∈ findings entries least token ↔
      found.2 ∈ entries ∧ found.1 ∈ found.2.forms.whole ∧ isNear least token found.1 = true := by
  rw [findings, List.mem_filter, (Assoc.groupBy_perm _ _).mem_iff, mem_wholeForms, and_assoc]

def keep (kept : List (DomainEntry × String)) (found : String × DomainEntry) : List (DomainEntry × String) :=
  keepShorter found.1 found.2 kept

theorem nearest_eq (c : DomainCache) (least : Int) (token : String) :
    c.nearest least token = (findings (c.entries none) least token).foldl keep [] := by
  have run : ∀ (groups : List (String × List (String × DomainEntry))) (kept : List (DomainEntry × String)),
      (∀ group ∈ groups, ∀ found ∈ group.2, found.1 = group.1) →
        groups.foldl (fun kept group => (group.2.map Prod.snd).foldl
          (fun kept e => keepShorter group.1 e kept) kept) kept =
            (groups.flatMap Prod.snd).foldl keep kept := by
    intro groups
    induction groups with
    | nil => exact fun _ _ => rfl
    | cons group rest ih =>
      intro kept alike
      obtain ⟨here, there⟩ := List.forall_mem_cons.mp alike
      have inner : (group.2.map Prod.snd).foldl (fun kept e => keepShorter group.1 e kept) kept =
          group.2.foldl keep kept := by
        rw [List.foldl_map]
        refine List.foldl_ext _ _ _ fun kept found inside => ?_
        rw [keep, here found inside]
      rw [List.foldl_cons, List.flatMap_cons, List.foldl_append, inner, ih _ there]
  rw [nearest, index_eq, of_byWhole, List.filter_map, List.foldl_map, findings,
    ← Assoc.filter_groupBy Prod.fst (isNear least token)]
  refine run _ [] fun group member found inside => ?_
  rw [(Assoc.mem_groupBy.mp (List.mem_filter.mp member).1).2] at inside
  exact of_decide_eq_true (List.mem_filter.mp inside).2

theorem mem_keep {kept : List (DomainEntry × String)} {found : String × DomainEntry} {p : DomainEntry × String}
    (member : p ∈ keep kept found) : p = (found.2, found.1) ∨ p ∈ kept := by
  unfold keep at member
  induction kept with
  | nil => exact Or.inl (List.mem_singleton.mp member)
  | cons first rest ih =>
    rw [keepShorter] at member
    split at member
    · rcases List.mem_cons.mp member with here | behind
      · split at here
        · exact Or.inl here
        · exact Or.inr (here ▸ List.mem_cons_self)
      · exact Or.inr (List.mem_cons_of_mem _ behind)
    · rcases List.mem_cons.mp member with here | behind
      · exact Or.inr (here ▸ List.mem_cons_self)
      · exact (ih behind).imp_right (List.mem_cons_of_mem _)

theorem mem_foldl_keep {met : List (String × DomainEntry)} {kept : List (DomainEntry × String)}
    {p : DomainEntry × String} (member : p ∈ met.foldl keep kept) : (p.2, p.1) ∈ met ∨ p ∈ kept := by
  induction met generalizing kept with
  | nil => exact Or.inr member
  | cons found rest ih =>
    rcases ih member with later | before
    · exact Or.inl (List.mem_cons_of_mem _ later)
    · rcases mem_keep before with rfl | old
      · exact Or.inl List.mem_cons_self
      · exact Or.inr old

theorem mem_near {c : DomainCache} {token : String} {least : Int} {found : DomainEntry × String}
    (near : found ∈ c.near token least) : found.1 ∈ c.entries none ∧ found.2 ∈ found.1.forms.whole := by
  have kept := List.mem_mergeSort.mp near
  rw [nearest_eq] at kept
  obtain ⟨known, whole, _⟩ := mem_findings.mp ((mem_foldl_keep kept).resolve_right List.not_mem_nil)
  exact ⟨known, whole⟩

def place (met : List (String × DomainEntry)) (e : DomainEntry) : Nat :=
  met.findIdx fun found => found.2.sameName e

/-- A form is the first one of the shortest forms under which its name is met. -/
def FirstShortest (met : List (String × DomainEntry)) (p : DomainEntry × String) : Prop :=
  ∃ before after, met = before ++ (p.2, p.1) :: after ∧
    (∀ found ∈ before, found.2.ident = p.1.ident → p.2.length < found.1.length) ∧
    ∀ found ∈ after, found.2.ident = p.1.ident → p.2.length ≤ found.1.length

/-- What is kept of the forms met so far: every name once, with the first one of its shortest forms, in the order in
which the names are met. -/
structure Keeps (met : List (String × DomainEntry)) (kept : List (DomainEntry × String)) : Prop where
  shortest : ∀ p ∈ kept, FirstShortest met p
  covers : ∀ found ∈ met, ∃ p ∈ kept, p.1.ident = found.2.ident
  ordered : kept.Pairwise fun a b => place met a.1 < place met b.1

theorem keep_cases {found : String × DomainEntry} (usable : DomainSource.isUsableRecord found.2.recordId = true)
    (kept : List (DomainEntry × String)) :
    (∀ p ∈ kept, p.1.ident ≠ found.2.ident) ∧ keep kept found = kept ++ [(found.2, found.1)] ∨
      ∃ front p back, kept = front ++ p :: back ∧ p.1.ident = found.2.ident ∧
        keep kept found = front ++ (if found.1.length < p.2.length then (found.2, found.1) else p) :: back := by
  obtain ⟨form, e⟩ := found
  unfold keep
  induction kept with
  | nil => exact Or.inl ⟨nofun, rfl⟩
  | cons first rest ih =>
    rw [keepShorter]
    split
    · rename_i same
      exact Or.inr ⟨[], first, rest, rfl, ((DomainEntry.sameName_iff usable _).mp same).symm, rfl⟩
    · rename_i other
      rcases ih with ⟨new, added⟩ | ⟨front, p, back, rfl, same, compared⟩
      · refine Or.inl ⟨List.forall_mem_cons.mpr ⟨fun same => other ?_, new⟩, by rw [added, List.cons_append]⟩
        exact (DomainEntry.sameName_iff usable _).mpr same.symm
      · exact Or.inr ⟨first :: front, p, back, rfl, same, by rw [compared, List.cons_append]⟩

section Met

variable {met : List (String × DomainEntry)} {found : String × DomainEntry}

def AllUsable (met : List (String × DomainEntry)) : Prop :=
  ∀ found ∈ met, DomainSource.isUsableRecord found.2.recordId = true

theorem place_congr (usable : AllUsable met) {e other : DomainEntry} (same : e.ident = other.ident) :
    place met e = place met other := by
  induction met with
  | nil => rfl
  | cons first rest ih =>
    obtain ⟨here, there⟩ := List.forall_mem_cons.mp usable
    have agree : first.2.sameName e = first.2.sameName other := by
      rw [Bool.eq_iff_iff, DomainEntry.sameName_iff here, DomainEntry.sameName_iff here, same]
    have later := ih there
    rw [place, place] at later
    rw [place, place, List.findIdx_cons, List.findIdx_cons, agree, later]

theorem place_lt (usable : AllUsable met) {e : DomainEntry} {first : String × DomainEntry} (member : first ∈ met)
    (same : first.2.ident = e.ident) : place met e < met.length :=
  List.findIdx_lt_length_of_exists ⟨first, member, (DomainEntry.sameName_iff (usable first member) _).mpr same⟩

theorem place_append {e : DomainEntry} (before : place met e < met.length) :
    place (met ++ [found]) e = place met e := by
  rw [place, place, List.findIdx_append]
  exact if_pos before

theorem place_new (usable : AllUsable met) (new : ∀ other ∈ met, other.2.ident ≠ found.2.ident)
    (here : DomainSource.isUsableRecord found.2.recordId = true) :
    place (met ++ [found]) found.2 = met.length := by
  have none : met.findIdx (fun other => other.2.sameName found.2) = met.length :=
    List.findIdx_eq_length.mpr fun other member => Bool.eq_false_iff.mpr fun same =>
      new other member ((DomainEntry.sameName_iff (usable other member) _).mp same)
  have found : found.2.sameName found.2 = true := (DomainEntry.sameName_iff here _).mpr rfl
  rw [place, List.findIdx_append, none, if_neg (Nat.lt_irrefl _), List.findIdx_cons, found]
  simp

theorem FirstShortest.mem {p : DomainEntry × String} (first : FirstShortest met p) : (p.2, p.1) ∈ met := by
  obtain ⟨before, after, rfl, _, _⟩ := first
  exact List.mem_append_right _ List.mem_cons_self

theorem FirstShortest.le {p : DomainEntry × String} (first : FirstShortest met p) :
    ∀ found ∈ met, found.2.ident = p.1.ident → p.2.length ≤ found.1.length := by
  obtain ⟨before, after, rfl, earlier, later⟩ := first
  intro found member same
  rcases List.mem_append.mp member with front | back
  · exact Nat.le_of_lt (earlier found front same)
  · rcases List.mem_cons.mp back with rfl | back
    · exact Nat.le_refl _
    · exact later found back same

theorem FirstShortest.append {p : DomainEntry × String} (first : FirstShortest met p)
    (longer : found.2.ident = p.1.ident → p.2.length ≤ found.1.length) : FirstShortest (met ++ [found]) p := by
  obtain ⟨before, after, rfl, earlier, later⟩ := first
  refine ⟨before, after ++ [found], by rw [List.append_assoc, List.cons_append], earlier, ?_⟩
  refine List.forall_mem_append.mpr ⟨later, fun other single => ?_⟩
  rw [List.mem_singleton.mp single]
  exact longer

theorem FirstShortest.last (shorter : ∀ other ∈ met, other.2.ident = found.2.ident → found.1.length < other.1.length) :
    FirstShortest (met ++ [found]) (found.2, found.1) :=
  ⟨met, [], rfl, shorter, nofun⟩

end Met

section Step

variable {met : List (String × DomainEntry)} {kept : List (DomainEntry × String)} {found : String × DomainEntry}

theorem Keeps.stays (keeps : Keeps met kept) (usable : AllUsable met) (found : String × DomainEntry) :
    ∀ p ∈ kept, place (met ++ [found]) p.1 = place met p.1 ∧ place met p.1 < met.length := fun p member =>
  have before := place_lt usable (keeps.shortest p member).mem rfl
  ⟨place_append before, before⟩

theorem Keeps.places (keeps : Keeps met kept) (usable : AllUsable met) (found : String × DomainEntry) :
    kept.Pairwise fun a b => place (met ++ [found]) a.1 < place (met ++ [found]) b.1 := by
  refine keeps.ordered.imp_of_mem fun memberA memberB before => ?_
  rwa [(keeps.stays usable found _ memberA).1, (keeps.stays usable found _ memberB).1]

theorem Keeps.add (keeps : Keeps met kept) (usable : AllUsable met)
    (here : DomainSource.isUsableRecord found.2.recordId = true) (new : ∀ p ∈ kept, p.1.ident ≠ found.2.ident) :
    Keeps (met ++ [found]) (kept ++ [(found.2, found.1)]) := by
  have unmet : ∀ other ∈ met, other.2.ident ≠ found.2.ident := by
    intro other member same
    obtain ⟨p, among, equal⟩ := keeps.covers other member
    exact new p among (equal.trans same)
  refine ⟨List.forall_mem_append.mpr ⟨fun p member => ?_, ?_⟩, List.forall_mem_append.mpr ⟨?_, ?_⟩, ?_⟩
  · exact (keeps.shortest p member).append fun same => absurd same.symm (new p member)
  · intro p single
    rw [List.mem_singleton.mp single]
    exact FirstShortest.last fun other member same => absurd same (unmet other member)
  · intro other member
    obtain ⟨p, among, equal⟩ := keeps.covers other member
    exact ⟨p, List.mem_append_left _ among, equal⟩
  · intro other single
    rw [List.mem_singleton.mp single]
    exact ⟨_, List.mem_append_right _ List.mem_cons_self, rfl⟩
  · refine List.pairwise_append.mpr ⟨keeps.places usable found, List.pairwise_singleton _ _, fun p member last single => ?_⟩
    obtain ⟨stays, before⟩ := keeps.stays usable found p member
    rw [List.mem_singleton.mp single, place_new usable unmet here, stays]
    exact before

theorem Keeps.apart {front back : List (DomainEntry × String)} {p : DomainEntry × String}
    (keeps : Keeps met (front ++ p :: back)) (usable : AllUsable met) :
    ∀ q ∈ front ++ back, q.1.ident ≠ p.1.ident := by
  obtain ⟨_, later, across⟩ := List.pairwise_append.mp keeps.ordered
  refine List.forall_mem_append.mpr ⟨fun q member equal => ?_, fun q member equal => ?_⟩
  · exact absurd (place_congr usable equal) (Nat.ne_of_lt (across q member p List.mem_cons_self))
  · exact absurd (place_congr usable equal) (Nat.ne_of_gt ((List.pairwise_cons.mp later).1 q member))

theorem Keeps.replace {front back : List (DomainEntry × String)} {p pair : DomainEntry × String}
    (keeps : Keeps met (front ++ p :: back)) (usable : AllUsable (met ++ [found])) (same : p.1.ident = found.2.ident)
    (name : pair.1.ident = p.1.ident) (first : FirstShortest (met ++ [found]) pair) :
    Keeps (met ++ [found]) (front ++ pair :: back) := by
  have before : AllUsable met := (List.forall_mem_append.mp usable).1
  have others : ∀ q ∈ front ++ back, FirstShortest (met ++ [found]) q := by
    intro q member
    have old : q ∈ front ++ p :: back :=
      (List.mem_append.mp member).elim (List.mem_append_left _) fun behind =>
        List.mem_append_right _ (List.mem_cons_of_mem _ behind)
    exact (keeps.shortest q old).append fun equal =>
      absurd (equal.symm.trans same.symm) (keeps.apart before q member)
  refine ⟨?_, List.forall_mem_append.mpr ⟨fun other member => ?_, fun other single => ?_⟩, ?_⟩
  · obtain ⟨inFront, behind⟩ := List.forall_mem_append.mp others
    exact List.forall_mem_append.mpr ⟨inFront, List.forall_mem_cons.mpr ⟨first, behind⟩⟩
  · obtain ⟨q, among, equal⟩ := keeps.covers other member
    rcases List.mem_append.mp among with inFront | rest
    · exact ⟨q, List.mem_append_left _ inFront, equal⟩
    · rcases List.mem_cons.mp rest with rfl | behind
      · exact ⟨pair, List.mem_append_right _ List.mem_cons_self, name.trans equal⟩
      · exact ⟨q, List.mem_append_right _ (List.mem_cons_of_mem _ behind), equal⟩
  · rw [List.mem_singleton.mp single]
    exact ⟨pair, List.mem_append_right _ List.mem_cons_self, name.trans same⟩
  · have there : place (met ++ [found]) pair.1 = place (met ++ [found]) p.1 := place_congr usable name
    obtain ⟨frontOrdered, later, across⟩ := List.pairwise_append.mp (keeps.places before found)
    obtain ⟨ahead, backOrdered⟩ := List.pairwise_cons.mp later
    refine List.pairwise_append.mpr ⟨frontOrdered, List.pairwise_cons.mpr ⟨fun q member => ?_, backOrdered⟩, ?_⟩
    · exact there.symm ▸ ahead q member
    · intro a memberA
      have earlier := across a memberA
      rw [List.forall_mem_cons] at earlier ⊢
      exact ⟨there.symm ▸ earlier.1, earlier.2⟩

theorem Keeps.step (keeps : Keeps met kept) (usable : AllUsable (met ++ [found])) :
    Keeps (met ++ [found]) (keep kept found) := by
  obtain ⟨before, last⟩ := List.forall_mem_append.mp usable
  have here := last found List.mem_cons_self
  rcases keep_cases here kept with ⟨new, added⟩ | ⟨front, p, back, rfl, same, compared⟩
  · rw [added]
    exact keeps.add before here new
  · have shortest := keeps.shortest p (List.mem_append_right _ List.mem_cons_self)
    rw [compared]
    split
    · rename_i shorter
      refine keeps.replace usable same same.symm (FirstShortest.last fun other member equal => ?_)
      exact Nat.lt_of_lt_of_le shorter (shortest.le other member (equal.trans same.symm))
    · rename_i longer
      exact keeps.replace usable same rfl (shortest.append fun _ => Nat.le_of_not_lt longer)

end Step

theorem keeps_foldl {met : List (String × DomainEntry)} (usable : AllUsable met) : Keeps met (met.foldl keep []) := by
  suffices run : ∀ (rest met : List (String × DomainEntry)) (kept : List (DomainEntry × String)),
      AllUsable (met ++ rest) → Keeps met kept → Keeps (met ++ rest) (rest.foldl keep kept) by
    exact run met [] [] usable ⟨nofun, nofun, .nil⟩
  intro rest
  induction rest with
  | nil => exact fun met _ _ keeps => (List.append_nil met).symm ▸ keeps
  | cons found rest ih =>
    intro met kept usable keeps
    have split : met ++ found :: rest = met ++ [found] ++ rest := by rw [List.append_assoc, List.singleton_append]
    rw [split] at usable ⊢
    exact ih _ _ usable (keeps.step (List.forall_mem_append.mp usable).1)

theorem keeps_nearest {c : DomainCache}
    (usable : ∀ e ∈ c.entries none, DomainSource.isUsableRecord e.recordId = true) (least : Int) (token : String) :
    Keeps (findings (c.entries none) least token) (c.nearest least token) := by
  rw [nearest_eq]
  exact keeps_foldl fun found member => usable _ (mem_findings.mp member).1

/-- A form is near a token: it is long enough and the token contains it, or it starts as the token does. -/
def IsNear (least : Nat) (token form : String) : Prop :=
  least ≤ form.length ∧ form.toList <:+: token.toList ∨ token.toList.take least <+: form.toList

theorem isNear_iff {least : Nat} {token form : String} : isNear least token form = true ↔ IsNear least token form := by
  have front : (Text.front token least).toList = token.toList.take least := String.toList_ofList
  rw [isNear, Bool.or_eq_true, Bool.and_eq_true, decide_eq_true_eq, Text.contains, Sql.occursIn_infix,
    Text.startsWith, List.isPrefixOf_iff_prefix, front, Int.ofNat_le, IsNear]

def nearOrder (a b : DomainEntry × String) : Bool :=
  a.2.length < b.2.length || (a.2.length == b.2.length && a.1.display ≤ b.1.display)

theorem nearOrder_iff {a b : DomainEntry × String} : nearOrder a b = true ↔
    a.2.length < b.2.length ∨ a.2.length = b.2.length ∧ a.1.display ≤ b.1.display := by
  rw [nearOrder, Bool.or_eq_true, Bool.and_eq_true, decide_eq_true_eq, decide_eq_true_eq, beq_iff_eq]

theorem nearOrder_trans (a b c : DomainEntry × String) (first : nearOrder a b = true) (second : nearOrder b c = true) :
    nearOrder a c = true := by
  rw [nearOrder_iff] at first second ⊢
  rcases first with shorter | ⟨same, before⟩ <;> rcases second with shorter' | ⟨same', before'⟩
  · exact Or.inl (by omega)
  · exact Or.inl (by omega)
  · exact Or.inl (by omega)
  · exact Or.inr ⟨same.trans same', String.le_trans before before'⟩

theorem nearOrder_total (a b : DomainEntry × String) : (nearOrder a b || nearOrder b a) = true := by
  rw [Bool.or_eq_true, nearOrder_iff, nearOrder_iff]
  rcases Nat.lt_trichotomy a.2.length b.2.length with shorter | same | longer
  · exact Or.inl (Or.inl shorter)
  · rcases String.le_total a.1.display b.1.display with before | after
    · exact Or.inl (Or.inr ⟨same, before⟩)
    · exact Or.inr (Or.inr ⟨same.symm, after⟩)
  · exact Or.inr (Or.inl longer)

theorem near_sorted (c : DomainCache) (token : String) (least : Int) :
    (c.near token least).Pairwise fun a b => nearOrder a b = true :=
  List.pairwise_mergeSort nearOrder_trans nearOrder_total _

theorem Keeps.single {met : List (String × DomainEntry)} {kept : List (DomainEntry × String)} (keeps : Keeps met kept)
    (usable : AllUsable met) {found : String × DomainEntry} (member : found ∈ met) :
    kept.countP (fun p => found.2.sameName p.1) = 1 := by
  have here := usable found member
  obtain ⟨p, among, same⟩ := keeps.covers found member
  obtain ⟨front, back, rfl⟩ := List.append_of_mem among
  have others : ∀ part : List (DomainEntry × String), (∀ q ∈ part, q ∈ front ++ back) →
      part.countP (fun q => found.2.sameName q.1) = 0 := by
    intro part within
    rw [List.countP_eq_zero]
    intro q inside equal
    exact keeps.apart usable q (within q inside) (((DomainEntry.sameName_iff here _).mp equal).symm.trans same.symm)
  have itself : found.2.sameName p.1 = true := (DomainEntry.sameName_iff here _).mpr same.symm
  rw [List.countP_append, List.countP_cons, others front fun _ => List.mem_append_left _,
    others back fun _ => List.mem_append_right _, if_pos itself]

end DomainCache

end TableTalk
