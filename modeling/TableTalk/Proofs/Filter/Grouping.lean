import TableTalk.Demo.Lexicon
import TableTalk.Proofs.Assoc
import TableTalk.Proofs.Filter.Compiling

namespace TableTalk

def Predicate.moved (count : Nat) (p : Predicate) : Predicate :=
  { p with group := p.group + count }

def Predicate.groupCount (predicates : List Predicate) : Nat :=
  (Assoc.distinct (predicates.map Predicate.group)).length

namespace Filter

section Numbering

variable {table : String} {t : Taxonomy} {words : List String} {homes : List (String × String)}

theorem groupOf_moved (group : Int) (count : Nat) (e : Entity) :
    groupOf table t words homes (group + count) e =
      (groupOf table t words homes group e).map (Predicate.moved count) := by
  simp only [groupOf, List.map_map]
  rfl

/-- What an entity puts on the table when it stands alone. -/
def membersOf (table : String) (t : Taxonomy) (words : List String) (homes : List (String × String)) (e : Entity) :
    List Predicate :=
  compileFrom table t words homes 0 [e]

def contributes (table : String) (t : Taxonomy) (words : List String) (homes : List (String × String)) (e : Entity) :
    Bool :=
  !(membersOf table t words homes e).isEmpty

theorem membersOf_eq (e : Entity) : membersOf table t words homes e =
    if e.isFilter = true then groupOf table t words homes 0 e else [] := by
  rw [membersOf, compileFrom_cons, compileFrom, compileFrom, List.append_nil]
  by_cases none : groupOf table t words homes 0 e = [] <;> simp [none]

theorem members_moved (count : Nat) (e : Entity) : (membersOf table t words homes e).map (Predicate.moved count) =
    if e.isFilter = true then groupOf table t words homes count e else [] := by
  have here : groupOf table t words homes count e = (groupOf table t words homes 0 e).map (Predicate.moved count) := by
    rw [← groupOf_moved, Int.zero_add]
  rw [membersOf_eq, here]
  split <;> rfl

theorem group_of_moved {start : Nat} {e : Entity} {p : Predicate}
    (member : p ∈ (membersOf table t words homes e).map (Predicate.moved start)) : p.group = Int.ofNat start := by
  rw [members_moved] at member
  split at member
  · obtain ⟨_, _, rfl⟩ := mem_groupOf.mp member
    rfl
  · cases member

/-- An entity in front puts its own predicates on the table, and moves the others on by a group if it has any. -/
theorem compileFrom_step (start : Nat) (e : Entity) (rest : List Entity) :
    compileFrom table t words homes start (e :: rest) =
      (membersOf table t words homes e).map (Predicate.moved start) ++
        compileFrom table t words homes (start + (contributes table t words homes e).toNat : Nat) rest := by
  have same : contributes table t words homes e =
      !((membersOf table t words homes e).map (Predicate.moved start)).isEmpty := by
    rw [List.isEmpty_map]
    rfl
  rw [same, members_moved, compileFrom_cons]
  by_cases filters : e.isFilter = true
  · by_cases none : groupOf table t words homes start e = []
    · rw [if_pos filters, if_neg fun here => here.2 none, none]
      rfl
    · have some : (groupOf table t words homes start e).isEmpty = false := List.isEmpty_eq_false_iff.mpr none
      rw [if_pos filters, if_pos ⟨filters, none⟩, some]
      rfl
  · rw [if_neg filters, if_neg fun here => filters here.1]
    rfl

theorem compileFrom_moved (start count : Nat) (entities : List Entity) :
    compileFrom table t words homes (start + count : Nat) entities =
      (compileFrom table t words homes start entities).map (Predicate.moved count) := by
  induction entities generalizing start with
  | nil => rfl
  | cons e rest ih =>
    have twice : Predicate.moved count ∘ Predicate.moved start = Predicate.moved (start + count) := by
      funext p
      simp only [Function.comp_apply, Predicate.moved, Int.natCast_add, Int.add_assoc]
    rw [compileFrom_step, compileFrom_step, List.map_append, List.map_map, twice, ← ih, Nat.add_right_comm]

theorem compileFrom_numbered (start : Nat) (entities : List Entity) :
    compileFrom table t words homes start entities =
      ((entities.filter (contributes table t words homes)).zipIdx start).flatMap fun e =>
        (membersOf table t words homes e.1).map (Predicate.moved e.2) := by
  induction entities generalizing start with
  | nil => rfl
  | cons e rest ih =>
    rw [compileFrom_step, ih, List.filter_cons]
    cases here : contributes table t words homes e with
    | true => rw [if_pos rfl, List.zipIdx_cons, List.flatMap_cons, Bool.toNat_true]
    | false =>
      have none : membersOf table t words homes e = [] := by simpa [contributes] using here
      rw [if_neg Bool.false_ne_true, none]
      rfl

theorem compileFrom_append (start : Nat) (first second : List Entity) :
    compileFrom table t words homes start (first ++ second) = compileFrom table t words homes start first ++
      compileFrom table t words homes
        (start + (first.filter (contributes table t words homes)).length : Nat) second := by
  rw [compileFrom_numbered, compileFrom_numbered start first, compileFrom_numbered _ second, List.filter_append,
    List.zipIdx_append, List.flatMap_append]

theorem mem_compileFrom_iff {start : Nat} {entities : List Entity} {p : Predicate} :
    p ∈ compileFrom table t words homes start entities ↔ ∃ before e after, entities = before ++ e :: after ∧
      p ∈ (membersOf table t words homes e).map
        (Predicate.moved (start + (before.filter (contributes table t words homes)).length)) := by
  constructor
  · intro member
    induction entities generalizing start with
    | nil => cases member
    | cons e rest ih =>
      rw [compileFrom_step] at member
      rcases List.mem_append.mp member with here | later
      · exact ⟨[], e, rest, rfl, here⟩
      · obtain ⟨before, found, after, rfl, moved⟩ := ih later
        refine ⟨e :: before, found, after, rfl, ?_⟩
        have count : start + ((e :: before).filter (contributes table t words homes)).length =
            start + (contributes table t words homes e).toNat +
              (before.filter (contributes table t words homes)).length := by
          rw [List.filter_cons]
          cases contributes table t words homes e
          · rfl
          · simp only [if_true, List.length_cons, Bool.toNat_true]
            omega
        rwa [count]
  · rintro ⟨before, e, after, rfl, member⟩
    rw [compileFrom_append, compileFrom_step]
    exact List.mem_append_right _ (List.mem_append_left _ member)

theorem compileFrom_kept (start : Nat) (choices : List (Entity × Bool))
    (idle : ∀ choice ∈ choices, choice.2 = false → membersOf table t words homes choice.1 = []) :
    compileFrom table t words homes start ((choices.filter Prod.snd).map Prod.fst) =
      compileFrom table t words homes start (choices.map Prod.fst) := by
  induction choices generalizing start with
  | nil => rfl
  | cons choice rest ih =>
    obtain ⟨here, later⟩ := List.forall_mem_cons.mp idle
    rw [List.filter_cons, List.map_cons, compileFrom_step]
    split
    · rw [List.map_cons, compileFrom_step, ih _ later]
    · rename_i dropped
      have none := here (Bool.eq_false_iff.mpr dropped)
      rw [ih _ later, contributes, none]
      rfl

theorem group_behind {start : Nat} {entities : List Entity} {p : Predicate}
    (member : p ∈ compileFrom table t words homes (start + 1 : Nat) entities) : Int.ofNat start < p.group := by
  obtain ⟨_, stems⟩ := compileFrom_stems ((start + 1 : Nat) : Int) entities
  have behind := (stems p member).1
  rw [Int.ofNat_eq_natCast]
  omega

theorem groups_compileFrom (start : Nat) (entities : List Entity) :
    ((compileFrom table t words homes start entities).map Predicate.group).Pairwise (· ≤ ·) ∧
      Assoc.distinct ((compileFrom table t words homes start entities).map Predicate.group) =
        (List.range' start (entities.filter (contributes table t words homes)).length).map Int.ofNat := by
  induction entities generalizing start with
  | nil => exact ⟨.nil, rfl⟩
  | cons e rest ih =>
    obtain ⟨ordered, found⟩ := ih (start + (contributes table t words homes e).toNat)
    rw [compileFrom_step, List.map_append, List.filter_cons]
    cases here : contributes table t words homes e with
    | false =>
      have none : membersOf table t words homes e = [] := by simpa [contributes] using here
      rw [here] at ordered found
      rw [none, if_neg Bool.false_ne_true]
      exact ⟨ordered, found⟩
    | true =>
      rw [here, Bool.toNat_true] at ordered found
      rw [Bool.toNat_true]
      -- a run of the number of this entity, and greater numbers behind it
      have some : ((membersOf table t words homes e).map (Predicate.moved start)).map Predicate.group ≠ [] := by
        simpa [contributes] using here
      have first : ∀ g ∈ ((membersOf table t words homes e).map (Predicate.moved start)).map Predicate.group,
          g = Int.ofNat start := List.forall_mem_map.mpr fun _ => group_of_moved
      have behind : ∀ g ∈ (compileFrom table t words homes (start + 1 : Nat) rest).map Predicate.group,
          Int.ofNat start < g := List.forall_mem_map.mpr fun _ => group_behind
      constructor
      · refine List.pairwise_append.mpr ⟨?_, ordered, fun g here h there => ?_⟩
        · refine List.pairwise_iff_forall_sublist.mpr fun {g h} sub => ?_
          exact Int.le_of_eq ((first g (sub.subset (by simp))).trans (first h (sub.subset (by simp))).symm)
        · rw [first g here]
          exact Int.le_of_lt (behind h there)
      · rw [Assoc.distinct_run some first fun member => Int.lt_irrefl _ (behind _ member), found, if_pos rfl,
          List.length_cons, List.range'_succ, List.map_cons]

theorem groupCount_compileFrom (start : Nat) (entities : List Entity) :
    Predicate.groupCount (compileFrom table t words homes start entities) =
      (entities.filter (contributes table t words homes)).length := by
  rw [Predicate.groupCount, (groups_compileFrom start entities).2, List.length_map, List.length_range']

end Numbering

/-- What is compiled for entities one after the other: what is compiled for the first ones, and behind it what is
compiled for the others, with every group moved on by the number of groups in front. The groups are numbered from zero
on in order and without a gap, one for each entity that puts a predicate on the table and with just the predicates of
that entity, and it makes no difference whether any of the other entities are left out. -/
theorem compile_compositional (table : String) (t : Taxonomy) (question : String) (homes : List (String × String)) :
    let compiled := fun entities => compile table t entities question homes
    let contributing := fun entities : List Entity => entities.filter fun e => !(compiled [e]).isEmpty
    (∀ first second, compiled (first ++ second) =
      compiled first ++ (compiled second).map (Predicate.moved (Predicate.groupCount (compiled first)))) ∧
    (∀ entities, ((compiled entities).map Predicate.group).Pairwise (· ≤ ·) ∧
      Assoc.distinct ((compiled entities).map Predicate.group) =
        (List.range (contributing entities).length).map Int.ofNat ∧
      compiled entities = (contributing entities).zipIdx.flatMap fun e => (compiled [e.1]).map (Predicate.moved e.2)) ∧
    (∀ choices : List (Entity × Bool), (∀ choice ∈ choices, choice.2 = false → compiled [choice.1] = []) →
      compiled ((choices.filter Prod.snd).map Prod.fst) = compiled (choices.map Prod.fst)) := by
  intro compiled contributing
  refine ⟨fun first second => ?_, fun entities => ?_, fun choices idle => compileFrom_kept 0 choices idle⟩
  · have count : Predicate.groupCount (compiled first) = _ := groupCount_compileFrom 0 first
    rw [count]
    exact (compileFrom_append 0 first second).trans (congrArg _ (compileFrom_moved 0 _ second))
  · obtain ⟨ordered, found⟩ := @groups_compileFrom table t (questionWords question) homes 0 entities
    refine ⟨ordered, found.trans ?_, compileFrom_numbered 0 entities⟩
    rw [List.range_eq_range']
    rfl

def myMention : Entity :=
  { text := "my", kind := .pronoun, span := ⟨0, 2⟩, confidence := 0.95, canonical := .text "usr-001" }

def aboveMention : Entity :=
  { text := "above 3", kind := .numericFilter, span := ⟨9, 16⟩, confidence := 0.9,
    canonical := .comparison ⟨.gt, .int 3⟩ }

def pendingMention : Entity :=
  { text := "pending", kind := .statusFilter, span := ⟨17, 24⟩, confidence := 0.9, canonical := .text "pending",
    category := some "status" }

theorem pending_renumbered :
    let compiled := fun entities => compile "tasks" Demo.tasks entities "my tasks above 3 pending" []
    let choices := [(myMention, true), (aboveMention, false), (pendingMention, true)]
    (∀ choice ∈ choices, choice.2 = false → compiled [choice.1] = []) ∧
      compiled [myMention, pendingMention] = compiled [myMention, aboveMention, pendingMention] ∧
      (compiled [myMention, aboveMention, pendingMention]).map (fun p => (p.column, p.group)) =
        [("assigned_to", 0), ("status", 1)] := by
  intro compiled choices
  have idle : ∀ choice ∈ choices, choice.2 = false → compiled [choice.1] = [] := by
    intro choice member dropped
    simp only [choices, List.mem_cons, List.not_mem_nil, or_false] at member
    rcases member with rfl | rfl | rfl
    · cases dropped
    · rfl
    · cases dropped
  refine ⟨idle, ?_, by decide +kernel⟩
  exact (compile_compositional "tasks" Demo.tasks "my tasks above 3 pending" []).2.2 choices idle

end Filter

end TableTalk
