import TableTalk.Tagging.Claims

namespace TableTalk

theorem Span.overlaps_comm (a b : Span) : a.overlaps b = b.overlaps a := by
  unfold overlaps
  rw [Bool.and_comm]

namespace Claims

theorem isFree_cons {claims : Claims} {taken span : Span} :
    isFree (taken :: claims) span = true ↔ span.overlaps taken = false ∧ isFree claims span = true := by
  simp [isFree]

theorem isFree_append {claims : Claims} {taken : List Span} {span : Span} :
    isFree (taken ++ claims) span = true ↔
      (∀ other ∈ taken, span.overlaps other = false) ∧ isFree claims span = true := by
  induction taken with
  | nil => simp
  | cons first rest ih =>
    rw [List.cons_append, isFree_cons, ih, List.forall_mem_cons, and_assoc]

/-- Beyond `claims`, the places of the accepted entities were taken, each free when it was. -/
structure Takes (claims taken : Claims) (accepted : List Entity) : Prop where
  spans : taken = (accepted.map Entity.span).reverse ++ claims
  apart : accepted.Pairwise fun a b => b.span.overlaps a.span = false
  free : ∀ e ∈ accepted, claims.isFree e.span = true

namespace Takes

theorem nothing (claims : Claims) : Takes claims claims [] where
  spans := rfl
  apart := List.Pairwise.nil
  free := by simp

theorem cons {claims taken : Claims} {e : Entity} {accepted : List Entity}
    (free : claims.isFree e.span = true) (later : Takes (e.span :: claims) taken accepted) :
    Takes claims taken (e :: accepted) where
  spans := by
    rw [later.spans]
    simp
  apart := List.pairwise_cons.mpr ⟨fun other member => (isFree_cons.mp (later.free other member)).1, later.apart⟩
  free := List.forall_mem_cons.mpr ⟨free, fun other member => (isFree_cons.mp (later.free other member)).2⟩

theorem append {first second third : Claims} {earlier later : List Entity}
    (front : Takes first second earlier) (back : Takes second third later) :
    Takes first third (earlier ++ later) := by
  have behind : ∀ e ∈ later, (∀ span ∈ (earlier.map Entity.span).reverse, e.span.overlaps span = false) ∧
      first.isFree e.span = true := by
    intro e member
    have free := back.free e member
    rw [front.spans] at free
    exact isFree_append.mp free
  refine ⟨?_, ?_, ?_⟩
  · rw [back.spans, front.spans]
    simp
  · refine List.pairwise_append.mpr ⟨front.apart, back.apart, ?_⟩
    intro a before b after
    apply (behind b after).1
    rw [List.mem_reverse]
    exact List.mem_map_of_mem before
  · intro e member
    rcases List.mem_append.mp member with before | after
    · exact front.free e before
    · exact (behind e after).2

theorem taken_eq_iff {claims taken : Claims} {accepted : List Entity} (takes : Takes claims taken accepted) :
    taken = claims ↔ accepted = [] := by
  rw [takes.spans]
  simp

end Takes

/-- What a pass comes to: it takes the places of accepted entities, and returns these unless it breaks. -/
def Yields (P : Entity → Prop) (claims : Claims) (result : Claims × Except TagFault (List Entity)) : Prop :=
  ∃ accepted, Takes claims result.1 accepted ∧ (∀ e ∈ accepted, P e) ∧
    (result.2 = .ok accepted ∨ ∃ fault, result.2 = .error fault)

namespace Yields

variable {P : Entity → Prop} {claims : Claims}

theorem nothing : Yields P claims (claims, .ok []) :=
  ⟨[], .nothing claims, by simp, Or.inl rfl⟩

theorem broken (fault : TagFault) : Yields P claims (claims, .error fault) :=
  ⟨[], .nothing claims, by simp, Or.inr ⟨fault, rfl⟩⟩

theorem cons {e : Entity} {taken : Claims} {found : Except TagFault (List Entity)}
    (later : Yields P (e.span :: claims) (taken, found)) (free : claims.isFree e.span = true) (holds : P e) :
    Yields P claims (taken, found.map (e :: ·)) := by
  obtain ⟨accepted, takes, all, outcome⟩ := later
  refine ⟨e :: accepted, takes.cons free, List.forall_mem_cons.mpr ⟨holds, all⟩, ?_⟩
  rcases outcome with returned | ⟨fault, broke⟩
  · left
    change found = .ok accepted at returned
    rw [returned]
    rfl
  · right
    change found = .error fault at broke
    rw [broke]
    exact ⟨fault, rfl⟩

theorem imp {Q : Entity → Prop} {result : Claims × Except TagFault (List Entity)} (yields : Yields P claims result)
    (weaker : ∀ e, P e → Q e) : Yields Q claims result := by
  obtain ⟨accepted, takes, all, outcome⟩ := yields
  exact ⟨accepted, takes, fun e member => weaker e (all e member), outcome⟩

end Yields

theorem sweep_yields {α : Type} {place : α → Span} {build : α → Except TagFault (Option Entity)}
    {P : Entity → Prop} {items : List α}
    (built : ∀ item ∈ items, ∀ e, build item = .ok (some e) → e.span = place item ∧ P e)
    (claims : Claims) : Yields P claims (sweep place build claims items) := by
  induction items generalizing claims with
  | nil => exact .nothing
  | cons item rest ih =>
    have later := ih fun other member => built other (List.mem_cons_of_mem _ member)
    rw [sweep]
    split
    · rename_i free
      split
      · exact .broken _
      · exact later claims
      · rename_i e made
        obtain ⟨here, holds⟩ := built item List.mem_cons_self e made
        rw [← here] at free ⊢
        exact (later (e.span :: claims)).cons free holds
    · exact later claims

theorem sweep_blocked {α : Type} {place : α → Span} {build : α → Except TagFault (Option Entity)} {items : List α}
    {claims : Claims} (blocked : ∀ item ∈ items, isFree claims (place item) = false) :
    sweep place build claims items = (claims, .ok []) := by
  induction items with
  | nil => rfl
  | cons item rest ih =>
    obtain ⟨here, there⟩ := List.forall_mem_cons.mp blocked
    rw [sweep, here, if_neg Bool.false_ne_true, ih there]

end Claims

namespace Pass

def returned (result : Claims × Except TagFault (List Entity)) : Claims × List Entity :=
  (result.1, result.2.toOption.getD [])

def Finds (P : Entity → Prop) (pass : Pass) : Prop :=
  ∀ claims, Claims.Yields P claims (pass claims)

theorem Finds.imp {P Q : Entity → Prop} {pass : Pass} (finds : pass.Finds P) (weaker : ∀ e, P e → Q e) :
    pass.Finds Q :=
  fun claims => (finds claims).imp weaker

def LosesNothing : List Pass → Claims → Prop
  | [], _ => True
  | pass :: rest, claims =>
    ((∃ fault, (pass claims).2 = .error fault) → (pass claims).1 = claims) ∧
      LosesNothing rest (pass claims).1

theorem run_cons (pass : Pass) (rest : List Pass) (claims : Claims) :
    run (pass :: rest) claims = ((run rest (pass claims).1).1,
      (pass claims).2.toOption.getD [] ++ (run rest (pass claims).1).2) := rfl

/-- A run takes the places of accepted entities and returns some of them: all of them exactly if no pass
breaks after it has taken something. -/
theorem run_takes {P : Entity → Prop} {passes : List Pass} (finds : ∀ pass ∈ passes, pass.Finds P)
    (claims : Claims) :
    ∃ accepted, claims.Takes (run passes claims).1 accepted ∧ (∀ e ∈ accepted, P e) ∧
      (run passes claims).2.Sublist accepted ∧
        ((run passes claims).2 = accepted ↔ LosesNothing passes claims) := by
  induction passes generalizing claims with
  | nil => exact ⟨[], .nothing claims, by simp, List.Sublist.refl _, by simp [run, LosesNothing]⟩
  | cons pass rest ih =>
    obtain ⟨first, takes, holds, outcome⟩ := finds pass List.mem_cons_self claims
    obtain ⟨others, more, also, some, all⟩ :=
      ih (fun other member => finds other (List.mem_cons_of_mem _ member)) (pass claims).1
    refine ⟨first ++ others, takes.append more, ?_, ?_⟩
    · intro e member
      rcases List.mem_append.mp member with before | after
      · exact holds e before
      · exact also e after
    · rcases outcome with returned | ⟨fault, broke⟩
      · have result : (run (pass :: rest) claims).2 = first ++ (run rest (pass claims).1).2 := by
          rw [run_cons, returned]
          rfl
        rw [result, LosesNothing, returned, ← all]
        exact ⟨some.append_left first, by simp⟩
      · have result : (run (pass :: rest) claims).2 = (run rest (pass claims).1).2 := by
          rw [run_cons, broke]
          rfl
        -- nothing of what the pass accepted is returned, so it must not have accepted anything
        rw [result, LosesNothing, broke, ← all, takes.taken_eq_iff]
        refine ⟨some.trans (List.sublist_append_right first others), ?_⟩
        constructor
        · intro same
          have short := some.length_le
          rw [same, List.length_append] at short
          have none : first = [] := List.length_eq_zero_iff.mp (by omega)
          rw [none, List.nil_append] at same
          exact ⟨fun _ => none, same⟩
        · intro given
          rcases given with ⟨none, same⟩
          rw [none ⟨fault, rfl⟩, List.nil_append]
          exact same

end Pass

end TableTalk
