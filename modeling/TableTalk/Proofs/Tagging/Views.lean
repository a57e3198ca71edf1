import TableTalk.Proofs.Tagging.Placement

namespace TableTalk

namespace Claims

def viewed (view : Entity → Entity) (result : Claims × Except TagFault (List Entity)) :
    Claims × Except TagFault (List Entity) :=
  (result.1, result.2.map (List.map view))

theorem viewed_cons (view : Entity → Entity) (e : Entity) (later : Claims × Except TagFault (List Entity)) :
    viewed view (later.1, later.2.map (e :: ·)) =
      ((viewed view later).1, (viewed view later).2.map (view e :: ·)) := by
  obtain ⟨taken, found⟩ := later
  cases found <;> rfl

theorem sweep_viewed {α : Type} (view : Entity → Entity) (place : α → Span)
    (build : α → Except TagFault (Option Entity)) (claims : Claims) (items : List α) :
    viewed view (sweep place build claims items) =
      sweep place (fun item => (build item).map (Option.map view)) claims items := by
  induction items generalizing claims with
  | nil => rfl
  | cons item rest ih =>
    rw [sweep, sweep]
    cases isFree claims (place item) with
    | false => exact ih claims
    | true =>
      cases build item with
      | error fault => rfl
      | ok made =>
        cases made with
        | none => exact ih claims
        | some e =>
          refine (viewed_cons view e (sweep place build (place item :: claims) rest)).trans ?_
          rw [ih]
          rfl

theorem sweep_congr {α : Type} {place : α → Span} {build build' : α → Except TagFault (Option Entity)} {items : List α}
    (same : ∀ item ∈ items, build item = build' item) (claims : Claims) :
    sweep place build claims items = sweep place build' claims items := by
  induction items generalizing claims with
  | nil => rfl
  | cons item rest ih =>
    obtain ⟨here, there⟩ := List.forall_mem_cons.mp same
    rw [sweep, sweep, here]
    simp only [ih there]

theorem sweep_viewed_congr {α : Type} {view : Entity → Entity} {place : α → Span}
    {build build' : α → Except TagFault (Option Entity)} {items : List α}
    (same : ∀ item ∈ items, (build item).map (Option.map view) = (build' item).map (Option.map view))
    (claims : Claims) :
    viewed view (sweep place build claims items) = viewed view (sweep place build' claims items) := by
  rw [sweep_viewed, sweep_viewed, sweep_congr same]

end Claims

namespace Pass

def viewed (view : Entity → Entity) (pass : Pass) : Pass :=
  fun claims => Claims.viewed view (pass claims)

theorem run_viewed (view : Entity → Entity) (passes : List Pass) (claims : Claims) :
    run (passes.map (viewed view)) claims = ((run passes claims).1, (run passes claims).2.map view) := by
  induction passes generalizing claims with
  | nil => rfl
  | cons pass rest ih =>
    have found : ((pass claims).2.map (List.map view)).toOption.getD [] =
        ((pass claims).2.toOption.getD []).map view := by
      cases (pass claims).2 <;> rfl
    rw [List.map_cons, run_cons, run_cons, viewed, Claims.viewed, ih, found, List.map_append]

end Pass

theorem Entity.inOrder_viewed {view : Entity → Entity} (placed : ∀ e, (view e).span = e.span) (entities : List Entity) :
    (inOrder entities).map view = inOrder (entities.map view) := by
  refine List.map_mergeSort fun a _ b _ => ?_
  rw [placed, placed]

namespace Tagger

theorem tokenPass_viewed {β : Type} {view : Entity → Entity} {tokens : List Token} {find : Token → Option β}
    {build build' : Token → β → Except TagFault (Option Entity)}
    (same : ∀ token known, find token = some known →
      (build token known).map (Option.map view) = (build' token known).map (Option.map view)) :
    (tokenPass tokens find build).viewed view = (tokenPass tokens find build').viewed view := by
  refine funext fun claims => Claims.sweep_viewed_congr (fun entry member => ?_) claims
  obtain ⟨token, _, listed⟩ := List.mem_filterMap.mp member
  obtain ⟨known, found, rfl⟩ := Option.map_eq_some_iff.mp listed
  exact same token known found

/-- Questions over which all passes look the same have entities that look the same. -/
theorem tag_viewed {view : Entity → Entity} (placed : ∀ e, (view e).span = e.span) {t t' : Tagger}
    {directory directory' : Option Directory} {asker asker' : Asker} {question question' : String}
    (same : (t.passesOver directory asker question).map (Pass.viewed view) =
      (t'.passesOver directory' asker' question').map (Pass.viewed view)) :
    (t.tag directory asker question).1.map view = (t'.tag directory' asker' question').1.map view := by
  have runs := congrArg (fun passes => (Pass.run passes []).2) same
  simp only [Pass.run_viewed] at runs
  rw [t.tag_eq, t'.tag_eq, Entity.inOrder_viewed placed, Entity.inOrder_viewed placed, runs]

end Tagger

end TableTalk
