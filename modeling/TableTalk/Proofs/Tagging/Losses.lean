import TableTalk.Lexicon.Reading
import TableTalk.Proofs.Tagging.Placement

namespace TableTalk

theorem exists_apart {α : Type} {R : α → α → Prop} (symmetric : ∀ a b, R a b → R b a) {part whole : List α}
    (some : part.Sublist whole) (related : whole.Pairwise R) (proper : part ≠ whole) :
    ∃ a ∈ whole, ∀ b ∈ part, R b a := by
  induction some with
  | slnil => exact absurd rfl proper
  | cons a kept ih =>
    refine ⟨a, List.mem_cons_self, fun b member => ?_⟩
    exact symmetric a b ((List.pairwise_cons.mp related).1 b (kept.mem member))
  | cons_cons a kept ih =>
    obtain ⟨front, later⟩ := List.pairwise_cons.mp related
    obtain ⟨other, member, apart⟩ := ih later fun same => proper (by rw [same])
    refine ⟨other, List.mem_cons_of_mem _ member, List.forall_mem_cons.mpr ⟨?_, apart⟩⟩
    exact front other member

def Covers (spans : List Span) (offset : Int) : Prop :=
  ∃ span ∈ spans, span.start ≤ offset ∧ offset < span.stop

theorem covers_perm {first second : List Span} (same : first.Perm second) (offset : Int) :
    Covers first offset ↔ Covers second offset := by
  unfold Covers
  simp only [same.mem_iff]

namespace Tagger

/-- The places that are taken over a question are those of the entities that are returned, and they cover the
same offsets, exactly if no pass breaks after it has taken something. -/
theorem claims_eq_spans_iff (t : Tagger) (directory : Option Directory) (asker : Asker)
    (question : String) :
    let passes := t.passesOver directory asker question
    let taken := (Pass.run passes []).1
    let returned := (t.tag directory asker question).1.map Entity.span
    (taken.Perm returned ↔ Pass.LosesNothing passes []) ∧
      ((∀ offset, Covers taken offset ↔ Covers returned offset) ↔ Pass.LosesNothing passes []) := by
  intro passes taken returned
  obtain ⟨accepted, takes, placed, kept, whole⟩ :=
    Pass.run_takes (t.passesOver_find directory asker question) []
  have spans : taken.Perm (accepted.map Entity.span) := by
    rw [show taken = _ from takes.spans, List.append_nil]
    exact List.reverse_perm _
  have entities : returned.Perm ((Pass.run passes []).2.map Entity.span) := by
    rw [show returned = _ from congrArg (List.map Entity.span) (t.tag_eq directory asker question)]
    exact (Entity.inOrder_perm _).map _
  have same (all : Pass.LosesNothing passes []) : taken.Perm returned := by
    rw [← whole.mpr all] at spans
    exact spans.trans entities.symm
  refine ⟨⟨fun exact => ?_, same⟩, ⟨fun covers => ?_, fun all => covers_perm (same all)⟩⟩
  · have length := ((spans.symm.trans exact).trans entities).length_eq
    rw [List.length_map, List.length_map] at length
    exact whole.mp (kept.eq_of_length length.symm)
  · rw [← whole]
    apply Classical.byContradiction
    intro proper
    -- the first offset of an entity that got lost is taken, and none that is returned covers it
    have symmetric : ∀ a b : Entity, b.span.overlaps a.span = false → a.span.overlaps b.span = false := by
      intro a b free
      rw [Span.overlaps_comm]
      exact free
    obtain ⟨lost, member, apart⟩ := exists_apart symmetric kept takes.apart proper
    have nonempty := (placed lost member).nonempty
    have isTaken : Covers taken lost.span.start :=
      ⟨lost.span, spans.mem_iff.mpr (List.mem_map_of_mem member), Int.le_refl _, nonempty⟩
    obtain ⟨span, among, starts, stops⟩ := (covers _).mp isTaken
    obtain ⟨e, found, here⟩ := List.mem_map.mp (entities.mem_iff.mp among)
    have free := apart e found
    rw [here] at free
    simp only [Span.overlaps, Bool.and_eq_false_iff, decide_eq_false_iff_not] at free
    omega

def somedayDocument : Value :=
  .record [("tables", .record [("tasks", .record [])]),
    ("synonyms", .record [("temporal",
      .record [("today", .texts ["today"]), ("someday", .texts ["someday"])])])]

def somedayLexicon : Lexicon :=
  { tables := [{ table := "tasks" }]
    synonyms := { temporal := [("today", ["today"]), ("someday", ["someday"])] } }

/-- A word that names no time takes the entity of the word before it along, which stays taken. -/
theorem today_lost :
    let t := Tagger.ofLexicon somedayLexicon
    let asker : Asker := { now := .midnight ⟨2024, 6, 12⟩ }
    Lexicon.ofDocument somedayDocument = .ok somedayLexicon ∧
      (t.tag none asker "today").1.map Entity.span = [⟨0, 5⟩] ∧
        (t.tag none asker "today someday").1 = [] ∧
          (Pass.run (t.passesOver none asker "today someday") []).1 = [⟨0, 5⟩] := by
  intro t asker
  have alone : (t.tag none asker "today").1.map Entity.span = [⟨0, 5⟩] := by decide +kernel
  have taken : (Pass.run (t.passesOver none asker "today someday") []).1 = [⟨0, 5⟩] := by decide +kernel
  have returned : (Pass.run (t.passesOver none asker "today someday") []).2.length = 0 := by
    decide +kernel
  refine ⟨rfl, alone, ?_, taken⟩
  rw [t.tag_eq, List.length_eq_zero_iff.mp returned]
  exact List.mergeSort_nil

end Tagger

end TableTalk
