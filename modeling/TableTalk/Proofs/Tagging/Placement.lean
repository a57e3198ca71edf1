import TableTalk.Proofs.Outcome
import TableTalk.Proofs.Tagging.Candidates
import TableTalk.Proofs.Tagging.Sweep
import TableTalk.Tagging.Tagger

namespace TableTalk

open Outcome

namespace Entity

def IsAt (e : Entity) (p : Tagger.Part) : Prop :=
  e.text = p.text ∧ e.span = p.span

/-- The entity covers a part of the question, which it has as its text; only comparisons start or end inside
of a token. -/
structure WellPlaced (question : List Char) (e : Entity) : Prop where
  start : 0 ≤ e.span.start
  nonempty : e.span.start < e.span.stop
  inside : e.span.stop ≤ question.length
  text : e.text = Text.slice question e.span.start.toNat e.span.stop.toNat
  aligned : e.kind ≠ .numericFilter → ∃ first ∈ Token.scan question, ∃ last ∈ Token.scan question,
    e.span.start = first.start ∧ e.span.stop = last.stop

theorem wellPlaced_of_part {question : List Char} {e : Entity} {start stop : Nat}
    (here : e.IsAt (Tagger.part question start stop)) (nonempty : start < stop)
    (inside : stop ≤ question.length)
    (aligned : e.kind ≠ .numericFilter → ∃ first ∈ Token.scan question, ∃ last ∈ Token.scan question,
      start = first.start ∧ stop = last.stop) : e.WellPlaced question := by
  obtain ⟨text, span⟩ := here
  have first : e.span.start = start := by rw [span]; rfl
  have last : e.span.stop = stop := by rw [span]; rfl
  refine ⟨by omega, by omega, by omega, ?_, ?_⟩
  · rw [text, first, last, Int.toNat_natCast, Int.toNat_natCast]
    rfl
  · intro other
    obtain ⟨a, memberA, b, memberB, starts, stops⟩ := aligned other
    exact ⟨a, memberA, b, memberB, by rw [first, starts], by rw [last, stops]⟩

end Entity

namespace Tagger

variable {p : Part} {e : Entity}

theorem keywordEntity_isAt {k : Keyword} {confidence : Float} {now : Moment}
    (made : keywordEntity p k confidence now = .ok e) : e.IsAt p := by
  unfold keywordEntity at made
  dsimp only at made
  split at made
  · obtain ⟨_, _, made⟩ := bind_ok.mp made
    cases made
    exact ⟨rfl, rfl⟩
  · cases made
    exact ⟨rfl, rfl⟩
  · cases made
    exact ⟨rfl, rfl⟩

theorem map_some_ok {made : Except TagFault Entity} (found : made.map some = .ok (some e)) :
    made = .ok e := by
  cases made with
  | error fault => cases found
  | ok other =>
    cases found
    rfl

theorem phraseEntity_isAt {now : Moment} {meaning : PhraseMeaning}
    (made : phraseEntity p now meaning = .ok (some e)) : e.IsAt p := by
  unfold phraseEntity at made
  split at made
  · cases made
  · cases made
    exact ⟨rfl, rfl⟩
  · exact keywordEntity_isAt (map_some_ok made)

theorem nearEntity_isAt {d : Directory} {token : Token} (made : nearEntity d p token = .ok (some e)) :
    e.IsAt p := by
  unfold nearEntity at made
  obtain ⟨found, _, made⟩ := bind_ok.mp made
  split at made
  · cases made
  · cases made
    exact ⟨rfl, rfl⟩

theorem nameEntity_isAt {v : Vocabulary} {d : Directory} {token : Token}
    (made : nameEntity v d p token = .ok (some e)) : e.IsAt p := by
  unfold nameEntity at made
  obtain ⟨whole, _, made⟩ := bind_ok.mp made
  split at made
  · cases made
    exact ⟨rfl, rfl⟩
  · split at made
    · cases made
    · obtain ⟨forms, _, made⟩ := bind_ok.mp made
      split at made
      · cases made
        exact ⟨rfl, rfl⟩
      · split at made
        · exact nearEntity_isAt made
        · cases made

theorem comparisonEntity_isAt {comparisons : List (String × Bound)} {hit : ComparisonHit}
    (made : comparisonEntity p comparisons hit = .ok (some e)) : e.IsAt p ∧ e.kind = .numericFilter := by
  unfold comparisonEntity at made
  split at made
  · cases made
  · split at made
    · cases made
    · cases made
      exact ⟨⟨rfl, rfl⟩, rfl⟩

/-- All occurrences of phrases: those of known names, and behind them those of keywords. -/
def phraseHits (v : Vocabulary) (names : Phrasebook PhraseMeaning) (tokens : List Token) :
    List (Hit PhraseMeaning) :=
  names.hits tokens ++ (v.phrases.hits tokens).map fun hit => { hit with meaning := .keyword hit.meaning }

theorem phraseHits_aligned {v : Vocabulary} {names : Phrasebook PhraseMeaning} {text : List Char}
    {hit : Hit PhraseMeaning} (member : hit ∈ phraseHits v names (Token.scan text)) :
    ∃ first ∈ Token.scan text, ∃ last ∈ Token.scan text,
      hit.start = first.start ∧ hit.stop = last.stop ∧ hit.start < hit.stop := by
  rcases List.mem_append.mp member with name | keyword
  · exact Phrasebook.hits_aligned name
  · obtain ⟨original, among, rfl⟩ := List.mem_map.mp keyword
    have aligned := Phrasebook.hits_aligned among
    exact aligned

section Passes

variable {question : List Char}

theorem tokenPass_yields {β : Type} {P : Entity → Prop} {tokens : List Token} {find : Token → Option β}
    {build : Token → β → Except TagFault (Option Entity)}
    (built : ∀ token ∈ tokens, ∀ found, find token = some found → ∀ e, build token found = .ok (some e) →
      e.span = tokenSpan token ∧ P e) : (tokenPass tokens find build).Finds P := by
  intro claims
  apply Claims.sweep_yields
  intro pair member e made
  obtain ⟨token, found⟩ := pair
  obtain ⟨other, among, same⟩ := List.mem_filterMap.mp member
  obtain ⟨_, known, paired⟩ := Option.map_eq_some_iff.mp same
  cases paired
  exact built _ among _ known e made

theorem tokenPass_finds {β : Type} {find : Token → Option β}
    {build : Token → β → Except TagFault (Option Entity)}
    (built : ∀ token found e, build token found = .ok (some e) → e.IsAt (tokenPart question token)) :
    (tokenPass (Token.scan question) find build).Finds (Entity.WellPlaced question) := by
  apply tokenPass_yields
  intro token among found _ e made
  obtain ⟨nonempty, inside⟩ := Token.scan_bounds among
  have here := built _ _ e made
  exact ⟨here.2, Entity.wellPlaced_of_part here nonempty inside
    fun _ => ⟨_, among, _, among, rfl, rfl⟩⟩

theorem tablePass_finds (v : Vocabulary) :
    (tablePass v question (Token.scan question)).Finds (Entity.WellPlaced question) := by
  apply tokenPass_finds
  intro token word e made
  cases made
  exact ⟨rfl, rfl⟩

theorem pronounPass_finds (v : Vocabulary) (asker : Asker) :
    (pronounPass v asker question (Token.scan question)).Finds (Entity.WellPlaced question) := by
  apply tokenPass_finds
  intro token _ e made
  cases made
  exact ⟨rfl, rfl⟩

theorem temporalPass_finds (v : Vocabulary) (asker : Asker) :
    (temporalPass v asker question (Token.scan question)).Finds (Entity.WellPlaced question) :=
  tokenPass_finds fun _ _ _ made => keywordEntity_isAt (map_some_ok made)

theorem keywordPass_finds (v : Vocabulary) (asker : Asker) :
    (keywordPass v asker question (Token.scan question)).Finds (Entity.WellPlaced question) :=
  tokenPass_finds fun _ _ _ made => keywordEntity_isAt (map_some_ok made)

theorem namePass_finds (v : Vocabulary) (directory : Option Directory) :
    (namePass v directory question (Token.scan question)).Finds (Entity.WellPlaced question) := by
  intro claims
  unfold namePass
  split
  · exact .nothing
  · split
    · exact .broken _
    · exact tokenPass_finds (fun _ _ _ made => nameEntity_isAt made) claims

theorem phrasePass_finds (v : Vocabulary) (names : Phrasebook PhraseMeaning) (asker : Asker) :
    (phrasePass v names asker question (Token.scan question)).Finds (Entity.WellPlaced question) := by
  intro claims
  apply Claims.sweep_yields
  intro hit member e made
  have among : hit ∈ phraseHits v names (Token.scan question) := List.mem_mergeSort.mp member
  obtain ⟨first, one, last, other, starts, stops, nonempty⟩ := phraseHits_aligned among
  have here := phraseEntity_isAt made
  have inside := (Token.scan_bounds other).2
  exact ⟨here.2, Entity.wellPlaced_of_part here nonempty (by omega)
    fun _ => ⟨first, one, last, other, starts, stops⟩⟩

theorem comparisonPass_finds (v : Vocabulary) :
    (comparisonPass v question).Finds (Entity.WellPlaced question) := by
  intro claims
  apply Claims.sweep_yields
  intro hit member e made
  obtain ⟨here, kind⟩ := comparisonEntity_isAt made
  obtain ⟨nonempty, inside⟩ := ComparisonHit.scan_bounds member
  exact ⟨here.2, Entity.wellPlaced_of_part here nonempty inside fun other => absurd kind other⟩

theorem passes_find (v : Vocabulary) (names : Phrasebook PhraseMeaning) (directory : Option Directory)
    (asker : Asker) :
    ∀ pass ∈ passes v names directory asker question, pass.Finds (Entity.WellPlaced question) := by
  simp only [passes, List.forall_mem_cons, List.not_mem_nil, false_implies, implies_true, and_true]
  exact ⟨tablePass_finds v, phrasePass_finds v names asker, namePass_finds v directory,
    pronounPass_finds v asker, temporalPass_finds v asker, comparisonPass_finds v,
    keywordPass_finds v asker⟩

end Passes

def passesOver (t : Tagger) (directory : Option Directory) (asker : Asker) (question : String) :
    List Pass :=
  if Text.isBlankText question then []
  else passes t.vocabulary (t.indexed directory).1 directory asker question.toList

theorem indexed_vocabulary (t : Tagger) (directory : Option Directory) :
    (t.indexed directory).2.vocabulary = t.vocabulary := by
  unfold indexed
  split
  · rfl
  · split
    · rfl
    · split
      · rfl
      · split
        · rfl
        · rfl

theorem tag_eq (t : Tagger) (directory : Option Directory) (asker : Asker) (question : String) :
    (t.tag directory asker question).1 =
      Entity.inOrder (Pass.run (t.passesOver directory asker question) []).2 := by
  unfold tag passesOver
  split
  · simp [Pass.run, Entity.inOrder]
  · rw [← t.indexed_vocabulary directory]

/-- What all passes over a question find holds of all its entities. -/
theorem tag_all (t : Tagger) {directory : Option Directory} {asker : Asker} {question : String} {P : Entity → Prop}
    (finds : ∀ pass ∈ t.passesOver directory asker question, pass.Finds P) :
    ∀ e ∈ (t.tag directory asker question).1, P e := by
  obtain ⟨_, _, holds, returned, _⟩ := Pass.run_takes finds []
  intro e member
  rw [t.tag_eq] at member
  exact holds e (returned.mem (List.mem_mergeSort.mp member))

theorem passesOver_find (t : Tagger) (directory : Option Directory) (asker : Asker) (question : String) :
    ∀ pass ∈ t.passesOver directory asker question, pass.Finds (Entity.WellPlaced question.toList) := by
  unfold passesOver
  split
  · simp
  · exact passes_find t.vocabulary _ directory asker

end Tagger

namespace Span

theorem le_trans {a b c : Span} (first : a.le b = true) (second : b.le c = true) : a.le c = true := by
  simp only [le, Bool.or_eq_true, Bool.and_eq_true, decide_eq_true_eq, beq_iff_eq] at *
  omega

theorem le_total (a b : Span) : (a.le b || b.le a) = true := by
  simp only [le, Bool.or_eq_true, Bool.and_eq_true, decide_eq_true_eq, beq_iff_eq]
  omega

theorem stop_le_start {a b : Span} (ordered : a.le b = true) (apart : a.overlaps b = false)
    (nonempty : b.start < b.stop) : a.stop ≤ b.start := by
  simp only [overlaps, Bool.and_eq_false_iff, decide_eq_false_iff_not] at apart
  simp only [le, Bool.or_eq_true, Bool.and_eq_true, decide_eq_true_eq, beq_iff_eq] at ordered
  omega

end Span

namespace Entity

theorem mem_inOrder {e : Entity} {entities : List Entity} : e ∈ inOrder entities ↔ e ∈ entities :=
  List.mem_mergeSort

theorem inOrder_perm (entities : List Entity) : (inOrder entities).Perm entities :=
  List.mergeSort_perm _ _

theorem inOrder_sorted (entities : List Entity) :
    (inOrder entities).Pairwise fun a b => a.span.le b.span = true := by
  apply List.pairwise_mergeSort
  · intro a b c
    exact Span.le_trans
  · intro a b
    exact Span.le_total a.span b.span

theorem inOrder_apart {entities : List Entity}
    (apart : entities.Pairwise fun a b => b.span.overlaps a.span = false) :
    (inOrder entities).Pairwise fun a b => b.span.overlaps a.span = false := by
  refine (List.Perm.pairwise_iff ?_ (inOrder_perm entities)).mpr apart
  intro a b free
  rw [Span.overlaps_comm]
  exact free

end Entity

namespace Tagger

/-- Whatever is tagged lies where its text stands, in the order of the question and without overlaps. -/
theorem tag_placed (t : Tagger) (directory : Option Directory) (asker : Asker) (question : String) :
    (∀ e ∈ (t.tag directory asker question).1, e.WellPlaced question.toList) ∧
      (t.tag directory asker question).1.Pairwise fun a b =>
        a.span.start ≤ b.span.start ∧ a.span.stop ≤ b.span.start := by
  obtain ⟨accepted, takes, placed, returned, _⟩ :=
    Pass.run_takes (t.passesOver_find directory asker question) []
  have apart := Entity.inOrder_apart (takes.apart.sublist returned)
  have sorted := Entity.inOrder_sorted (Pass.run (t.passesOver directory asker question) []).2
  have each : ∀ e ∈ (t.tag directory asker question).1, e.WellPlaced question.toList := by
    intro e member
    rw [t.tag_eq, Entity.mem_inOrder] at member
    exact placed e (returned.mem member)
  refine ⟨each, ?_⟩
  rw [t.tag_eq] at each ⊢
  -- sorting keeps that no two overlap, and of two in order the first then ends before the second
  refine (sorted.and apart).imp_of_mem ?_
  intro a b memberA memberB both
  obtain ⟨ordered, free⟩ := both
  rw [Span.overlaps_comm] at free
  have first := (each a memberA).nonempty
  have behind := Span.stop_le_start ordered free (each b memberB).nonempty
  exact ⟨by omega, behind⟩

end Tagger

end TableTalk
