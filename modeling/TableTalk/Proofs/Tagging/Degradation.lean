import TableTalk.Proofs.Domain.Nearest
import TableTalk.Proofs.Tagging.Serving

namespace TableTalk

namespace DomainCache

section Nameless

variable {c : DomainCache} (nameless : c.entries none = [])

include nameless

theorem named_nil (key : String) : c.named key = [] := by
  rw [named_eq, nameless]
  rfl

theorem withForm_nil (token : String) : c.withForm token = [] := by
  refine List.eq_nil_iff_forall_not_mem.mpr fun e member => ?_
  have known := (mem_withForm.mp member).1
  rw [nameless] at known
  cases known

theorem near_nil (token : String) (least : Int) : c.near token least = [] := by
  refine List.eq_nil_iff_forall_not_mem.mpr fun found member => ?_
  have known := (mem_near member).1
  rw [nameless] at known
  cases known

theorem multiword_nil : c.multiword = [] := by
  rw [multiword, byKey_eq, nameless]
  rfl

end Nameless

theorem calls_nameless {sources : List DomainSource} {o : CacheOptions} {steps : List (LoadCall × Store)}
    (fail : ∀ s ∈ sources, ∀ step ∈ steps, s.fails o step.2 = true) :
    (calls sources { options := o } steps).entries none = [] := by
  refine List.eq_nil_iff_forall_not_mem.mpr (calls_all fun s member step among found loaded e _ => ?_)
  have fails := fail s member step among
  rw [DomainSource.fails, loaded] at fails
  cases fails

end DomainCache

namespace Claims

theorem sweep_none {α : Type} {place : α → Span} {build : α → Except TagFault (Option Entity)} {items : List α}
    (none : ∀ item ∈ items, build item = .ok none) (claims : Claims) :
    sweep place build claims items = (claims, .ok []) := by
  induction items with
  | nil => rfl
  | cons item rest ih =>
    obtain ⟨here, there⟩ := List.forall_mem_cons.mp none
    rw [sweep, here, ih there]
    cases isFree claims (place item) <;> rfl

end Claims

namespace Pass

/-- A pass that takes nothing and returns nothing, broken or not. -/
def Idle (pass : Pass) : Prop :=
  ∀ claims, returned (pass claims) = (claims, [])

theorem run_idle {pass : Pass} (idle : pass.Idle) (front back : List Pass) (claims : Claims) :
    run (front ++ pass :: back) claims = run (front ++ back) claims := by
  induction front generalizing claims with
  | nil =>
    have taken : (pass claims).1 = claims := congrArg Prod.fst (idle claims)
    have found : (pass claims).2.toOption.getD [] = [] := congrArg Prod.snd (idle claims)
    rw [List.nil_append, List.nil_append, run_cons, taken, found, List.nil_append]
  | cons first rest ih => rw [List.cons_append, List.cons_append, run_cons, run_cons, ih]

end Pass

namespace Tagger

theorem namePass_none (v : Vocabulary) (question : List Char) (tokens : List Token) :
    (namePass v none question tokens).Idle :=
  fun _ => rfl

theorem namePass_broken (v : Vocabulary) {d : Directory} {fault : TagFault} (broken : d.load = .error fault)
    (question : List Char) (tokens : List Token) : (namePass v (some d) question tokens).Idle := by
  intro claims
  simp only [namePass, broken]
  rfl

theorem nameEntity_nameless (v : Vocabulary) {c : DomainCache} (nameless : c.entries none = []) (p : Part)
    (token : Token) : nameEntity v (.ofCache c) p token = .ok none := by
  have named : (Directory.ofCache c).named token.text = .ok [] := congrArg Except.ok (c.named_nil nameless _)
  have formed : (Directory.ofCache c).withForm token.text = .ok [] := congrArg Except.ok (c.withForm_nil nameless _)
  have near : (Directory.ofCache c).near token.text = .ok [] := congrArg Except.ok (c.near_nil nameless _ _)
  simp only [nameEntity, nearEntity, named, formed, near, bind, Except.bind, pure, Except.pure, ite_self]

theorem namePass_nameless (v : Vocabulary) {c : DomainCache} (nameless : c.entries none = []) (question : List Char)
    (tokens : List Token) : (namePass v (some (.ofCache c)) question tokens).Idle := by
  intro claims
  have swept : namePass v (some (.ofCache c)) question tokens claims = _ :=
    Claims.sweep_none (fun entry _ => nameEntity_nameless v nameless (tokenPart question entry.1) entry.1) claims
  exact congrArg Pass.returned swept

theorem tag_idle {t : Tagger} {l : Lexicon} {directory : Option Directory} (vocabulary : t.vocabulary = l.vocabulary)
    (phrases : (t.indexed directory).1 = {})
    (idle : ∀ question tokens, (namePass l.vocabulary directory question tokens).Idle) (asker : Asker)
    (question : String) :
    (t.tag directory asker question).1 = ((ofLexicon l).tag none asker question).1 := by
  have run : Pass.run (t.passesOver directory asker question) [] =
      Pass.run ((ofLexicon l).passesOver none asker question) [] := by
    rw [passesOver, passesOver, vocabulary, phrases]
    cases Text.isBlankText question with
    | true => rfl
    | false =>
      let text := question.toList
      let tokens := Token.scan text
      let front := [tablePass l.vocabulary text tokens, phrasePass l.vocabulary {} asker text tokens]
      let back := [pronounPass l.vocabulary asker text tokens, temporalPass l.vocabulary asker text tokens,
        comparisonPass l.vocabulary text, keywordPass l.vocabulary asker text tokens]
      exact (Pass.run_idle (idle text tokens) front back []).trans
        (Pass.run_idle (namePass_none l.vocabulary text tokens) front back []).symm
  rw [tag_eq, tag_eq, run]

theorem tag_unnamed (l : Lexicon) (asker : Asker) (question : String) :
    ∀ x ∈ ((ofLexicon l).tag none asker question).1, x.kind ≠ .domainValue := by
  apply tag_all
  unfold passesOver
  split
  · simp
  · refine List.forall_mem_cons.mpr ⟨?_, fun pass later =>
      (laterPasses_kinds l [] none asker question.toList pass later).imp ?_⟩
    · apply tokenPass_yields
      intro token _ word _ e made
      cases made
      exact ⟨rfl, nofun⟩
    · rintro e ⟨_, named⟩ kind
      rcases named kind with known | ⟨d, given, _⟩
      · exact known rfl
      · cases given

/-- Without known names tagging finds the same, and no names, for whichever reason there are none: there is no directory,
it cannot be loaded, or it is a cache without names, such as one whose sources always failed. -/
theorem tag_nameless (l : Lexicon) (asker : Asker) (question : String) :
    let found := ((ofLexicon l).tag none asker question).1
    (∀ x ∈ found, x.kind ≠ .domainValue) ∧
      (∀ t : Tagger, t.vocabulary = l.vocabulary → (t.tag none asker question).1 = found ∧
        ∀ (d : Directory) (fault : TagFault), d.load = .error fault → (t.tag (some d) asker question).1 = found) ∧
      (∀ (t : Tagger) (c : DomainCache), t.Current l c → c.entries none = [] →
        (t.tag (some (.ofCache c)) asker question).1 = found) ∧
      ∀ (o : CacheOptions) (steps : List (DomainCache.LoadCall × Store)),
        (∀ s ∈ l.domainSources, ∀ step ∈ steps, s.fails o step.2 = true) →
          ((ofLexicon l).tag (some (.ofCache (DomainCache.calls l.domainSources (.unloaded o) steps))) asker
            question).1 = found := by
  intro found
  have cached (t : Tagger) (c : DomainCache) (current : t.Current l c) (nameless : c.entries none = []) :
      (t.tag (some (.ofCache c)) asker question).1 = found := by
    refine tag_idle current.vocabulary ?_ (namePass_nameless l.vocabulary nameless) asker question
    rw [current.indexed.1, c.multiword_nil nameless]
    rfl
  refine ⟨tag_unnamed l asker question, fun t vocabulary => ⟨?_, fun d fault broken => ?_⟩, cached,
    fun o steps fail => cached _ _ (current_ofLexicon l _) (DomainCache.calls_nameless fail)⟩
  · exact tag_idle vocabulary rfl (namePass_none l.vocabulary) asker question
  · refine tag_idle vocabulary ?_ (namePass_broken l.vocabulary broken) asker question
    simp only [indexed, broken]

theorem day_nameless :
    let found := ((ofLexicon dayLexicon).tag none dayAsker "tasks").1
    let c := DomainCache.calls dayLexicon.domainSources .unloaded [(.ensureLoaded, { contents := .memory [] })]
    found.map Entity.kind = [.table] ∧ (Directory.broken.load = .error .directory ∧
      ((ofLexicon dayLexicon).tag (some .broken) dayAsker "tasks").1 = found) ∧
        (∀ s ∈ dayLexicon.domainSources, s.fails {} { contents := .memory [] } = true) ∧ c.isLoaded = true ∧
          ((ofLexicon dayLexicon).tag (some (.ofCache c)) dayAsker "tasks").1 = found := by
  intro found c
  obtain ⟨_, uncached, _, failing⟩ := tag_nameless dayLexicon dayAsker "tasks"
  have fail : ∀ s ∈ dayLexicon.domainSources, s.fails {} { contents := .memory [] } = true := by decide +kernel
  refine ⟨by decide +kernel, ⟨rfl, (uncached _ rfl).2 _ _ rfl⟩, fail, rfl, failing {} _ ?_⟩
  intro s member step among
  rw [List.mem_singleton.mp among]
  exact fail s member

end Tagger

end TableTalk
