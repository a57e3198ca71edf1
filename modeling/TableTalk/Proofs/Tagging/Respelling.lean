import TableTalk.Proofs.Tagging.Placement

namespace TableTalk

/-- Another spelling of a question. Its tokens and its comparisons are those of the question, moved to other
offsets; the offsets that matter keep their order. -/
structure Respelling (question other : List Char) where
  offset : Nat → Nat
  wording : List Char → List Char
  fits : Nat → Prop
  increasing : ∀ i j, fits i → fits j → i < j → offset i < offset j
  blank : other.all Text.isBlank = question.all Text.isBlank
  tokens : Token.scan other =
    (Token.scan question).map fun token => ⟨token.text, offset token.start, offset token.stop⟩
  tokens_fit : ∀ token ∈ Token.scan question, fits token.start ∧ fits token.stop
  comparisons : ∀ comparisons, ComparisonHit.scan comparisons other =
    (ComparisonHit.scan comparisons question).map fun hit =>
      ⟨offset hit.start, offset hit.stop, wording hit.phrase, hit.numeral⟩
  comparisons_fit : ∀ comparisons, ∀ hit ∈ ComparisonHit.scan comparisons question,
    fits hit.start ∧ fits hit.stop
  phrase : ∀ text, Text.collapse (Text.lower (String.ofList (wording text))) =
    Text.collapse (Text.lower (String.ofList text))

namespace Entity

def putOn (e : Entity) (p : Tagger.Part) : Entity :=
  { e with text := p.text, span := p.span }

end Entity

namespace Tagger

/-- What is made of a part of a question depends on the part in the place and the text of the entity only. -/
def PlaceFree (make : Part → Except TagFault (Option Entity)) : Prop :=
  ∀ p other, make other = (make p).map (Option.map (·.putOn other))

theorem PlaceFree.span {make : Part → Except TagFault (Option Entity)} (free : PlaceFree make) {p : Part}
    {e : Entity} (made : make p = .ok (some e)) : e.span = p.span := by
  have again := free p p
  rw [made] at again
  simp only [Except.map, Option.map_some, Except.ok.injEq, Option.some.injEq] at again
  rw [again]
  rfl

theorem placeFree_ok (made : Part → Option Entity)
    (free : ∀ p other, made other = (made p).map (·.putOn other)) : PlaceFree fun p => .ok (made p) := by
  intro p other
  exact congrArg Except.ok (free p other)

theorem placeFree_keyword (k : Keyword) (confidence : Float) (now : Moment) :
    PlaceFree fun p => (keywordEntity p k confidence now).map some := by
  intro p other
  unfold keywordEntity
  cases k.kind with
  | temporal => cases TimeRange.resolve k.canonical now <;> rfl
  | _ => rfl

theorem placeFree_names (primary : DomainEntry) (others : List DomainEntry) (confidence : Float)
    (canonical : String) : PlaceFree fun p => .ok (some (namesEntity p primary others confidence canonical)) :=
  placeFree_ok _ fun _ _ => rfl

theorem placeFree_phrase (now : Moment) (meaning : PhraseMeaning) :
    PlaceFree fun p => phraseEntity p now meaning := by
  cases meaning with
  | names entries =>
    cases entries with
    | nil => exact placeFree_ok (fun _ => none) fun _ _ => rfl
    | cons primary others => exact placeFree_names primary others _ _
  | keyword k => exact placeFree_keyword k _ now

theorem placeFree_near (d : Directory) (token : Token) : PlaceFree fun p => nearEntity d p token := by
  intro p other
  unfold nearEntity
  cases d.near token.text with
  | error fault => rfl
  | ok found => cases found <;> rfl

theorem placeFree_name (v : Vocabulary) (d : Directory) (token : Token) :
    PlaceFree fun p => nameEntity v d p token := by
  intro p other
  unfold nameEntity
  cases d.named token.text with
  | error fault => rfl
  | ok whole =>
    cases whole with
    | cons primary others => rfl
    | nil =>
      cases reserved : v.reserved.contains token.text with
      | true => rfl
      | false =>
        cases d.withForm token.text with
        | error fault => rfl
        | ok forms =>
          cases forms with
          | cons primary others => rfl
          | nil =>
            by_cases long : minNearLength ≤ token.text.length
            · have near := placeFree_near d token p other
              simpa [bind, Except.bind, long] using near
            · simp [bind, Except.bind, pure, Except.pure, Except.map, long]

theorem placeFree_comparison (comparisons : List (String × Bound)) (hit : ComparisonHit) :
    PlaceFree fun p => comparisonEntity p comparisons hit := by
  intro p other
  unfold comparisonEntity
  cases hit.bound? comparisons with
  | none => rfl
  | some bound => cases hit.number <;> rfl

/-- How candidates of one kind are dealt with: where they lie, and what is made of their parts. -/
structure Course (α : Type) where
  start : α → Nat
  stop : α → Nat
  make : α → Part → Except TagFault (Option Entity)

namespace Course

variable {α : Type} (course : Course α)

def sweep (question : List Char) (claims : Claims) (items : List α) :
    Claims × Except TagFault (List Entity) :=
  Claims.sweep (fun a => (⟨course.start a, course.stop a⟩ : Span))
    (fun a => course.make a (part question (course.start a) (course.stop a))) claims items

end Course

def tokenCourse {β : Type} (make : Token → β → Part → Except TagFault (Option Entity)) : Course (Token × β) :=
  ⟨fun pair => pair.1.start, fun pair => pair.1.stop, fun pair => make pair.1 pair.2⟩

def comparisonCourse (comparisons : List (String × Bound)) : Course ComparisonHit :=
  ⟨ComparisonHit.start, ComparisonHit.stop, fun hit p => comparisonEntity p comparisons hit⟩

def phraseCourse (now : Moment) : Course (Hit PhraseMeaning) :=
  ⟨Hit.start, Hit.stop, fun hit p => phraseEntity p now hit.meaning⟩

end Tagger

namespace Claims

theorem isFree_perm {claims other : Claims} (same : other.Perm claims) (span : Span) :
    isFree other span = isFree claims span := by
  unfold isFree
  rw [same.any_eq]

theorem sweep_perm {α : Type} (place : α → Span) (build : α → Except TagFault (Option Entity))
    (items : List α) {claims other : Claims} (same : other.Perm claims) :
    (sweep place build other items).1.Perm (sweep place build claims items).1 ∧
      (sweep place build other items).2 = (sweep place build claims items).2 := by
  induction items generalizing claims other with
  | nil => exact ⟨same, rfl⟩
  | cons item rest ih =>
    rw [sweep, sweep, isFree_perm same]
    cases isFree claims (place item) with
    | false => exact ih same
    | true =>
      cases build item with
      | error fault => exact ⟨same, rfl⟩
      | ok made =>
        cases made with
        | none => exact ih same
        | some e =>
          obtain ⟨taken, found⟩ := ih (same.cons (place item))
          exact ⟨taken, congrArg (Except.map (e :: ·)) found⟩

end Claims

namespace Respelling

variable {question other : List Char} (r : Respelling question other)

def token (token : Token) : Token :=
  ⟨token.text, r.offset token.start, r.offset token.stop⟩

def comparison (hit : ComparisonHit) : ComparisonHit :=
  ⟨r.offset hit.start, r.offset hit.stop, r.wording hit.phrase, hit.numeral⟩

def span (span : Span) : Span :=
  ⟨r.offset span.start.toNat, r.offset span.stop.toNat⟩

def entity (e : Entity) : Entity :=
  e.putOn (Tagger.part other (r.offset e.span.start.toNat) (r.offset e.span.stop.toNat))

def Fits (span : Span) : Prop :=
  ∃ start stop : Nat, span = ⟨start, stop⟩ ∧ r.fits start ∧ r.fits stop

theorem offset_lt_iff {i j : Nat} (first : r.fits i) (second : r.fits j) :
    r.offset i < r.offset j ↔ i < j := by
  constructor
  · intro less
    rcases Nat.lt_trichotomy i j with below | same | above
    · exact below
    · rw [same] at less
      exact absurd less (Nat.lt_irrefl _)
    · exact absurd (r.increasing j i second first above) (Nat.lt_asymm less)
  · exact r.increasing i j first second

theorem overlaps_span {a b : Span} (first : r.Fits a) (second : r.Fits b) :
    (r.span a).overlaps (r.span b) = a.overlaps b := by
  obtain ⟨startA, stopA, rfl, fitsStartA, fitsStopA⟩ := first
  obtain ⟨startB, stopB, rfl, fitsStartB, fitsStopB⟩ := second
  simp only [Span.overlaps, span, Int.toNat_natCast, Int.ofNat_lt, r.offset_lt_iff fitsStartA fitsStopB,
    r.offset_lt_iff fitsStartB fitsStopA]

theorem isFree_span {claims : Claims} (fit : ∀ span ∈ claims, r.Fits span) {span : Span}
    (fits : r.Fits span) : Claims.isFree (claims.map r.span) (r.span span) = Claims.isFree claims span := by
  induction claims with
  | nil => rfl
  | cons taken rest ih =>
    obtain ⟨first, later⟩ := List.forall_mem_cons.mp fit
    have same := ih later
    simp only [Claims.isFree, List.map_cons, List.any_cons, r.overlaps_span fits first] at same ⊢
    rw [Bool.not_or, Bool.not_or, same]

structure Moves {α : Type} (course : Tagger.Course α) (move : α → α) (items : List α) : Prop where
  free : ∀ a ∈ items, Tagger.PlaceFree (course.make a)
  fit : ∀ a ∈ items, r.fits (course.start a) ∧ r.fits (course.stop a)
  start : ∀ a ∈ items, course.start (move a) = r.offset (course.start a)
  stop : ∀ a ∈ items, course.stop (move a) = r.offset (course.stop a)
  make : ∀ a ∈ items, course.make (move a) = course.make a

theorem Moves.tail {α : Type} {course : Tagger.Course α} {move : α → α} {a : α} {rest : List α}
    (moves : r.Moves course move (a :: rest)) : r.Moves course move rest where
  free b member := moves.free b (List.mem_cons_of_mem _ member)
  fit b member := moves.fit b (List.mem_cons_of_mem _ member)
  start b member := moves.start b (List.mem_cons_of_mem _ member)
  stop b member := moves.stop b (List.mem_cons_of_mem _ member)
  make b member := moves.make b (List.mem_cons_of_mem _ member)

theorem Moves.built {α : Type} {course : Tagger.Course α} {move : α → α} {items : List α}
    (moves : r.Moves course move items) {a : α} (member : a ∈ items) :
    course.make (move a) (Tagger.part other (course.start (move a)) (course.stop (move a))) =
      (course.make a (Tagger.part question (course.start a) (course.stop a))).map (Option.map r.entity) := by
  have free := moves.free a member
  rw [moves.make a member, moves.start a member, moves.stop a member,
    free (Tagger.part question (course.start a) (course.stop a))]
  cases made : course.make a (Tagger.part question (course.start a) (course.stop a)) with
  | error fault => rfl
  | ok entity =>
    cases entity with
    | none => rfl
    | some e =>
      have lies := free.span made
      simp only [Except.map, Option.map_some, entity, lies, Tagger.part, Int.toNat_natCast]

theorem sweep_map {α : Type} {course : Tagger.Course α} {move : α → α} {items : List α}
    (moves : r.Moves course move items) {claims : Claims} (fits : ∀ span ∈ claims, r.Fits span) :
    let result := course.sweep question claims items
    (∀ span ∈ result.1, r.Fits span) ∧
      course.sweep other (claims.map r.span) (items.map move) =
        (result.1.map r.span, result.2.map (List.map r.entity)) := by
  induction items generalizing claims with
  | nil => exact ⟨fits, rfl⟩
  | cons a rest ih =>
    obtain ⟨fitStart, fitStop⟩ := moves.fit a List.mem_cons_self
    have here : r.Fits ⟨course.start a, course.stop a⟩ := ⟨_, _, rfl, fitStart, fitStop⟩
    have place : (⟨course.start (move a), course.stop (move a)⟩ : Span) =
        r.span ⟨course.start a, course.stop a⟩ := by
      rw [moves.start a List.mem_cons_self, moves.stop a List.mem_cons_self]
      rfl
    have later {taken : Claims} (given : ∀ span ∈ taken, r.Fits span) := ih moves.tail given
    unfold Tagger.Course.sweep at later ⊢
    rw [List.map_cons, Claims.sweep, Claims.sweep, moves.built r List.mem_cons_self, place,
      r.isFree_span fits here]
    cases Claims.isFree claims ⟨course.start a, course.stop a⟩ with
    | false => exact later fits
    | true =>
      cases course.make a (Tagger.part question (course.start a) (course.stop a)) with
      | error fault => exact ⟨fits, rfl⟩
      | ok entity =>
        cases entity with
        | none => exact later fits
        | some e =>
          obtain ⟨allFit, same⟩ := later (List.forall_mem_cons.mpr ⟨here, fits⟩)
          refine ⟨allFit, ?_⟩
          rw [List.map_cons] at same
          simp only [Except.map, Option.map_some, ↓reduceIte, same]
          cases (Claims.sweep _ _ (⟨course.start a, course.stop a⟩ :: claims) rest).2 <;> rfl

/-- What passes over a question and over its other spelling come to: the same, though places may have been taken
and entities found in another order. -/
structure Agrees (result result' : Claims × List Entity) : Prop where
  fits : ∀ span ∈ result.1, r.Fits span
  claims : result'.1.Perm (result.1.map r.span)
  found : result'.2.Perm (result.2.map r.entity)

def Carries (pass pass' : Pass) : Prop :=
  ∀ claims claims', (∀ span ∈ claims, r.Fits span) → claims'.Perm (claims.map r.span) →
    r.Agrees (Pass.returned (pass claims)) (Pass.returned (pass' claims'))

def RunsAgree (passes passes' : List Pass) : Prop :=
  ∀ claims claims', (∀ span ∈ claims, r.Fits span) → claims'.Perm (claims.map r.span) →
    r.Agrees (Pass.run passes claims) (Pass.run passes' claims')

theorem runsAgree_nil : r.RunsAgree [] [] :=
  fun _ _ fits same => ⟨fits, same, List.Perm.refl _⟩

theorem run_agrees {pass pass' : Pass} {passes passes' : List Pass} {claims claims' : Claims}
    (first : r.Agrees (Pass.returned (pass claims)) (Pass.returned (pass' claims')))
    (later : r.Agrees (Pass.run passes (pass claims).1) (Pass.run passes' (pass' claims').1)) :
    r.Agrees (Pass.run (pass :: passes) claims) (Pass.run (pass' :: passes') claims') := by
  obtain ⟨fits, same, found⟩ := later
  rw [Pass.run_cons, Pass.run_cons]
  refine ⟨fits, same, ?_⟩
  rw [List.map_append]
  exact first.found.append found

theorem runsAgree_cons {pass pass' : Pass} {passes passes' : List Pass} (first : r.Carries pass pass')
    (later : r.RunsAgree passes passes') : r.RunsAgree (pass :: passes) (pass' :: passes') := by
  intro claims claims' fits same
  have here := first claims claims' fits same
  exact r.run_agrees here (later _ _ here.fits here.claims)

theorem carries_sweep {α : Type} {course : Tagger.Course α} {move : α → α} {items : List α}
    (moves : r.Moves course move items) :
    r.Carries (fun claims => course.sweep question claims items)
      (fun claims => course.sweep other claims (items.map move)) := by
  intro claims claims' fits same
  obtain ⟨allFit, mapped⟩ := r.sweep_map moves fits
  obtain ⟨taken, found⟩ := Claims.sweep_perm (fun a => (⟨course.start a, course.stop a⟩ : Span))
    (fun a => course.make a (Tagger.part other (course.start a) (course.stop a))) (items.map move) same
  refine ⟨allFit, ?_, ?_⟩
  · refine taken.trans ?_
    exact .of_eq (congrArg Prod.fst mapped)
  · apply List.Perm.of_eq
    have mappedFound := found.trans (congrArg Prod.snd mapped)
    simp only [Pass.returned, Tagger.Course.sweep] at mappedFound ⊢
    rw [mappedFound]
    cases (Claims.sweep _ _ claims items).2 <;> rfl

theorem carries_tokenPass {β : Type} {find : Token → Option β}
    (make : Token → β → Tagger.Part → Except TagFault (Option Entity))
    (found : ∀ token, find (r.token token) = find token)
    (free : ∀ token x, Tagger.PlaceFree (make token x))
    (same : ∀ token x, make (r.token token) x = make token x) :
    r.Carries
      (Tagger.tokenPass (Token.scan question) find fun token x => make token x (Tagger.tokenPart question token))
      (Tagger.tokenPass (Token.scan other) find fun token x => make token x (Tagger.tokenPart other token)) := by
  let candidates := (Token.scan question).filterMap fun token => (find token).map fun x => (token, x)
  let move : Token × β → Token × β := fun pair => (r.token pair.1, pair.2)
  have moved : ((Token.scan other).filterMap fun token => (find token).map fun x => (token, x)) =
      candidates.map move := by
    rw [r.tokens, List.filterMap_map, List.map_filterMap]
    congr 1
    funext token
    have here : find ⟨token.text, r.offset token.start, r.offset token.stop⟩ = find token := found token
    simp only [Function.comp_apply, here]
    cases find token <;> rfl
  have moves : r.Moves (Tagger.tokenCourse make) move candidates := by
    refine ⟨fun pair _ => free pair.1 pair.2, ?_, fun _ _ => rfl, fun _ _ => rfl, fun pair _ => same pair.1 pair.2⟩
    intro pair member
    obtain ⟨token, among, given⟩ := List.mem_filterMap.mp member
    obtain ⟨x, _, rfl⟩ := Option.map_eq_some_iff.mp given
    exact r.tokens_fit token among
  have carried := r.carries_sweep moves
  rw [← moved] at carried
  exact carried

theorem carries_tablePass (v : Vocabulary) :
    r.Carries (Tagger.tablePass v question (Token.scan question))
      (Tagger.tablePass v other (Token.scan other)) :=
  r.carries_tokenPass (fun _ word p => .ok (some (Tagger.tableEntity p word))) (fun _ => rfl)
    (fun _ _ => Tagger.placeFree_ok _ fun _ _ => rfl) (fun _ _ => rfl)

theorem carries_pronounPass (v : Vocabulary) (asker : Asker) :
    r.Carries (Tagger.pronounPass v asker question (Token.scan question))
      (Tagger.pronounPass v asker other (Token.scan other)) :=
  r.carries_tokenPass (fun _ _ p => .ok (some (Tagger.pronounEntity p asker))) (fun _ => rfl)
    (fun _ _ => Tagger.placeFree_ok _ fun _ _ => rfl) (fun _ _ => rfl)

theorem carries_temporalPass (v : Vocabulary) (asker : Asker) :
    r.Carries (Tagger.temporalPass v asker question (Token.scan question))
      (Tagger.temporalPass v asker other (Token.scan other)) :=
  r.carries_tokenPass (fun _ k p => (Tagger.keywordEntity p k 0.9 asker.now).map some) (fun _ => rfl)
    (fun _ k => Tagger.placeFree_keyword k 0.9 asker.now) (fun _ _ => rfl)

theorem carries_keywordPass (v : Vocabulary) (asker : Asker) :
    r.Carries (Tagger.keywordPass v asker question (Token.scan question))
      (Tagger.keywordPass v asker other (Token.scan other)) :=
  r.carries_tokenPass (fun _ k p => (Tagger.keywordEntity p k 0.8 asker.now).map some) (fun _ => rfl)
    (fun _ k => Tagger.placeFree_keyword k 0.8 asker.now) (fun _ _ => rfl)

theorem carries_namePass (v : Vocabulary) (directory : Option Directory) :
    r.Carries (Tagger.namePass v directory question (Token.scan question))
      (Tagger.namePass v directory other (Token.scan other)) := by
  intro claims claims' fits same
  cases directory with
  | none => exact ⟨fits, same, List.Perm.refl _⟩
  | some d =>
    cases loaded : d.load with
    | error fault =>
      simp only [Tagger.namePass, loaded]
      exact ⟨fits, same, List.Perm.refl _⟩
    | ok _ =>
      simp only [Tagger.namePass, loaded]
      exact r.carries_tokenPass (fun token _ p => Tagger.nameEntity v d p token) (fun _ => rfl)
        (fun token _ => Tagger.placeFree_name v d token) (fun _ _ => rfl) claims claims' fits same

theorem bound?_comparison (comparisons : List (String × Bound)) (hit : ComparisonHit) :
    (r.comparison hit).bound? comparisons = hit.bound? comparisons := by
  unfold ComparisonHit.bound?
  simp only [comparison, r.phrase]

theorem comparisonEntity_comparison (comparisons : List (String × Bound)) (hit : ComparisonHit)
    (p : Tagger.Part) : Tagger.comparisonEntity p comparisons (r.comparison hit) =
      Tagger.comparisonEntity p comparisons hit := by
  have numeral : (r.comparison hit).numeral = hit.numeral := rfl
  have number : (r.comparison hit).number = hit.number := by
    simp only [ComparisonHit.number, numeral]
  simp only [Tagger.comparisonEntity, r.bound?_comparison, number, numeral]

theorem carries_comparisonPass (v : Vocabulary) :
    r.Carries (Tagger.comparisonPass v question) (Tagger.comparisonPass v other) := by
  have moves : r.Moves (Tagger.comparisonCourse v.comparisons) r.comparison
      (ComparisonHit.scan v.comparisons question) :=
    ⟨fun hit _ => Tagger.placeFree_comparison v.comparisons hit, r.comparisons_fit v.comparisons,
      fun _ _ => rfl, fun _ _ => rfl,
      fun hit _ => funext fun p => r.comparisonEntity_comparison v.comparisons hit p⟩
  have carried := r.carries_sweep moves
  have moved : (ComparisonHit.scan v.comparisons question).map r.comparison =
      ComparisonHit.scan v.comparisons other := (r.comparisons v.comparisons).symm
  rw [moved] at carried
  exact carried

end Respelling

namespace Tagger

theorem tag_wellPlaced (t : Tagger) (directory : Option Directory) (asker : Asker) (question : String) :
    ∀ e ∈ (t.tag directory asker question).1, e.WellPlaced question.toList :=
  t.tag_all (t.passesOver_find directory asker question)

theorem tag_increasing (t : Tagger) (directory : Option Directory) (asker : Asker) (question : String) :
    (t.tag directory asker question).1.Pairwise fun a b => a.span.start < b.span.start := by
  obtain ⟨_, takes, _, returned, _⟩ := Pass.run_takes (t.passesOver_find directory asker question) []
  have apart := Entity.inOrder_apart (takes.apart.sublist returned)
  have sorted := Entity.inOrder_sorted (Pass.run (t.passesOver directory asker question) []).2
  have placed := t.tag_wellPlaced directory asker question
  rw [t.tag_eq] at placed ⊢
  refine (sorted.and apart).imp_of_mem ?_
  intro a b memberA memberB both
  obtain ⟨ordered, free⟩ := both
  rw [Span.overlaps_comm] at free
  have lengthA := (placed a memberA).nonempty
  have lengthB := (placed b memberB).nonempty
  have behind := Span.stop_le_start ordered free lengthB
  omega

end Tagger

namespace Respelling

variable {question other : String} (r : Respelling question.toList other.toList)

/-- Where the phrases are tried to the same effect, the entities of the other spelling are those of the question,
at the places that correspond. -/
theorem tag_map (t : Tagger) (directory : Option Directory) (asker : Asker)
    (phrases : let names := (t.indexed directory).1
      let taken := (Tagger.tablePass t.vocabulary question.toList (Token.scan question.toList) []).1
      ∀ taken', (∀ span ∈ taken, r.Fits span) → taken'.Perm (taken.map r.span) →
        r.Agrees
          (Pass.returned
            (Tagger.phrasePass t.vocabulary names asker question.toList (Token.scan question.toList) taken))
          (Pass.returned
            (Tagger.phrasePass t.vocabulary names asker other.toList (Token.scan other.toList) taken'))) :
    (t.tag directory asker other).1 = (t.tag directory asker question).1.map r.entity := by
  have agrees : r.Agrees (Pass.run (t.passesOver directory asker question) [])
      (Pass.run (t.passesOver directory asker other) []) := by
    have blank : Text.isBlankText other = Text.isBlankText question := r.blank
    unfold Tagger.passesOver
    rw [blank]
    cases Text.isBlankText question with
    | true => exact ⟨nofun, List.Perm.refl _, List.Perm.refl _⟩
    | false =>
      have tables := r.carries_tablePass t.vocabulary [] [] nofun (List.Perm.refl _)
      have names := r.carries_namePass t.vocabulary directory
      have pronouns := r.carries_pronounPass t.vocabulary asker
      have times := r.carries_temporalPass t.vocabulary asker
      have comparisons := r.carries_comparisonPass t.vocabulary
      have keywords := r.carries_keywordPass t.vocabulary asker
      have later := r.runsAgree_cons names <| r.runsAgree_cons pronouns <| r.runsAgree_cons times <|
        r.runsAgree_cons comparisons <| r.runsAgree_cons keywords r.runsAgree_nil
      have here := phrases _ tables.fits tables.claims
      exact r.run_agrees tables (r.run_agrees here (later _ _ here.fits here.claims))
  -- both lists are in the order of their starts, so that they hold the same entities makes them equal
  obtain ⟨accepted, takes, _, returned, _⟩ :=
    Pass.run_takes (t.passesOver_find directory asker question) []
  have fits : ∀ e ∈ (t.tag directory asker question).1, r.Fits e.span := by
    intro e member
    rw [t.tag_eq, Entity.mem_inOrder] at member
    apply agrees.fits
    rw [takes.spans, List.append_nil, List.mem_reverse]
    exact List.mem_map_of_mem (returned.mem member)
  have increasing : ((t.tag directory asker question).1.map r.entity).Pairwise
      fun a b => a.span.start < b.span.start := by
    refine List.pairwise_map.mpr ((t.tag_increasing directory asker question).imp_of_mem ?_)
    intro a b memberA memberB before
    obtain ⟨startA, stopA, spanA, fitsA, _⟩ := fits a memberA
    obtain ⟨startB, stopB, spanB, fitsB, _⟩ := fits b memberB
    rw [spanA, spanB, Int.ofNat_lt] at before
    simp only [entity, Entity.putOn, Tagger.part, spanA, spanB, Int.toNat_natCast, Int.ofNat_lt]
    exact r.increasing _ _ fitsA fitsB before
  refine List.Perm.eq_of_pairwise ?_ (t.tag_increasing directory asker other) increasing ?_
  · intro a b _ _ before after
    omega
  · rw [t.tag_eq, t.tag_eq]
    have found := agrees.found.trans ((Entity.inOrder_perm _).symm.map r.entity)
    exact (Entity.inOrder_perm _).trans found

end Respelling

end TableTalk
