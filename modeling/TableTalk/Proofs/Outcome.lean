namespace TableTalk.Outcome

variable {ε α β : Type}

theorem bind_ok {first : Except ε α} {next : α → Except ε β} {b : β} :
    first >>= next = .ok b ↔ ∃ a, first = .ok a ∧ next a = .ok b := by
  cases first with
  | error fault => exact ⟨nofun, fun ⟨_, same, _⟩ => nomatch same⟩
  | ok a =>
    constructor
    · intro done
      exact ⟨a, rfl, done⟩
    · intro given
      rcases given with ⟨_, same, done⟩
      cases same
      exact done

theorem bind_error {first : Except ε α} {next : α → Except ε β} {fault : ε} :
    first >>= next = .error fault ↔ first = .error fault ∨ ∃ a, first = .ok a ∧ next a = .error fault := by
  cases first with
  | error other =>
    constructor
    · intro failed
      exact Or.inl (by cases failed; rfl)
    · rintro (failed | ⟨_, same, _⟩)
      · cases failed
        rfl
      · cases same
  | ok a =>
    constructor
    · exact fun failed => Or.inr ⟨a, rfl, failed⟩
    · rintro (failed | ⟨_, same, failed⟩)
      · cases failed
      · cases same
        exact failed

def FailsOnly (P : ε → Prop) (result : Except ε α) : Prop :=
  ∀ fault, result = .error fault → P fault

theorem FailsOnly.bind {P : ε → Prop} {first : Except ε α} {next : α → Except ε β} (here : FailsOnly P first)
    (there : ∀ a, FailsOnly P (next a)) : FailsOnly P (first >>= next) := by
  intro fault failed
  rcases bind_error.mp failed with failed | ⟨a, _, failed⟩
  · exact here fault failed
  · exact there a fault failed

theorem check_ok {check : Except ε Unit} {next : Unit → Except ε β} {b : β} :
    check >>= next = .ok b ↔ check = .ok () ∧ next () = .ok b := by
  rw [bind_ok]
  exact ⟨fun ⟨_, passed, done⟩ => ⟨passed, done⟩, fun ⟨passed, done⟩ => ⟨(), passed, done⟩⟩

theorem isOk_iff {check : Except ε Unit} : check.isOk = true ↔ check = .ok () := by
  cases check with
  | error fault => exact ⟨nofun, nofun⟩
  | ok _ => exact ⟨fun _ => rfl, fun _ => rfl⟩

theorem refuse_iff {condition : Prop} [Decidable condition] {fault : ε} :
    (if condition then throw fault else pure () : Except ε Unit) = .ok () ↔ ¬ condition := by
  by_cases here : condition
  · rw [if_pos here]
    exact ⟨nofun, fun other => absurd here other⟩
  · rw [if_neg here]
    exact ⟨fun _ => here, fun _ => rfl⟩

theorem mapError_ok {ε' : Type} {f : ε → ε'} {result : Except ε α} {a : α} :
    result.mapError f = .ok a ↔ result = .ok a := by
  cases result with
  | error fault => exact ⟨nofun, nofun⟩
  | ok b =>
    exact ⟨fun same => congrArg Except.ok (Except.ok.inj same), fun same => congrArg Except.ok (Except.ok.inj same)⟩

theorem pure_ok {a b : α} : (pure a : Except ε α) = .ok b ↔ a = b :=
  ⟨Except.ok.inj, congrArg Except.ok⟩

theorem foldlM_keeps {P : β → Prop} {step : β → α → Except ε β} {items : List α}
    (keeps : ∀ a ∈ items, ∀ b b', step b a = .ok b' → P b → P b') {first last : β}
    (done : items.foldlM step first = .ok last) (holds : P first) : P last := by
  induction items generalizing first with
  | nil =>
    cases done
    exact holds
  | cons a rest ih =>
    obtain ⟨here, there⟩ := List.forall_mem_cons.mp keeps
    rw [List.foldlM_cons] at done
    obtain ⟨next, made, later⟩ := bind_ok.mp done
    exact ih there later (here first next made holds)

end TableTalk.Outcome
