import TableTalk.Proofs.Calendar.Period

namespace TableTalk.Period

variable {p : Period} {d e f : Date} {m n : Int}

/-- Whether a number is that of a period of the calendar, from the first day of the year 1 on up to the last one of the
year 9999. -/
def InCalendar (p : Period) (i : Int) : Prop :=
  p.index ⟨1, 1, 1⟩ ≤ i ∧ i ≤ p.index ⟨Date.maxYear, 12, 31⟩

theorem inCalendar_index (p : Period) (valid : d.Valid) : p.InCalendar (p.index d) := by
  unfold InCalendar
  cases p with
  | week =>
    have bounds := valid.number_bounds
    have last : Date.lastNumber = 3652059 := rfl
    obtain ⟨lowest, highest⟩ := week_ends
    rw [lowest, highest]
    simp only [index]
    omega
  | month =>
    obtain ⟨low, high, month, months, _⟩ := valid
    simp only [index]
    omega
  | year =>
    obtain ⟨low, high, _⟩ := valid
    simp only [index]
    omega

theorem isFirst_iff : p.IsFirst d ↔ d.Valid ∧ p.startOf d = .ok d := by
  refine ⟨fun first => ⟨first.1, (startOf_ok first.1).mpr ⟨first, rfl⟩⟩, ?_⟩
  rintro ⟨valid, start⟩
  exact ((startOf_ok valid).mp start).1

theorem exists_shift_iff (first : p.IsFirst d) (n : Int) :
    (∃ e, p.shift d n = .ok e) ↔ p.InCalendar (p.index d + n) := by
  constructor
  · rintro ⟨e, shifted⟩
    obtain ⟨first', index⟩ := (shift_ok first n).mp shifted
    rw [← index]
    exact p.inCalendar_index first'.1
  · rintro ⟨low, high⟩
    obtain ⟨e, first', index⟩ := p.exists_first low high
    exact ⟨e, (shift_ok first n).mpr ⟨first', index⟩⟩

theorem shift_zero (first : p.IsFirst d) : p.shift d 0 = .ok d :=
  (shift_ok first 0).mpr ⟨first, (Int.add_zero _).symm⟩

theorem shift_shift (first : p.IsFirst d) (shifted : p.shift d m = .ok e) (n : Int) :
    p.shift e n = .ok f ↔ p.shift d (m + n) = .ok f := by
  obtain ⟨first', index⟩ := (shift_ok first m).mp shifted
  rw [shift_ok first' n, shift_ok first (m + n), index, Int.add_assoc]

theorem shift_before_iff (first : p.IsFirst d) (one : p.shift d m = .ok e) (other : p.shift d n = .ok f) :
    e.Before f ↔ m < n := by
  obtain ⟨firstE, indexE⟩ := (shift_ok first m).mp one
  obtain ⟨firstF, indexF⟩ := (shift_ok first n).mp other
  rw [before_first firstE.1 firstF, indexE, indexF]
  omega

/-- How the integers act on the first day of a period. A shift fails only where the calendar ends, and what is shifted
twice is shifted by the sum, wherever the sum leads. -/
structure ShiftAction (p : Period) (d : Date) : Prop where
  reached : ∀ n, (∃ e, p.shift d n = .ok e) ↔ p.InCalendar (p.index d + n)
  first : ∀ n e, p.shift d n = .ok e → p.IsFirst e ∧ p.startOf e = .ok e
  zero : p.shift d 0 = .ok d
  added : ∀ m n e f, p.shift d m = .ok e → (p.shift e n = .ok f ↔ p.shift d (m + n) = .ok f)
  ordered : ∀ m n e f, p.shift d m = .ok e → p.shift d n = .ok f → (e.Before f ↔ m < n)

/-- The integers act on the days that are the start of their period, as far as the calendar goes. -/
theorem shift_action (p : Period) {d : Date} (valid : d.Valid) (start : p.startOf d = .ok d) : p.ShiftAction d := by
  have first : p.IsFirst d := isFirst_iff.mpr ⟨valid, start⟩
  exact {
    reached := exists_shift_iff first
    first := by
      intro n e shifted
      have first' := ((shift_ok first n).mp shifted).1
      exact ⟨first', (isFirst_iff.mp first').2⟩
    zero := shift_zero first
    added := fun m n e f shifted => shift_shift first shifted n
    ordered := fun m n e f one other => shift_before_iff first one other }

theorem january_shifted :
    let d : Date := ⟨2024, 1, 1⟩
    let back : Date := ⟨2022, 12, 1⟩
    let later : Date := ⟨2025, 3, 1⟩
    d.Valid ∧ Period.month.startOf d = .ok d ∧ Period.month.shift d (-13) = .ok back ∧
      Period.month.shift back 27 = .ok later ∧ d.Before later := by
  intro d back later
  have first : Period.month.IsFirst d := ⟨by decide, rfl⟩
  have action := shift_action .month first.1 rfl
  have shifted : Period.month.shift d (-13) = .ok back :=
    (shift_ok first (-13)).mpr (by decide)
  have onwards : Period.month.shift d (-13 + 27) = .ok later :=
    (shift_ok first (-13 + 27)).mpr (by decide)
  exact ⟨first.1, rfl, shifted, (action.added (-13) 27 back later shifted).mpr onwards,
    (action.ordered 0 (-13 + 27) d later action.zero onwards).mpr (by decide)⟩

end TableTalk.Period
