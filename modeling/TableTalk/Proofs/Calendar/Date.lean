import TableTalk.Calendar.Date

namespace TableTalk.Date

def yearLength (year : Nat) : Nat :=
  if isLeap year then 366 else 365

theorem isLeap_iff {year : Nat} : isLeap year = true ↔ year % 4 = 0 ∧ (year % 100 ≠ 0 ∨ year % 400 = 0) := by
  simp [isLeap]

theorem daysBeforeYear_succ {year : Nat} (positive : 1 ≤ year) :
    daysBeforeYear (year + 1) = daysBeforeYear year + yearLength year := by
  obtain ⟨before, rfl⟩ := Nat.exists_eq_add_of_le' positive
  have fours : (before + 1) / 4 = before / 4 + if (before + 1) % 4 = 0 then 1 else 0 := by split <;> omega
  have centuries : (before + 1) / 100 = before / 100 + if (before + 1) % 100 = 0 then 1 else 0 := by
    split <;> omega
  have eras : (before + 1) / 400 = before / 400 + if (before + 1) % 400 = 0 then 1 else 0 := by split <;> omega
  have century_four : (before + 1) % 100 = 0 → (before + 1) % 4 = 0 := by omega
  have era_century : (before + 1) % 400 = 0 → (before + 1) % 100 = 0 := by omega
  have fewer : before / 100 ≤ before / 4 := by omega
  simp only [daysBeforeYear, yearLength, isLeap_iff, Nat.add_sub_cancel, fours, centuries, eras]
  clear fours centuries eras
  -- from here on the quotients and remainders are just numbers
  generalize before / 4 = four, before / 100 = century, before / 400 = era at *
  generalize (before + 1) % 4 = r4, (before + 1) % 100 = r100, (before + 1) % 400 = r400 at *
  split <;> split <;> split <;> split <;> omega

theorem daysBeforeYear_mono {one other : Nat} (positive : 1 ≤ one) (ordered : one ≤ other) :
    daysBeforeYear one ≤ daysBeforeYear other := by
  induction ordered with
  | refl => exact Nat.le_refl _
  | step later ih =>
    rw [daysBeforeYear_succ (Nat.le_trans positive later)]
    omega

theorem daysBeforeMonth_succ (year : Nat) {month : Nat} (positive : 1 ≤ month) :
    daysBeforeMonth year (month + 1) = daysBeforeMonth year month + daysInMonth year month := by
  obtain ⟨before, rfl⟩ := Nat.exists_eq_add_of_le' positive
  simp only [daysBeforeMonth, Nat.add_sub_cancel, List.range_succ, List.foldl_append, List.foldl_cons, List.foldl_nil]

theorem daysBeforeMonth_year (year : Nat) : daysBeforeMonth year 13 = yearLength year := by
  unfold yearLength
  cases leap : isLeap year <;> simp [daysBeforeMonth, daysInMonth, leap, List.range_succ]

theorem daysBeforeMonth_mono (year : Nat) {one other : Nat} (positive : 1 ≤ one) (ordered : one ≤ other) :
    daysBeforeMonth year one ≤ daysBeforeMonth year other := by
  induction ordered with
  | refl => exact Nat.le_refl _
  | step later ih =>
    rw [daysBeforeMonth_succ year (Nat.le_trans positive later)]
    omega

def dayOfYear (d : Date) : Nat :=
  daysBeforeMonth d.year d.month + d.day

theorem number_eq (d : Date) : d.number = daysBeforeYear d.year + d.dayOfYear :=
  Nat.add_assoc _ _ _

variable {d e : Date}

theorem Valid.dayOfYear (valid : d.Valid) :
    daysBeforeMonth d.year d.month < d.dayOfYear ∧ d.dayOfYear ≤ daysBeforeMonth d.year (d.month + 1) := by
  obtain ⟨_, _, month, _, day, last⟩ := valid
  rw [daysBeforeMonth_succ d.year month]
  unfold Date.dayOfYear
  omega

theorem Valid.number (valid : d.Valid) :
    daysBeforeYear d.year < d.number ∧ d.number ≤ daysBeforeYear (d.year + 1) := by
  have inside := valid.dayOfYear
  obtain ⟨year, _, month, months, _⟩ := valid
  have length := daysBeforeMonth_mono d.year (show 1 ≤ d.month + 1 by omega) (show d.month + 1 ≤ 13 by omega)
  rw [daysBeforeMonth_year] at length
  rw [number_eq, daysBeforeYear_succ year]
  omega

theorem Valid.number_bounds (valid : d.Valid) : 1 ≤ d.number ∧ d.number ≤ lastNumber := by
  have inside := valid.number
  have last : daysBeforeYear (maxYear + 1) = lastNumber := by decide
  have length := daysBeforeYear_mono (show 1 ≤ d.year + 1 by omega)
    (show d.year + 1 ≤ maxYear + 1 from Nat.succ_le_succ valid.2.1)
  omega

def Before (d e : Date) : Prop :=
  d.year < e.year ∨ d.year = e.year ∧ (d.month < e.month ∨ d.month = e.month ∧ d.day < e.day)

theorem Before.number_lt (validD : d.Valid) (validE : e.Valid) (before : d.Before e) : d.number < e.number := by
  rcases before with year | ⟨year, month | ⟨month, day⟩⟩
  · have later := daysBeforeYear_mono (show 1 ≤ d.year + 1 by omega) (show d.year + 1 ≤ e.year from year)
    have first := validD.number
    have second := validE.number
    omega
  · have later := daysBeforeMonth_mono d.year (show 1 ≤ d.month + 1 by omega) (show d.month + 1 ≤ e.month from month)
    have first := validD.dayOfYear
    have second := validE.dayOfYear
    rw [number_eq, number_eq, ← year]
    rw [← year] at second
    omega
  · rw [number_eq, number_eq, dayOfYear, dayOfYear, year, month]
    omega

theorem before_or (d e : Date) : d.Before e ∨ d = e ∨ e.Before d := by
  obtain ⟨year, month, day⟩ := d
  obtain ⟨year', month', day'⟩ := e
  simp only [Before, mk.injEq]
  omega

theorem number_lt_iff (validD : d.Valid) (validE : e.Valid) : d.number < e.number ↔ d.Before e := by
  refine ⟨fun less => ?_, Before.number_lt validD validE⟩
  rcases before_or d e with before | rfl | after
  · exact before
  · omega
  · have more := after.number_lt validE validD
    omega

theorem number_inj (validD : d.Valid) (validE : e.Valid) (same : d.number = e.number) : d = e := by
  rcases before_or d e with before | equal | after
  · have less := before.number_lt validD validE
    omega
  · exact equal
  · have more := after.number_lt validE validD
    omega

theorem inYear_valid (year : Nat) {months month day : Nat} (month_pos : 1 ≤ month) (day_pos : 1 ≤ day)
    (inside : daysBeforeMonth year month + day ≤ daysBeforeMonth year (month + months + 1)) :
    ∃ m k, inYear year months month day = ⟨year, m, k⟩ ∧ month ≤ m ∧ m ≤ month + months ∧
      1 ≤ k ∧ k ≤ daysInMonth year m ∧ daysBeforeMonth year m + k = daysBeforeMonth year month + day := by
  induction months generalizing month day with
  | zero =>
    rw [Nat.add_zero, daysBeforeMonth_succ year month_pos] at inside
    exact ⟨month, day, rfl, Nat.le_refl _, Nat.le_refl _, day_pos, by omega, rfl⟩
  | succ months ih =>
    rw [inYear]
    split
    · rename_i here
      exact ⟨month, day, rfl, Nat.le_refl _, Nat.le_add_right _ _, day_pos, here, rfl⟩
    · rename_i later
      have next := daysBeforeMonth_succ year month_pos
      have place : month + 1 + months + 1 = month + (months + 1) + 1 := by omega
      have rest : daysBeforeMonth year (month + 1) + (day - daysInMonth year month) ≤
          daysBeforeMonth year (month + 1 + months + 1) := by
        rw [place]
        omega
      obtain ⟨m, k, found, low, high, first, last, same⟩ := ih (by omega) (by omega) rest
      exact ⟨m, k, found, by omega, by omega, first, last, by omega⟩

theorem daysBeforeYear_cycles {era century cycle year : Nat} (centuries : century ≤ 3) (cycles : cycle ≤ 24)
    (years : year ≤ 3) : daysBeforeYear (400 * era + 100 * century + 4 * cycle + year + 1) =
      146097 * era + 36524 * century + 1461 * cycle + 365 * year := by
  unfold daysBeforeYear
  dsimp only
  omega

theorem ofNumber_eq {n : Nat} (positive : 1 ≤ n) : ∃ year day, ofNumber n = inYear year 11 1 day ∧
    1 ≤ year ∧ 1 ≤ day ∧ day ≤ yearLength year ∧ daysBeforeYear year + day = n := by
  refine ⟨_, _, rfl, by omega, by omega, ?_, ?_⟩
  · -- only the last day of a cycle of four years is the 366th of its year
    generalize n - 1 = days
    have leap := @isLeap_iff (400 * (days / 146097) + 100 * min (days % 146097 / 36524) 3 +
      4 * ((days % 146097 - 36524 * min (days % 146097 / 36524) 3) / 1461) +
        min ((days % 146097 - 36524 * min (days % 146097 / 36524) 3) % 1461 / 365) 3 + 1)
    unfold yearLength
    split
    · omega
    · rename_i common
      rw [leap] at common
      omega
  · rw [daysBeforeYear_cycles (by omega) (by omega) (by omega)]
    omega

theorem ofNumber_valid {n : Nat} (positive : 1 ≤ n) (bounded : n ≤ lastNumber) :
    (ofNumber n).Valid ∧ (ofNumber n).number = n := by
  obtain ⟨year, day, same, year_pos, day_pos, inside, number⟩ := ofNumber_eq positive
  have first : daysBeforeMonth year 1 = 0 := rfl
  have whole : daysBeforeMonth year 1 + day ≤ daysBeforeMonth year (1 + 11 + 1) := by
    rw [daysBeforeMonth_year, first]
    omega
  obtain ⟨m, k, found, low, high, k_pos, k_le, count⟩ := inYear_valid year (Nat.le_refl 1) day_pos whole
  have last : year ≤ maxYear := by
    rcases Nat.lt_or_ge maxYear year with late | early
    · have length := daysBeforeYear_mono (show 1 ≤ maxYear + 1 by decide) (show maxYear + 1 ≤ year from late)
      have all : daysBeforeYear (maxYear + 1) = lastNumber := by decide
      omega
    · exact early
  rw [same, found]
  refine ⟨⟨year_pos, last, low, high, k_pos, k_le⟩, ?_⟩
  rw [number_eq, dayOfYear, count, first, Nat.zero_add, number]

theorem addDays_ok {days : Int} : d.addDays days = .ok e ↔ e.Valid ∧ (e.number : Int) = d.number + days := by
  unfold addDays
  dsimp only
  split
  · rename_i inside
    obtain ⟨valid, number⟩ := ofNumber_valid (n := (d.number + days).toNat) (by omega) (by omega)
    constructor
    · rintro same
      cases same
      exact ⟨valid, by omega⟩
    · rintro ⟨valid', number'⟩
      exact congrArg Except.ok (number_inj valid valid' (by omega))
  · rename_i outside
    refine ⟨nofun, ?_⟩
    rintro ⟨valid, number⟩
    have bounds := valid.number_bounds
    omega

end TableTalk.Date
