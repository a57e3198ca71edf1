import TableTalk.Calendar.Period
import TableTalk.Proofs.Calendar.Date

namespace TableTalk

namespace Period

def name : Period → String
  | .week => "week"
  | .month => "month"
  | .year => "year"

def index : Period → Date → Int
  | .week, d => ((d.number - 1) / 7 : Nat)
  | .month, d => d.year * 12 + (d.month - 1 : Nat)
  | .year, d => d.year

/-- Weeks start on Mondays, months on their first day, and years on the first day of their first month. -/
def Opens : Period → Date → Prop
  | .week, d => d.weekday = 0
  | .month, d => d.day = 1
  | .year, d => d.month = 1 ∧ d.day = 1

/-- A day of the calendar on which a period starts. -/
def IsFirst (p : Period) (d : Date) : Prop :=
  d.Valid ∧ p.Opens d

instance (p : Period) (d : Date) : Decidable (p.IsFirst d) := by
  unfold IsFirst Opens
  cases p <;> infer_instance

variable {p : Period} {d s e : Date}

theorem before_first (valid : d.Valid) (first : p.IsFirst s) : d.Before s ↔ p.index d < p.index s := by
  obtain ⟨validS, opens⟩ := first
  cases p with
  | week =>
    have one := valid.number_bounds
    have other := validS.number_bounds
    simp only [Opens, Date.weekday] at opens
    rw [← Date.number_lt_iff valid validS]
    simp only [index, Int.ofNat_lt]
    omega
  | month =>
    obtain ⟨_, _, low, high, day, _⟩ := valid
    obtain ⟨_, _, low', high', _⟩ := validS
    simp only [Opens] at opens
    simp only [Date.Before, index]
    omega
  | year =>
    obtain ⟨_, _, low, high, day, _⟩ := valid
    simp only [Opens] at opens
    simp only [Date.Before, index, Int.ofNat_lt]
    omega

theorem first_unique (first : p.IsFirst s) (other : p.IsFirst e) (same : p.index s = p.index e) : s = e := by
  rcases Date.before_or s e with before | equal | after
  · have less := (before_first first.1 other).mp before
    omega
  · exact equal
  · have more := (before_first other.1 first).mp after
    omega

theorem firstOfMonth_ok {year : Int} {month : Nat} :
    firstOfMonth year month = .ok e ↔ 1 ≤ year ∧ year ≤ Date.maxYear ∧ e = ⟨year.toNat, month, 1⟩ := by
  unfold firstOfMonth
  split
  · rename_i inside
    exact ⟨fun same => ⟨inside.1, inside.2, (Except.ok.inj same).symm⟩, fun given => by rw [given.2.2]⟩
  · rename_i outside
    exact ⟨nofun, fun given => absurd ⟨given.1, given.2.1⟩ outside⟩

theorem valid_firstOfMonth {year month : Nat} (low : 1 ≤ year) (high : year ≤ Date.maxYear) (first : 1 ≤ month)
    (last : month ≤ 12) : (⟨year, month, 1⟩ : Date).Valid := by
  refine ⟨low, high, first, last, Nat.le_refl 1, ?_⟩
  dsimp only [Date.daysInMonth]
  split
  · split <;> omega
  · split <;> omega

theorem week_ends : index .week ⟨1, 1, 1⟩ = 0 ∧ index .week ⟨Date.maxYear, 12, 31⟩ = 521722 := by
  decide

theorem month_ends : index .month ⟨1, 1, 1⟩ = 12 ∧ index .month ⟨Date.maxYear, 12, 31⟩ = 119999 := by
  decide

theorem year_ends : index .year ⟨1, 1, 1⟩ = 1 ∧ index .year ⟨Date.maxYear, 12, 31⟩ = 9999 := by
  decide

theorem exists_first {i : Int} (low : p.index ⟨1, 1, 1⟩ ≤ i) (high : i ≤ p.index ⟨Date.maxYear, 12, 31⟩) :
    ∃ s, p.IsFirst s ∧ p.index s = i := by
  cases p with
  | week =>
    obtain ⟨lowest, highest⟩ := week_ends
    have last : 3652059 = Date.lastNumber := rfl
    obtain ⟨valid, number⟩ := Date.ofNumber_valid (n := 7 * i.toNat + 1) (by omega) (by omega)
    refine ⟨_, ⟨valid, ?_⟩, ?_⟩
    · simp only [Opens, Date.weekday, number]
      omega
    · simp only [index, number]
      omega
  | month =>
    obtain ⟨lowest, highest⟩ := month_ends
    have last : 9999 = Date.maxYear := rfl
    refine ⟨⟨(i / 12).toNat, (i % 12).toNat + 1, 1⟩,
      ⟨valid_firstOfMonth (by omega) (by omega) (by omega) (by omega), rfl⟩, ?_⟩
    simp only [index]
    omega
  | year =>
    obtain ⟨lowest, highest⟩ := year_ends
    have last : 9999 = Date.maxYear := rfl
    refine ⟨⟨i.toNat, 1, 1⟩, ⟨valid_firstOfMonth (by omega) (by omega) (by omega) (by omega), rfl, rfl⟩, ?_⟩
    simp only [index]
    omega

theorem startOf_ok (valid : d.Valid) : p.startOf d = .ok s ↔ p.IsFirst s ∧ p.index s = p.index d := by
  -- it is enough that the start of the period is a first day of it, as there is only one
  suffices started : ∃ start, p.startOf d = .ok start ∧ p.IsFirst start ∧ p.index start = p.index d by
    obtain ⟨start, found, first, same⟩ := started
    rw [found]
    constructor
    · rintro equal
      cases equal
      exact ⟨first, same⟩
    · rintro ⟨first', same'⟩
      rw [first_unique first first' (same.trans same'.symm)]
  cases p with
  | week =>
    have bounds := valid.number_bounds
    obtain ⟨valid', number⟩ := Date.ofNumber_valid (n := d.number - (d.number + 6) % 7) (by omega) (by omega)
    refine ⟨_, Date.addDays_ok.mpr ⟨valid', ?_⟩, ⟨valid', ?_⟩, ?_⟩
    · rw [number, Date.weekday]
      omega
    · simp only [Opens, Date.weekday, number]
      omega
    · simp only [index, number]
      omega
  | month =>
    obtain ⟨low, high, first, last, _⟩ := valid
    exact ⟨_, rfl, ⟨valid_firstOfMonth low high first last, rfl⟩, rfl⟩
  | year =>
    obtain ⟨low, high, _⟩ := valid
    exact ⟨_, rfl, ⟨valid_firstOfMonth low high (by decide) (by decide), rfl, rfl⟩, rfl⟩

theorem shift_ok (first : p.IsFirst s) (n : Int) :
    p.shift s n = .ok e ↔ p.IsFirst e ∧ p.index e = p.index s + n := by
  obtain ⟨valid, opens⟩ := first
  cases p with
  | week =>
    have bounds := valid.number_bounds
    simp only [Opens, Date.weekday] at opens
    rw [shift, Date.addDays_ok, IsFirst, and_assoc]
    refine and_congr_right fun valid' => ?_
    have bounds' := valid'.number_bounds
    simp only [Opens, Date.weekday, index]
    omega
  | month =>
    obtain ⟨low, high, month, months, _⟩ := valid
    simp only [Opens] at opens
    unfold shift
    dsimp only
    rw [Int.fdiv_eq_ediv_of_nonneg _ (by decide), Int.fmod_eq_emod_of_nonneg _ (by decide), firstOfMonth_ok]
    constructor
    · rintro ⟨low', high', rfl⟩
      refine ⟨⟨valid_firstOfMonth (by omega) (by omega) (by omega) (by omega), rfl⟩, ?_⟩
      simp only [index]
      omega
    · rintro ⟨⟨⟨low', high', month', months', _⟩, opens'⟩, same⟩
      obtain ⟨year', m', day'⟩ := e
      simp only [Opens, index] at opens' same low' high' month' months'
      subst opens'
      refine ⟨by omega, by omega, ?_⟩
      rw [Date.mk.injEq]
      omega
  | year =>
    obtain ⟨low, high, _⟩ := valid
    rw [shift, firstOfMonth_ok]
    constructor
    · rintro ⟨low', high', rfl⟩
      refine ⟨⟨valid_firstOfMonth (by omega) (by omega) (by decide) (by decide), rfl, rfl⟩, ?_⟩
      simp only [index]
      omega
    · rintro ⟨⟨⟨low', high', _⟩, opens', opens''⟩, same⟩
      obtain ⟨year', m', day'⟩ := e
      simp only [index] at opens' opens'' same low' high'
      subst opens' opens''
      refine ⟨by omega, by omega, ?_⟩
      rw [Date.mk.injEq]
      omega

end Period

end TableTalk
