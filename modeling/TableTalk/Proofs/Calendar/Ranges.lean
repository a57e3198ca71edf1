import TableTalk.Proofs.Calendar.Period

namespace TableTalk

namespace Moment

def microsPerDay : Nat := 86400 * microsPerSecond

def Valid (m : Moment) : Prop :=
  m.date.Valid ∧ m.micros < microsPerDay

instance (m : Moment) : Decidable m.Valid :=
  inferInstanceAs (Decidable (_ ∧ _))

def Before (m n : Moment) : Prop :=
  m.date.Before n.date ∨ m.date = n.date ∧ m.micros < n.micros

variable {m : Moment} {d : Date}

theorem before_midnight : m.Before (midnight d) ↔ m.date.Before d := by
  simp [Before, midnight]

end Moment

namespace TimeRange

/-- Whether a moment lies in a range: not before its start, and before its end if it has one. -/
def Contains (r : TimeRange) (m : Moment) : Prop :=
  ¬ m.Before r.start ∧ ∀ stop, r.stop = some stop → m.Before stop

def ofDays (label : String) (first behind : Date) : TimeRange :=
  ⟨label, .midnight first, some (.midnight behind)⟩

/-- A range from the first midnight of a period up to that of the period behind it. -/
def IsPeriod (r : TimeRange) (p : Period) : Prop :=
  ∃ label first behind, p.IsFirst first ∧ p.IsFirst behind ∧ first.Before behind ∧
    (∀ d, p.IsFirst d → first.Before d → ¬ d.Before behind) ∧ r = ofDays label first behind

def IsDay (r : TimeRange) : Prop :=
  ∃ label day next, day.Valid ∧ next.Valid ∧ next.number = day.number + 1 ∧ r = ofDays label day next

theorem contains_ofDays {label : String} {first behind : Date} {m : Moment} :
    (ofDays label first behind).Contains m ↔ ¬ m.date.Before first ∧ m.date.Before behind := by
  simp [Contains, ofDays, Moment.before_midnight]

end TimeRange

namespace Period

def label (modifier : String) (p : Period) : String :=
  modifier ++ "_" ++ p.name

variable {p : Period} {s e : Date} {t : Moment}

theorem read_label (p : Period) : TimeLabel.read? (p.label "this") = some (.this p) ∧
    TimeLabel.read? (p.label "next") = some (.next p) ∧ TimeLabel.read? (p.label "last") = some (.last p) := by
  cases p <;> decide +kernel

theorem contains_iff (first : p.IsFirst s) (behind : p.IsFirst e) (adjoin : p.index e = p.index s + 1) {label : String}
    (valid : t.date.Valid) : (TimeRange.ofDays label s e).Contains t ↔ p.index t.date = p.index s := by
  rw [TimeRange.contains_ofDays, before_first valid first, before_first valid behind]
  omega

theorem isPeriod_of_adjoin (first : p.IsFirst s) (behind : p.IsFirst e) (adjoin : p.index e = p.index s + 1)
    (label : String) : (TimeRange.ofDays label s e).IsPeriod p := by
  refine ⟨label, s, e, first, behind, ?_, fun d other after before => ?_, rfl⟩
  · rw [before_first first.1 behind]
    omega
  · rw [before_first first.1 other] at after
    rw [before_first other.1 behind] at before
    omega

theorem resolve_this (first : p.IsFirst s) (behind : p.IsFirst e) (adjoin : p.index e = p.index s + 1)
    (valid : t.date.Valid) (inside : p.index t.date = p.index s) :
    TimeRange.resolve (p.label "this") t = .ok (.ofDays (p.label "this") s e) := by
  have started : p.startOf t.date = .ok s := (startOf_ok valid).mpr ⟨first, inside.symm⟩
  have shifted : p.shift s 1 = .ok e := (shift_ok first 1).mpr ⟨behind, adjoin⟩
  simp only [TimeRange.resolve, p.read_label.1, TimeLabel.days, started, bind, Except.bind, shifted]
  rfl

theorem resolve_next {later : Date} (first : p.IsFirst s) (next : p.IsFirst e) (behind : p.IsFirst later)
    (adjoin : p.index e = p.index s + 1) (adjoin' : p.index later = p.index e + 1) (valid : t.date.Valid)
    (inside : p.index t.date = p.index s) :
    TimeRange.resolve (p.label "next") t = .ok (.ofDays (p.label "next") e later) := by
  have started : p.startOf t.date = .ok s := (startOf_ok valid).mpr ⟨first, inside.symm⟩
  have shifted : p.shift s 1 = .ok e := (shift_ok first 1).mpr ⟨next, adjoin⟩
  have shifted' : p.shift e 1 = .ok later := (shift_ok next 1).mpr ⟨behind, adjoin'⟩
  simp only [TimeRange.resolve, p.read_label.2.1, TimeLabel.days, started, bind, Except.bind, shifted, shifted']
  rfl

theorem resolve_last (last : p.IsFirst s) (first : p.IsFirst e) (adjoin : p.index e = p.index s + 1)
    (valid : t.date.Valid) (inside : p.index t.date = p.index e) :
    TimeRange.resolve (p.label "last") t = .ok ⟨p.label "last", .midnight s, none⟩ := by
  have started : p.startOf t.date = .ok e := (startOf_ok valid).mpr ⟨first, inside.symm⟩
  have shifted : p.shift e (-1) = .ok s := (shift_ok first (-1)).mpr ⟨last, by omega⟩
  simp only [TimeRange.resolve, p.read_label.2.2, TimeLabel.days, started, bind, Except.bind, shifted]
  rfl

theorem index_room (p : Period) {d : Date} (valid : d.Valid) (early : 2 ≤ d.year) (late : d.year ≤ 9997) :
    p.index ⟨1, 1, 1⟩ + 1 ≤ p.index d ∧ p.index d + 2 ≤ p.index ⟨Date.maxYear, 12, 31⟩ := by
  cases p with
  | week =>
    obtain ⟨lowest, highest⟩ := week_ends
    have number := valid.number
    have before : Date.daysBeforeYear 2 ≤ _ := Date.daysBeforeYear_mono (by decide) early
    have behind := Date.daysBeforeYear_mono (by omega) (show d.year + 1 ≤ 9998 by omega)
    have first : Date.daysBeforeYear 2 = 365 := by decide
    have last : Date.daysBeforeYear 9998 = 3651329 := by decide
    simp only [index] at *
    omega
  | month =>
    obtain ⟨lowest, highest⟩ := month_ends
    obtain ⟨_, _, month, months, _⟩ := valid
    simp only [index] at *
    omega
  | year =>
    obtain ⟨lowest, highest⟩ := year_ends
    simp only [index] at *
    omega

end Period

namespace TimeRange

/-- What the expressions for a kind of period come to at a moment. This period contains the moment, the next one follows
it, and the last one ends where it starts; at any moment of a period its range is the current one. -/
structure PeriodsAround (p : Period) (now : Moment) (this next last : TimeRange) : Prop where
  this_resolved : resolve (p.label "this") now = .ok this
  next_resolved : resolve (p.label "next") now = .ok next
  last_resolved : resolve (p.label "last") now = .ok last
  periods : this.IsPeriod p ∧ next.IsPeriod p
  current : this.Contains now
  current_only : ∀ t : Moment, t.Valid → this.Contains t → resolve (p.label "this") t = .ok this
  next_adjoins : this.stop = some next.start
  next_current : ∀ t : Moment, t.Valid → next.Contains t →
    resolve (p.label "this") t = .ok { next with label := p.label "this" }
  last_open : last.stop = none
  last_period : ({ last with stop := some this.start } : TimeRange).IsPeriod p
  last_current : ∀ t : Moment, t.Valid → last.Contains t → t.Before this.start →
    resolve (p.label "this") t = .ok { last with label := p.label "this", stop := some this.start }

structure DaysAround (now : Moment) (yesterday today tomorrow : TimeRange) : Prop where
  resolved : resolve "yesterday" now = .ok yesterday ∧ resolve "today" now = .ok today ∧
    resolve "tomorrow" now = .ok tomorrow
  days : yesterday.IsDay ∧ today.IsDay ∧ tomorrow.IsDay
  adjoin : yesterday.stop = some today.start ∧ today.stop = some tomorrow.start
  current : today.Contains now

theorem exists_periodsAround (p : Period) {now : Moment} (valid : now.date.Valid) (early : 2 ≤ now.date.year)
    (late : now.date.year ≤ 9997) : ∃ this next last, PeriodsAround p now this next last := by
  obtain ⟨before, behind⟩ := p.index_room valid early late
  obtain ⟨previous, firstP, indexP⟩ := p.exists_first (i := p.index now.date - 1) (by omega) (by omega)
  obtain ⟨current, firstC, indexC⟩ := p.exists_first (i := p.index now.date) (by omega) (by omega)
  obtain ⟨following, firstF, indexF⟩ := p.exists_first (i := p.index now.date + 1) (by omega) (by omega)
  obtain ⟨later, firstL, indexL⟩ := p.exists_first (i := p.index now.date + 2) (by omega) (by omega)
  have adjoinP : p.index current = p.index previous + 1 := by omega
  have adjoinC : p.index following = p.index current + 1 := by omega
  have adjoinF : p.index later = p.index following + 1 := by omega
  refine ⟨.ofDays (p.label "this") current following, .ofDays (p.label "next") following later,
    ⟨p.label "last", .midnight previous, none⟩, ?_⟩
  exact {
    this_resolved := Period.resolve_this firstC firstF adjoinC valid indexC.symm
    next_resolved := Period.resolve_next firstC firstF firstL adjoinC adjoinF valid indexC.symm
    last_resolved := Period.resolve_last firstP firstC adjoinP valid indexC.symm
    periods := ⟨Period.isPeriod_of_adjoin firstC firstF adjoinC _, Period.isPeriod_of_adjoin firstF firstL adjoinF _⟩
    current := (Period.contains_iff firstC firstF adjoinC valid).mpr indexC.symm
    current_only := by
      intro t validT inside
      exact Period.resolve_this firstC firstF adjoinC validT.1
        ((Period.contains_iff firstC firstF adjoinC validT.1).mp inside)
    next_adjoins := rfl
    next_current := by
      intro t validT inside
      exact Period.resolve_this firstF firstL adjoinF validT.1
        ((Period.contains_iff firstF firstL adjoinF validT.1).mp inside)
    last_open := rfl
    last_period := Period.isPeriod_of_adjoin firstP firstC adjoinP _
    last_current := by
      intro t validT from_start early
      -- what is not before the start and before this period lies in the period in between
      have inside : (ofDays (p.label "last") previous current).Contains t :=
        contains_ofDays.mpr ⟨fun before => from_start.1 (Moment.before_midnight.mpr before),
          Moment.before_midnight.mp early⟩
      exact Period.resolve_this firstP firstC adjoinP validT.1
        ((Period.contains_iff firstP firstC adjoinP validT.1).mp inside) }

theorem resolve_day {label : String} {offset : Int} (read : TimeLabel.read? label = some (.day offset)) {now : Moment}
    {day next : Date} (here : now.date.addDays offset = .ok day) (behind : day.addDays 1 = .ok next) :
    resolve label now = .ok (.ofDays label day next) := by
  simp only [resolve, read, TimeLabel.days, here, bind, Except.bind, behind]
  rfl

theorem exists_daysAround {now : Moment} (valid : now.date.Valid) (early : 2 ≤ now.date.year)
    (late : now.date.year ≤ 9997) : ∃ yesterday today tomorrow, DaysAround now yesterday today tomorrow := by
  have number := valid.number
  have low := Date.daysBeforeYear_mono (by decide) early
  have high := Date.daysBeforeYear_mono (by omega) (show now.date.year + 1 ≤ 9998 by omega)
  have first : Date.daysBeforeYear 2 = 365 := by decide
  have last : Date.daysBeforeYear 9998 + 730 = Date.lastNumber := by decide
  obtain ⟨before, validB, numberB⟩ : ∃ d : Date, d.Valid ∧ d.number = now.date.number - 1 :=
    ⟨_, Date.ofNumber_valid (by omega) (by omega)⟩
  obtain ⟨next, validN, numberN⟩ : ∃ d : Date, d.Valid ∧ d.number = now.date.number + 1 :=
    ⟨_, Date.ofNumber_valid (by omega) (by omega)⟩
  obtain ⟨later, validL, numberL⟩ : ∃ d : Date, d.Valid ∧ d.number = now.date.number + 2 :=
    ⟨_, Date.ofNumber_valid (by omega) (by omega)⟩
  have to_before : now.date.addDays (-1) = .ok before := Date.addDays_ok.mpr ⟨validB, by omega⟩
  have to_here : now.date.addDays 0 = .ok now.date := Date.addDays_ok.mpr ⟨valid, by omega⟩
  have to_next : now.date.addDays 1 = .ok next := Date.addDays_ok.mpr ⟨validN, by omega⟩
  have before_here : before.addDays 1 = .ok now.date := Date.addDays_ok.mpr ⟨valid, by omega⟩
  have next_later : next.addDays 1 = .ok later := Date.addDays_ok.mpr ⟨validL, by omega⟩
  refine ⟨.ofDays "yesterday" before now.date, .ofDays "today" now.date next, .ofDays "tomorrow" next later, ?_⟩
  exact {
    resolved := ⟨resolve_day rfl to_before before_here, resolve_day rfl to_here to_next,
      resolve_day rfl to_next next_later⟩
    days := ⟨⟨_, _, _, validB, valid, by omega, rfl⟩, ⟨_, _, _, valid, validN, numberN, rfl⟩,
      ⟨_, _, _, validN, validL, by omega, rfl⟩⟩
    adjoin := ⟨rfl, rfl⟩
    current := by
      refine contains_ofDays.mpr ⟨fun before => ?_, (Date.number_lt_iff valid validN).mp (by omega)⟩
      exact Nat.lt_irrefl _ (before.number_lt valid valid) }

/-- The periods of each kind tile the time around any moment but the first year and the last two years of the calendar, and
so do days. -/
theorem resolve_tiles (now : Moment) (valid : now.Valid) (early : 2 ≤ now.date.year) (late : now.date.year ≤ 9997) :
    (∀ p : Period, ∃ this next last, PeriodsAround p now this next last) ∧
      ∃ yesterday today tomorrow, DaysAround now yesterday today tomorrow :=
  ⟨fun p => exists_periodsAround p valid.1 early late, exists_daysAround valid.1 early late⟩

theorem leap_day_tiled :
    let now : Moment := ⟨⟨2024, 2, 29⟩, 86399999999⟩
    now.Valid ∧ 2 ≤ now.date.year ∧ now.date.year ≤ 9997 ∧
      ∃ next last, PeriodsAround .month now (ofDays "this_month" ⟨2024, 2, 1⟩ ⟨2024, 3, 1⟩) next last := by
  intro now
  have valid : now.Valid := by decide
  obtain ⟨this, next, last, around⟩ := (resolve_tiles now valid (by decide) (by decide)).1 .month
  have february : (resolve (Period.label "this" .month) now).toOption =
      some (ofDays "this_month" ⟨2024, 2, 1⟩ ⟨2024, 3, 1⟩) := by decide +kernel
  rw [around.this_resolved] at february
  cases february
  exact ⟨valid, by decide, by decide, next, last, around⟩

end TimeRange

end TableTalk
