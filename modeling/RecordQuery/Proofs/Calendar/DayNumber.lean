import RecordQuery.Proofs.Value.Order

/-!
Days and minutes counted through. The day after a date has the next number, and earlier dates have
smaller numbers, so that a date is the only one with its number. A point in time is known by the
number of its minute with what is left of that.
-/

namespace RecordQuery

def daysInMonths (year : Int) : Nat → Nat
  | 0 => 0
  | month + 1 => daysInMonths year month + daysInMonth year (month + 1)

def yearStart (year : Int) : Int :=
  365 * year + (year + 3) / 4 - (year + 99) / 100 + (year + 399) / 400

variable {year : Int} {month : Nat}

theorem isLeapYear_iff :
    isLeapYear year = true ↔ year % 4 = 0 ∧ (year % 100 ≠ 0 ∨ year % 400 = 0) := by
  simp [isLeapYear]

theorem daysInMonths_twelve (year : Int) :
    daysInMonths year 12 = if isLeapYear year then 366 else 365 := by
  simp only [daysInMonths, daysInMonth]
  split <;> rfl

theorem yearStart_succ (year : Int) :
    yearStart (year + 1) = yearStart year + daysInMonths year 12 := by
  rw [daysInMonths_twelve]
  split
  · have := isLeapYear_iff.1 ‹_›
    simp only [yearStart]
    omega
  · have := mt isLeapYear_iff.2 ‹_›
    simp only [yearStart]
    omega

theorem yearStart_le {a b : Int} (h : a ≤ b) : yearStart a ≤ yearStart b := by
  simp only [yearStart]
  omega

theorem daysInMonths_le (year : Int) {m n : Nat} (h : m ≤ n) :
    daysInMonths year m ≤ daysInMonths year n :=
  monotone_nat_of_le_succ (fun _ => Nat.le_add_right _ _) h

theorem daysInMonths_of_pos (year : Int) (h : 1 ≤ month) :
    daysInMonths year month = daysInMonths year (month - 1) + daysInMonth year month := by
  obtain ⟨m, rfl⟩ := Nat.exists_eq_add_of_le' h
  rfl

namespace Date

/-- The number of a day. The first day of year zero is number one. -/
def dayNumber (d : Date) : Int := yearStart d.year + daysInMonths d.year (d.month - 1) + d.day

theorem dayNumber_monthStart (h : 1 ≤ month ∧ month ≤ 12) :
    (monthStart year month h).dayNumber = yearStart year + daysInMonths year (month - 1) + 1 := rfl

theorem dayNumber_monthEnd (h : 1 ≤ month ∧ month ≤ 12) :
    (monthEnd year month h).dayNumber = yearStart year + daysInMonths year month := by
  rw [daysInMonths_of_pos _ h.1]
  simp only [monthEnd, dayNumber]
  omega

theorem dayNumber_le (d : Date) : d.dayNumber ≤ yearStart d.year + daysInMonths d.year d.month := by
  rw [daysInMonths_of_pos _ d.month_valid.1, dayNumber]
  have := d.day_valid
  omega

theorem lt_dayNumber (d : Date) :
    yearStart d.year + daysInMonths d.year (d.month - 1) < d.dayNumber := by
  have := d.day_valid
  simp only [dayNumber]
  omega

theorem dayNumber_next (d : Date) : d.next.dayNumber = d.dayNumber + 1 := by
  have days := d.day_valid
  have months := d.month_valid
  have full := daysInMonths_of_pos d.year d.month_valid.1
  unfold next
  split
  · simp only [dayNumber]
    omega
  · have last : d.dayNumber = yearStart d.year + daysInMonths d.year d.month := by
      simp only [dayNumber]
      omega
    split
    · rw [dayNumber_monthStart, last, Nat.add_sub_cancel]
    · have december : d.month = 12 := by omega
      rw [dayNumber_monthStart, yearStart_succ, last, december]
      simp [daysInMonths]

theorem dayNumber_prev (d : Date) : d.prev.dayNumber = d.dayNumber - 1 := by
  have days := d.day_valid
  have months := d.month_valid
  unfold prev
  split
  · simp only [dayNumber]
    omega
  · have first : d.dayNumber = yearStart d.year + daysInMonths d.year (d.month - 1) + 1 := by
      simp only [dayNumber]
      omega
    split
    · rw [dayNumber_monthEnd, first]
      omega
    · have january : d.month = 1 := by omega
      have year := yearStart_succ (d.year - 1)
      rw [Int.sub_add_cancel] at year
      rw [dayNumber_monthEnd, first, january, year]
      simp [daysInMonths]

theorem dayNumber_lt_of_compare {a b : Date} (h : a.compare b = .lt) :
    a.dayNumber < b.dayNumber := by
  have upper := a.dayNumber_le
  have lower := b.lt_dayNumber
  simp only [compare, Ordering.then_eq_lt, compare_lt_iff_lt, compare_eq_iff_eq] at h
  obtain year | ⟨year, month | ⟨month, day⟩⟩ := h
  · have months := daysInMonths_le a.year a.month_valid.2
    have years := yearStart_le year
    rw [yearStart_succ] at years
    omega
  · have months := daysInMonths_le b.year (Nat.le_sub_one_of_lt month)
    rw [year] at upper
    omega
  · simp only [dayNumber, year, month]
    omega

theorem compare_eq_compare_dayNumber (a b : Date) :
    a.compare b = Ord.compare a.dayNumber b.dayNumber := by
  cases order : a.compare b with
  | lt => exact (compare_lt_iff_lt.2 (dayNumber_lt_of_compare order)).symm
  | gt =>
    have swapped : b.compare a = .lt := Std.OrientedCmp.lt_of_gt order
    exact (compare_gt_iff_gt.2 (dayNumber_lt_of_compare swapped)).symm
  | eq =>
    rw [compare_eq_iff.1 order]
    exact (compare_eq_iff_eq.2 rfl).symm

theorem compare_eq_lt_iff {a b : Date} : a.compare b = .lt ↔ a.dayNumber < b.dayNumber := by
  rw [compare_eq_compare_dayNumber, compare_lt_iff_lt]

theorem dayNumber_inj {a b : Date} : a.dayNumber = b.dayNumber ↔ a = b := by
  rw [← compare_eq_iff, compare_eq_compare_dayNumber, compare_eq_iff_eq]

end Date

namespace Clock

theorem compare_midnight_ne_lt (c : Clock) : c.compare midnight ≠ .lt := by
  simp [compare, midnight, Ordering.then_eq_lt, compare_lt_iff_lt]

theorem minutes_lt (c : Clock) : c.minutes < 1440 := by
  have := c.hour_lt
  have := c.minute_lt
  simp only [minutes]
  omega

theorem minutes_atMinutes (c : Clock) {m : Nat} (h : m < 1440) : (c.atMinutes m).minutes = m := by
  simp only [atMinutes, minutes]
  omega

theorem ext_minutes {a b : Clock} (minutes : a.minutes = b.minutes) (second : a.second = b.second)
    (nano : a.nano = b.nano) : a = b := by
  have := a.minute_lt
  have := b.minute_lt
  simp only [Clock.minutes] at minutes
  have hour : a.hour = b.hour := by omega
  have minute : a.minute = b.minute := by omega
  cases a
  cases b
  simp_all

end Clock

namespace DateTime

variable {t u u' : DateTime} {d : Date} {minutes offset : Int}

def Within (t : DateTime) (d : Date) : Prop :=
  t.compare (startOf d) ≠ .lt ∧ t.compare (startOf d.next) = .lt

theorem compare_startOf_eq_lt_iff : t.compare (startOf d) = .lt ↔ t.date.compare d = .lt := by
  simp [compare, startOf, Ordering.then_eq_lt, Clock.compare_midnight_ne_lt]

theorem within_iff : t.Within d ↔ t.date = d := by
  rw [Within, Ne, compare_startOf_eq_lt_iff, compare_startOf_eq_lt_iff, Date.compare_eq_lt_iff,
    Date.compare_eq_lt_iff, Date.dayNumber_next, ← Date.dayNumber_inj]
  omega

def minuteNumber (t : DateTime) : Int := 1440 * t.date.dayNumber + t.clock.minutes

/-- The second point in time is so many minutes later than the first, in the same place of its
minute. -/
structure LaterBy (minutes : Int) (t u : DateTime) : Prop where
  minute : u.minuteNumber = t.minuteNumber + minutes
  second : u.clock.second = t.clock.second
  nano : u.clock.nano = t.clock.nano

theorem LaterBy.symm (h : LaterBy minutes t u) : LaterBy (-minutes) u t where
  minute := by
    rw [h.minute]
    omega
  second := h.second.symm
  nano := h.nano.symm

theorem LaterBy.unique (h : LaterBy minutes t u) (h' : LaterBy minutes t u') : u = u' := by
  have minute := h.minute.trans h'.minute.symm
  have := u.clock.minutes_lt
  have := u'.clock.minutes_lt
  simp only [minuteNumber] at minute
  have date : u.date = u'.date := Date.dayNumber_inj.1 (by omega)
  have clock : u.clock = u'.clock :=
    Clock.ext_minutes (by omega) (h.second.trans h'.second.symm) (h.nano.trans h'.nano.symm)
  cases u
  cases u'
  simp_all

theorem laterBy_minusMinutes (west : -1440 < offset) (east : offset < 1440) (t : DateTime) :
    LaterBy (-offset) t (t.minusMinutes offset) := by
  have := t.clock.minutes_lt
  simp only [minusMinutes]
  split
  · refine ⟨?_, rfl, rfl⟩
    simp only [minuteNumber, Date.dayNumber_prev]
    rw [Clock.minutes_atMinutes _ (by omega)]
    omega
  · split
    · refine ⟨?_, rfl, rfl⟩
      simp only [minuteNumber]
      rw [Clock.minutes_atMinutes _ (by omega)]
      omega
    · refine ⟨?_, rfl, rfl⟩
      simp only [minuteNumber, Date.dayNumber_next]
      rw [Clock.minutes_atMinutes _ (by omega)]
      omega

theorem LaterBy.minusMinutes_eq (west : -1440 < offset) (east : offset < 1440)
    (h : LaterBy offset t u) : u.minusMinutes offset = t :=
  (laterBy_minusMinutes west east u).unique h.symm

end DateTime

end RecordQuery
