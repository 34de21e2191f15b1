namespace RecordQuery

def isLeapYear (year : Int) : Bool :=
  year % 4 == 0 && (year % 100 != 0 || year % 400 == 0)

def daysInMonth (year : Int) (month : Nat) : Nat :=
  match month with
  | 2 => if isLeapYear year then 29 else 28
  | 4 | 6 | 9 | 11 => 30
  | _ => 31

theorem daysInMonth_ge (year : Int) (month : Nat) : 28 ≤ daysInMonth year month := by
  unfold daysInMonth
  split <;> (try split) <;> decide

structure Date where
  year : Int
  month : Nat
  day : Nat
  month_valid : 1 ≤ month ∧ month ≤ 12 := by decide
  day_valid : 1 ≤ day ∧ day ≤ daysInMonth year month := by decide
  deriving DecidableEq

namespace Date

def make? (year : Int) (month day : Nat) : Option Date :=
  if h : (1 ≤ month ∧ month ≤ 12) ∧ 1 ≤ day ∧ day ≤ daysInMonth year month then
    some ⟨year, month, day, h.1, h.2⟩
  else none

def monthStart (year : Int) (month : Nat) (h : 1 ≤ month ∧ month ≤ 12) : Date where
  year
  month
  day := 1
  month_valid := h
  day_valid := ⟨Nat.le_refl 1, Nat.le_trans (by decide) (daysInMonth_ge year month)⟩

def monthEnd (year : Int) (month : Nat) (h : 1 ≤ month ∧ month ≤ 12) : Date where
  year
  month
  day := daysInMonth year month
  month_valid := h
  day_valid := ⟨Nat.le_trans (by decide) (daysInMonth_ge year month), Nat.le_refl _⟩

def next (d : Date) : Date :=
  if h : d.day < daysInMonth d.year d.month then
    { d with day := d.day + 1, day_valid := ⟨Nat.le_add_left 1 d.day, h⟩ }
  else if h : d.month < 12 then
    monthStart d.year (d.month + 1) ⟨Nat.le_add_left 1 d.month, h⟩
  else monthStart (d.year + 1) 1 (by decide)

def prev (d : Date) : Date :=
  if h : 1 < d.day then
    { d with
      day := d.day - 1
      day_valid := ⟨Nat.le_sub_one_of_lt h, Nat.le_trans (Nat.sub_le _ _) d.day_valid.2⟩ }
  else if h : 1 < d.month then
    monthEnd d.year (d.month - 1)
      ⟨Nat.le_sub_one_of_lt h, Nat.le_trans (Nat.sub_le _ _) d.month_valid.2⟩
  else monthEnd (d.year - 1) 12 (by decide)

def compare (a b : Date) : Ordering :=
  (Ord.compare a.year b.year).then
    ((Ord.compare a.month b.month).then (Ord.compare a.day b.day))

end Date

end RecordQuery
