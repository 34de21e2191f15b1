import RecordQuery.Calendar.Date

namespace RecordQuery

structure Clock where
  hour : Nat
  minute : Nat
  second : Nat
  nano : Nat
  hour_lt : hour < 24 := by decide
  minute_lt : minute < 60 := by decide
  second_le : second ≤ 60 := by decide
  nano_lt : nano < 1000000000 := by decide
  deriving DecidableEq

namespace Clock

def make? (hour minute second nano : Nat) : Option Clock :=
  if h : hour < 24 ∧ minute < 60 ∧ second ≤ 60 ∧ nano < 1000000000 then
    some ⟨hour, minute, second, nano, h.1, h.2.1, h.2.2.1, h.2.2.2⟩
  else none

def midnight : Clock where
  hour := 0
  minute := 0
  second := 0
  nano := 0

def minutes (c : Clock) : Nat := 60 * c.hour + c.minute

def atMinutes (c : Clock) (m : Nat) : Clock :=
  { c with
    hour := m / 60 % 24
    minute := m % 60
    hour_lt := Nat.mod_lt _ (by decide)
    minute_lt := Nat.mod_lt _ (by decide) }

def compare (a b : Clock) : Ordering :=
  (Ord.compare a.hour b.hour).then ((Ord.compare a.minute b.minute).then
    ((Ord.compare a.second b.second).then (Ord.compare a.nano b.nano)))

end Clock

structure DateTime where
  date : Date
  clock : Clock
  deriving DecidableEq

namespace DateTime

def startOf (d : Date) : DateTime := ⟨d, .midnight⟩

def compare (a b : DateTime) : Ordering :=
  (a.date.compare b.date).then (a.clock.compare b.clock)

/-- The point in time so many minutes earlier, for less than a day of minutes. -/
def minusMinutes (t : DateTime) (offset : Int) : DateTime :=
  let m : Int := t.clock.minutes - offset
  if m < 0 then ⟨t.date.prev, t.clock.atMinutes (m + 1440).toNat⟩
  else if m < 1440 then ⟨t.date, t.clock.atMinutes m.toNat⟩
  else ⟨t.date.next, t.clock.atMinutes (m - 1440).toNat⟩

end DateTime

end RecordQuery
