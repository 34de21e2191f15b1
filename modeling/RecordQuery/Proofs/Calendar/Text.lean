import Mathlib.Data.List.TakeWhile
import RecordQuery.Calendar.Text
import RecordQuery.Proofs.Text.Digits

namespace RecordQuery

open Text

variable {least width n : Nat} {rest : List Char}

theorem readNumber?_append {ds : List Char} (digits : ∀ c ∈ ds, isDigit c = true)
    (len : ds.length = width) (le : least ≤ width) :
    readNumber? least width (ds ++ rest) = some (digitsValue ds, rest) := by
  have front : ((ds ++ rest).take width).takeWhile isDigit = ds := by
    rw [← len, List.take_left, List.takeWhile_eq_self_iff]
    exact digits
  simp only [readNumber?, front]
  rw [if_neg (by omega), List.drop_left]

theorem readNumber?_padded (pos : 0 < width) (h : n < tenTo width) (le : least ≤ width) :
    readNumber? least width (padded width n ++ rest) = some (n, rest) := by
  rw [readNumber?_append (fun c => isDigit_of_mem_padded) (length_padded pos h) le,
    digitsValue_padded]

theorem some_bind {α β : Type} (a : α) (f : α → Option β) : (some a >>= f) = f a := rfl

theorem readNumber?_bind {α : Type} (pos : 0 < width) (h : n < tenTo width) (rest : List Char)
    (f : Nat × List Char → Option α) :
    (readNumber? width width (padded width n ++ rest) >>= f) = f (n, rest) := by
  rw [readNumber?_padded pos h (Nat.le_refl width)]
  rfl

theorem readChar?_bind {α : Type} (c : Char) (rest : List Char) (f : List Char → Option α) :
    (readChar? c (c :: rest) >>= f) = f rest := by
  rw [readChar?, if_pos rfl]
  rfl

theorem padded_append_eq_cons (pos : 0 < width) (n : Nat) (rest : List Char) :
    ∃ c cs, padded width n ++ rest = c :: cs ∧ isDigit c = true := by
  cases first : padded width n with
  | nil =>
    have := le_length_padded width n
    rw [first, List.length_nil] at this
    omega
  | cons c cs => exact ⟨c, cs ++ rest, rfl, isDigit_of_mem_padded (first ▸ List.mem_cons_self)⟩

theorem dropWhile_isBlank_padded (pos : 0 < width) (n : Nat) (rest : List Char) :
    (padded width n ++ rest).dropWhile isBlank = padded width n ++ rest := by
  obtain ⟨c, cs, first, digit⟩ := padded_append_eq_cons pos n rest
  rw [first]
  apply dropWhile_isBlank
  rintro _ ⟨⟩
  exact isBlank_of_isDigit digit

theorem two_padded (h : n < tenTo 2) :
    PatternItem.read?.two (padded 2 n ++ rest) = some (n, rest) := by
  rw [PatternItem.read?.two, dropWhile_isBlank_padded (by decide),
    readNumber?_padded (by decide) h (by decide)]

theorem readYear?_padded (h : n < tenTo 4) :
    readYear? (padded 4 n ++ rest) = some ((n : Int), rest) := by
  have read : readNumber? 1 4 (padded 4 n ++ rest) = some (n, rest) :=
    readNumber?_padded (by decide) h (by decide)
  obtain ⟨c, cs, first, digit⟩ := padded_append_eq_cons (by decide : 0 < 4) n rest
  rw [first] at read ⊢
  unfold readYear?
  split
  · rename_i sign
    cases sign
    exact absurd digit (by decide)
  · rename_i sign
    cases sign
    exact absurd digit (by decide)
  · rw [read]
    rfl

theorem readNumber?_signed (n : Nat) (stops : ∀ c ∈ rest.head?, isDigit c = false) :
    readNumber? 1 (padded 4 n ++ rest).length (padded 4 n ++ rest) = some (n, rest) := by
  have some := le_length_padded 4 n
  simp only [readNumber?, List.take_length,
    takeWhile_isDigit_append (fun c => isDigit_of_mem_padded) stops]
  rw [if_neg (by omega), digitsValue_padded, List.drop_left]

theorem readYear?_yearChars (year : Int) (stops : ∀ c ∈ rest.head?, isDigit c = false) :
    readYear? (yearChars year ++ rest) = some (year, rest) := by
  unfold yearChars
  split
  · have whole : (year.toNat : Int) = year := by omega
    have thousands : tenTo 4 = 10000 := rfl
    rw [readYear?_padded (by omega), whole]
  · split
    · have negative : -(year.natAbs : Int) = year := by omega
      simp only [List.cons_append, readYear?, readNumber?_signed _ stops, Option.map_some, negative]
    · have positive : (year.natAbs : Int) = year := by omega
      simp only [List.cons_append, readYear?, readNumber?_signed _ stops, Option.map_some, positive]

/-- The ways to write a fraction of a second: nothing for none at all, or a point and at most nine
digits, behind which only zeros are missing. -/
inductive ShowsFraction (nano : Nat) : List Char → Prop
  | whole : nano = 0 → ShowsFraction nano []
  | digits {w} : 0 < w → w ≤ 9 → tenTo (9 - w) ∣ nano →
      ShowsFraction nano ('.' :: padded w (nano / tenTo (9 - w)))

theorem readNanos?_append {ds : List Char} (digits : ∀ c ∈ ds, isDigit c = true) (some : ds ≠ [])
    (stops : ∀ c ∈ rest.head?, isDigit c = false) :
    readNanos? (ds ++ rest) =
      .some (digitsValue (ds.take 9) * tenTo (9 - (ds.take 9).length), rest) := by
  simp [readNanos?, takeWhile_isDigit_append digits stops, some]

theorem readFraction?_append_of_shows {nano : Nat} {cs : List Char} (lt : nano < tenTo 9)
    (h : ShowsFraction nano cs) (stops : ∀ c ∈ rest.head?, isDigit c = false ∧ c ≠ '.') :
    readFraction? (cs ++ rest) = some (nano, rest) := by
  cases h with
  | whole zero =>
    rw [zero, List.nil_append]
    unfold readFraction?
    split
    · exact absurd rfl (stops '.' rfl).2
    · rfl
  | @digits width pos le exact =>
    have small : nano / tenTo (9 - width) < tenTo width := by
      rwa [Nat.div_lt_iff_lt_mul (tenTo_pos _), ← tenTo_add, Nat.add_sub_cancel' le]
    have len := length_padded pos small
    have some : padded width (nano / tenTo (9 - width)) ≠ [] := List.ne_nil_of_length_pos (by omega)
    rw [List.cons_append, readFraction?, readNanos?_append (fun c => isDigit_of_mem_padded) some
      fun c hc => (stops c hc).1, List.take_of_length_le (by omega), len, digitsValue_padded,
      Nat.div_mul_cancel exact]

theorem readFraction?_of_shows {nano : Nat} {cs : List Char} (lt : nano < tenTo 9)
    (h : ShowsFraction nano cs) : readFraction? cs = some (nano, []) := by
  have read := @readFraction?_append_of_shows [] nano cs lt h (by simp)
  rwa [List.append_nil] at read

theorem isBlank_of_mem_fraction {nano : Nat} {cs : List Char} (h : ShowsFraction nano cs) {c : Char}
    (mem : c ∈ cs) : isBlank c = false := by
  cases h with
  | whole => cases mem
  | digits =>
    rcases List.mem_cons.1 mem with rfl | mem
    · decide
    · exact isBlank_of_isDigit (isDigit_of_mem_padded mem)

theorem showsFraction_fractionChars (nano : Nat) : ShowsFraction nano (fractionChars nano) := by
  unfold fractionChars
  split
  · exact .whole ‹_›
  · split
    · exact .digits (by decide) (by decide) (Nat.dvd_of_mod_eq_zero ‹_›)
    · split
      · exact .digits (by decide) (by decide) (Nat.dvd_of_mod_eq_zero ‹_›)
      · have all : nano / tenTo (9 - 9) = nano := Nat.div_one nano
        simpa only [all] using
          @ShowsFraction.digits nano 9 (by decide) (by decide) (Nat.one_dvd nano)

theorem daysInMonth_le (year : Int) (month : Nat) : daysInMonth year month ≤ 31 := by
  unfold daysInMonth
  split <;> (try split) <;> decide

namespace Date

theorem make?_self (d : Date) : make? d.year d.month d.day = some d := by
  simp [make?, d.month_valid, d.day_valid]

theorem month_lt (d : Date) : d.month < tenTo 2 := Nat.lt_of_le_of_lt d.month_valid.2 (by decide)

theorem day_lt (d : Date) : d.day < tenTo 2 :=
  Nat.lt_of_le_of_lt (Nat.le_trans d.day_valid.2 (daysInMonth_le _ _)) (by decide)

theorem dropWhile_isBlank_yearChars (year : Int) (rest : List Char) :
    (yearChars year ++ rest).dropWhile isBlank = yearChars year ++ rest := by
  unfold yearChars
  split
  · exact dropWhile_isBlank_padded (by decide) _ _
  · apply dropWhile_isBlank
    split <;>
    · rintro _ ⟨⟩
      decide

theorem readPattern?_renderChars (d : Date) (items : List PatternItem) (rest : List Char) :
    readPattern? {} (datePattern ++ items) (d.renderChars ++ rest) =
      readPattern? { year := d.year, month := d.month, day := d.day } items rest := by
  have year (cs : List Char) :
      readYear? (yearChars d.year ++ '-' :: cs) = some (d.year, '-' :: cs) := by
    apply readYear?_yearChars
    rintro _ ⟨⟩
    decide
  simp [datePattern, readPattern?, PatternItem.read?, renderChars, dropWhile_isBlank_yearChars,
    year, two_padded, month_lt, day_lt, readChar?]

def InRange (d : Date) : Prop := -262143 ≤ d.year ∧ d.year ≤ 262142

theorem readChars?_renderChars {d : Date} (range : d.InRange) :
    readChars? d.renderChars = some d := by
  have read := readPattern?_renderChars d [] []
  rw [List.append_nil, List.append_nil] at read
  simp only [InRange] at range
  simp [readChars?, read, readPattern?, Reading.date?, range, make?_self]

theorem isBlank_of_mem_yearChars {year : Int} {c : Char} (mem : c ∈ yearChars year) :
    isBlank c = false := by
  unfold yearChars at mem
  split at mem
  · exact isBlank_of_isDigit (isDigit_of_mem_padded mem)
  · rcases List.mem_cons.1 mem with rfl | mem
    · split <;> decide
    · exact isBlank_of_isDigit (isDigit_of_mem_padded mem)

theorem isBlank_of_mem_renderChars {d : Date} {c : Char} (mem : c ∈ d.renderChars) :
    isBlank c = false := by
  simp only [renderChars, List.mem_append, List.mem_cons] at mem
  obtain (year | rfl | month) | rfl | day := mem
  · exact isBlank_of_mem_yearChars year
  · decide
  · exact isBlank_of_isDigit (isDigit_of_mem_padded month)
  · decide
  · exact isBlank_of_isDigit (isDigit_of_mem_padded day)

/-- A date is too short for a timestamp, or begins with the sign of its year. -/
theorem readTimestamp?_renderChars (d : Date) : readTimestamp? d.renderChars = none := by
  have four : 0 < 4 := by decide
  have two : 0 < 2 := by decide
  rw [renderChars, yearChars]
  split
  · rename_i plain
    have year : d.year.toNat < tenTo 4 := by
      have : tenTo 4 = 10000 := rfl
      omega
    have day := readNumber?_bind (α := DateTime) two d.day_lt []
    rw [List.append_nil] at day
    simp only [readTimestamp?, List.append_assoc, List.cons_append,
      ↓readNumber?_bind four year, ↓readNumber?_bind two d.month_lt, ↓day, ↓readChar?_bind]
    rfl
  · split <;> rfl

theorem readLocal?_renderChars (d : Date) : readLocal? d.renderChars = none := by
  have read := fun items => readPattern?_renderChars d items []
  simp only [List.append_nil] at read
  simp [readLocal?, dateTimePatterns, read, readPattern?, PatternItem.read?, readChar?,
    PatternItem.read?.two, readNumber?]

end Date

theorem Clock.make?_self (c : Clock) : make? c.hour c.minute c.second c.nano = some c := by
  simp [make?, c.hour_lt, c.minute_lt, c.second_le, c.nano_lt]

namespace DateTime

def isoChars (t : DateTime) (separator : Char) (fraction : List Char) : List Char :=
  t.date.renderChars ++ separator :: (padded 2 t.clock.hour ++ ':' :: padded 2 t.clock.minute ++
    ':' :: padded 2 t.clock.second ++ fraction)

variable {t : DateTime} {separator : Char} {fraction : List Char}

def HasPlainYear (t : DateTime) : Prop := 0 ≤ t.date.year ∧ t.date.year ≤ 9999

theorem isoChars_eq (plain : t.HasPlainYear) :
    t.isoChars separator fraction = padded 4 t.date.year.toNat ++ '-' :: (padded 2 t.date.month ++
      '-' :: (padded 2 t.date.day ++ separator :: (padded 2 t.clock.hour ++
      ':' :: (padded 2 t.clock.minute ++ ':' :: (padded 2 t.clock.second ++ fraction))))) := by
  have year : yearChars t.date.year = padded 4 t.date.year.toNat := if_pos plain
  simp only [isoChars, Date.renderChars, year, List.append_assoc, List.cons_append]

theorem year_lt (plain : t.HasPlainYear) : t.date.year.toNat < tenTo 4 := by
  have bound : tenTo 4 = 10000 := rfl
  have := plain.2
  omega

theorem hour_lt (t : DateTime) : t.clock.hour < tenTo 2 := Nat.lt_trans t.clock.hour_lt (by decide)

theorem minute_lt (t : DateTime) : t.clock.minute < tenTo 2 :=
  Nat.lt_trans t.clock.minute_lt (by decide)

theorem second_lt (t : DateTime) : t.clock.second < tenTo 2 :=
  Nat.lt_of_le_of_lt t.clock.second_le (by decide)

theorem readPattern?_clock (r : Reading) (shows : ShowsFraction t.clock.nano fraction) :
    readPattern? r [.hour, .mark ':', .minute, .mark ':', .second, .fraction]
      (padded 2 t.clock.hour ++ ':' :: (padded 2 t.clock.minute ++
        ':' :: (padded 2 t.clock.second ++ fraction))) =
      some { r with
        hour := t.clock.hour, minute := t.clock.minute, second := t.clock.second
        nano := t.clock.nano } := by
  have read := readFraction?_of_shows t.clock.nano_lt shows
  simp [readPattern?, PatternItem.read?, two_padded, hour_lt, minute_lt, second_lt, readChar?, read]

theorem dateTime?_self (plain : t.HasPlainYear) :
    Reading.dateTime? ⟨t.date.year, t.date.month, t.date.day, t.clock.hour, t.clock.minute,
      t.clock.second, t.clock.nano⟩ = some t := by
  have range : -262143 ≤ t.date.year ∧ t.date.year ≤ 262142 := by
    have := plain.1
    have := plain.2
    omega
  simp [Reading.dateTime?, Reading.date?, range, Date.make?_self, Clock.make?_self]

theorem readTimestamp?_isoChars (plain : t.HasPlainYear)
    (separates : separator = 'T' ∨ separator = ' ') {zone : List Char}
    (read : readFraction? fraction = some (t.clock.nano, zone)) :
    readTimestamp? (t.isoChars separator fraction) = (readOffset? zone).bind fun (offset, rest) =>
      if rest.isEmpty then some (t.minusMinutes offset) else none := by
  have four : 0 < 4 := by decide
  have two : 0 < 2 := by decide
  have year : ((t.date.year.toNat : Nat) : Int) = t.date.year := Int.toNat_of_nonneg plain.1
  rw [isoChars_eq plain, readTimestamp?]
  rcases separates with rfl | rfl <;>
  · -- each number is read before the rest is looked at
    simp only [↓readNumber?_bind four (year_lt plain), ↓readNumber?_bind two t.date.month_lt,
      ↓readNumber?_bind two t.date.day_lt, ↓readNumber?_bind two t.hour_lt,
      ↓readNumber?_bind two t.minute_lt, ↓readNumber?_bind two t.second_lt, ↓readChar?_bind,
      some_bind]
    rw [read, some_bind]
    simp only [year, dateTime?_self plain, some_bind]
    rfl

theorem readLocal?_isoChars (plain : t.HasPlainYear)
    (separates : separator = 'T' ∨ separator = ' ') (shows : ShowsFraction t.clock.nano fraction) :
    readLocal? (t.isoChars separator fraction) = some t := by
  simp only [isoChars]
  rcases separates with rfl | rfl
  · have first : ∀ r items cs, readPattern? r (.mark 'T' :: items) ('T' :: cs) =
        readPattern? r items cs := fun _ _ _ => rfl
    simp [readLocal?, dateTimePatterns, Date.readPattern?_renderChars, first,
      readPattern?_clock _ shows, dateTime?_self plain]
  · -- the first pattern wants a `T`, the second takes any blanks
    have first : ∀ r items cs, readPattern? r (.mark 'T' :: items) (' ' :: cs) = none :=
      fun _ _ _ => rfl
    have second : ∀ r items n rest,
        readPattern? r (.blanks :: items) (' ' :: (padded 2 n ++ rest)) =
          readPattern? r items (padded 2 n ++ rest) := by
      intro r items n rest
      have blank : isBlank ' ' = true := by decide
      simp [readPattern?, PatternItem.read?, blank, dropWhile_isBlank_padded]
    simp [readLocal?, dateTimePatterns, Date.readPattern?_renderChars, first, second,
      readPattern?_clock _ shows, dateTime?_self plain]

theorem read?_isoChars (plain : t.HasPlainYear) (separates : separator = 'T' ∨ separator = ' ')
    (shows : ShowsFraction t.clock.nano fraction) :
    read? (String.ofList (t.isoChars separator fraction)) = some t := by
  have read := readFraction?_of_shows t.clock.nano_lt shows
  -- a timestamp ends with an offset, and there is none
  have none : readTimestamp? (t.isoChars separator fraction) = none :=
    readTimestamp?_isoChars plain separates read
  simp [read?, none, readLocal?_isoChars plain separates shows]

theorem read?_render_date {d : Date} (range : d.InRange) : read? d.render = some (startOf d) := by
  simp [read?, Date.render, d.readTimestamp?_renderChars, d.readLocal?_renderChars,
    Date.readChars?_renderChars range]

theorem trimChars_isoChars (plain : t.HasPlainYear)
    (visible : ∀ c ∈ fraction, isBlank c = false) :
    trimChars (t.isoChars separator fraction) = t.isoChars separator fraction := by
  apply trimChars_eq_self
  · obtain ⟨c, cs, first, digit⟩ := padded_append_eq_cons (by decide : 0 < 4) t.date.year.toNat _
    rw [isoChars_eq plain, first]
    rintro _ ⟨⟩
    exact isBlank_of_isDigit digit
  · have split : t.isoChars separator fraction = t.date.renderChars ++ separator ::
        (padded 2 t.clock.hour ++ ':' :: (padded 2 t.clock.minute ++ [':'])) ++
        (padded 2 t.clock.second ++ fraction) := by
      simp [isoChars]
    obtain ⟨d, ds, some, -⟩ := padded_append_eq_cons (by decide : 0 < 2) t.clock.second fraction
    intro c hc
    rw [split, List.getLast?_append_of_ne_nil _ (by simp [some])] at hc
    rcases List.mem_append.1 (List.mem_of_mem_getLast? hc) with mem | mem
    · exact isBlank_of_isDigit (isDigit_of_mem_padded mem)
    · exact visible c mem

end DateTime

end RecordQuery
