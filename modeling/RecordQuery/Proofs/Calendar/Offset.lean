import RecordQuery.Proofs.Calendar.DayNumber
import RecordQuery.Proofs.Calendar.Text

namespace RecordQuery

open Text

inductive ShowsOffset : Int → List Char → Prop
  | utc : ShowsOffset 0 ['Z']
  | east {m : Nat} : m < 1440 →
      ShowsOffset m ('+' :: padded 2 (m / 60) ++ ':' :: padded 2 (m % 60))
  | west {m : Nat} : m < 1440 →
      ShowsOffset (-m) ('-' :: padded 2 (m / 60) ++ ':' :: padded 2 (m % 60))

/-- A fraction of a second by a text of any length; what stands past the ninth place is less than a
nanosecond. -/
inductive TellsFraction (nano : Nat) : List Char → Prop
  | short {cs} : ShowsFraction nano cs → TellsFraction nano cs
  | long {ds} : (∀ c ∈ ds, isDigit c = true) → TellsFraction nano ('.' :: padded 9 nano ++ ds)

theorem readFraction?_append_of_tells {nano : Nat} {cs rest : List Char} (lt : nano < tenTo 9)
    (h : TellsFraction nano cs) (stops : ∀ c ∈ rest.head?, isDigit c = false ∧ c ≠ '.') :
    readFraction? (cs ++ rest) = some (nano, rest) := by
  cases h with
  | short h => exact readFraction?_append_of_shows lt h stops
  | @long ds digits =>
    have len := length_padded (by decide) lt
    have all : ∀ c ∈ padded 9 nano ++ ds, isDigit c = true := fun c mem =>
      (List.mem_append.1 mem).elim isDigit_of_mem_padded (digits c)
    have some : padded 9 nano ++ ds ≠ [] :=
      List.append_ne_nil_of_left_ne_nil (List.ne_nil_of_length_pos (by omega)) ds
    have front : (padded 9 nano ++ ds).take 9 = padded 9 nano := List.take_left' len
    rw [List.cons_append, List.cons_append, readFraction?,
      readNanos?_append all some fun c hc => (stops c hc).1, front, digitsValue_padded, len,
      Nat.sub_self]
    simp [tenTo]

theorem isBlank_of_mem_of_tells {nano : Nat} {cs : List Char} (h : TellsFraction nano cs) {c : Char}
    (mem : c ∈ cs) : isBlank c = false := by
  cases h with
  | short h => exact isBlank_of_mem_fraction h mem
  | long digits =>
    simp only [List.cons_append, List.mem_cons, List.mem_append] at mem
    obtain rfl | kept | dropped := mem
    · decide
    · exact isBlank_of_isDigit (isDigit_of_mem_padded kept)
    · exact isBlank_of_isDigit (digits c dropped)

theorem amount?_padded {m : Nat} (h : m < 1440) :
    readOffset?.amount? (padded 2 (m / 60) ++ ':' :: padded 2 (m % 60)) = some ((m : Int), []) := by
  have hundred : tenTo 2 = 100 := rfl
  have two : 0 < 2 := by decide
  have minutes : readNumber? 2 2 (padded 2 (m % 60) ++ []) = some (m % 60, []) :=
    readNumber?_padded two (by omega) (Nat.le_refl 2)
  have bounds : m / 60 < 24 ∧ m % 60 < 60 := by omega
  have whole : (60 * (m / 60 : Nat) + (m % 60 : Nat) : Int) = m := by omega
  rw [List.append_nil] at minutes
  rw [readOffset?.amount?, readNumber?_bind two (by omega)]
  simp only [↓readChar?_bind, minutes, some_bind, bounds, and_self, if_true, whole]

namespace ShowsOffset

variable {offset : Int} {zone : List Char}

theorem bounds (h : ShowsOffset offset zone) : -1440 < offset ∧ offset < 1440 := by
  cases h <;> omega

theorem readOffset?_eq (h : ShowsOffset offset zone) : readOffset? zone = some (offset, []) := by
  cases h with
  | utc => rfl
  | east h => exact amount?_padded h
  | west h =>
    rw [List.cons_append, readOffset?, amount?_padded h]
    rfl

theorem stops (h : ShowsOffset offset zone) : ∀ c ∈ zone.head?, isDigit c = false ∧ c ≠ '.' := by
  cases h <;>
  · rintro _ ⟨⟩
    decide

theorem isBlank_of_mem (h : ShowsOffset offset zone) {c : Char} (mem : c ∈ zone) :
    isBlank c = false := by
  cases h with
  | utc =>
    rw [List.mem_singleton.1 mem]
    decide
  | east | west =>
    simp only [List.cons_append, List.mem_cons, List.mem_append] at mem
    obtain rfl | hours | rfl | minutes := mem
    · decide
    · exact isBlank_of_isDigit (isDigit_of_mem_padded hours)
    · decide
    · exact isBlank_of_isDigit (isDigit_of_mem_padded minutes)

end ShowsOffset

namespace DateTime

/-- The texts of a point in time at an offset. They show the time that is so many minutes later, and
the offset. -/
inductive ShownAt (t : DateTime) (offset : Int) : String → Prop
  | mk {u fraction zone} : LaterBy offset t u → u.HasPlainYear →
      TellsFraction t.clock.nano fraction → ShowsOffset offset zone →
      ShownAt t offset (String.ofList (u.isoChars 'T' (fraction ++ zone)))

variable {t : DateTime} {offset : Int} {text : String}

theorem exists_laterBy (west : -1440 < offset) (east : offset < 1440) (t : DateTime) :
    ∃ u, LaterBy offset t u := by
  have later : LaterBy (- -offset) t _ := laterBy_minusMinutes (by omega) (by omega) t
  rw [Int.neg_neg] at later
  exact ⟨_, later⟩

theorem exists_showsOffset (west : -1440 < offset) (east : offset < 1440) :
    ∃ zone, ShowsOffset offset zone := by
  obtain ⟨m, rfl | rfl⟩ := offset.eq_nat_or_neg
  · exact ⟨_, .east (by omega)⟩
  · exact ⟨_, .west (by omega)⟩

theorem exists_shownAt {u : DateTime} (west : -1440 < offset) (east : offset < 1440)
    (later : LaterBy offset t u) (plain : u.HasPlainYear) : ∃ text, t.ShownAt offset text := by
  obtain ⟨zone, shows⟩ := exists_showsOffset west east
  exact ⟨_, .mk later plain (.short (showsFraction_fractionChars _)) shows⟩

namespace ShownAt

theorem of_eq {u : DateTime} {fraction zone : List Char} (later : LaterBy offset t u)
    (plain : u.HasPlainYear) (tells : TellsFraction t.clock.nano fraction)
    (shows : ShowsOffset offset zone)
    (eq : String.ofList (u.isoChars 'T' (fraction ++ zone)) = text) : t.ShownAt offset text :=
  eq ▸ .mk later plain tells shows

theorem read?_eq (h : t.ShownAt offset text) : read? text = some t := by
  cases h with
  | @mk u fraction zone later plain tells shows =>
    have read : readFraction? (fraction ++ zone) = some (u.clock.nano, zone) := by
      rw [later.nano]
      exact readFraction?_append_of_tells t.clock.nano_lt tells shows.stops
    have moved : u.minusMinutes offset = t := later.minusMinutes_eq shows.bounds.1 shows.bounds.2
    have stamp : readTimestamp? (u.isoChars 'T' (fraction ++ zone)) = some t := by
      rw [readTimestamp?_isoChars plain (.inl rfl) read, shows.readOffset?_eq]
      simp [moved]
    simp [DateTime.read?, stamp]

theorem trim_eq (h : t.ShownAt offset text) : trim text = text := by
  cases h with
  | mk _ plain tells shows =>
    apply trim_eq_self
    rw [String.toList_ofList]
    exact trimChars_isoChars plain fun c mem =>
      (List.mem_append.1 mem).elim (isBlank_of_mem_of_tells tells) shows.isBlank_of_mem

end ShownAt

end DateTime

end RecordQuery
