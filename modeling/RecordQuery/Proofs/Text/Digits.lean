import Mathlib.Data.List.Basic
import Mathlib.Data.List.TakeWhile
import RecordQuery.Number.Power
import RecordQuery.Text.Blank
import RecordQuery.Text.Digits

namespace RecordQuery.Text

theorem isDigit_of_mem_digits {n : Nat} {c : Char} (h : c ∈ digits n) : isDigit c = true :=
  Nat.isDigit_of_mem_toDigits (by decide) (by decide) h

theorem digitChar_eq_zero : ∀ n < 10, Nat.digitChar n = '0' → n = 0 := by decide

theorem hexValue?_digitChar : ∀ n < 16, hexValue? (Nat.digitChar n) = some n := by decide

theorem digits_eq_cons (n : Nat) : ∃ c cs, digits n = c :: cs ∧ (c = '0' → n = 0) := by
  induction n using Nat.strongRecOn with
  | ind n ih =>
    by_cases small : n < 10
    · exact ⟨n.digitChar, [], Nat.toDigits_of_lt_base small, digitChar_eq_zero n small⟩
    · obtain ⟨c, cs, front, zero⟩ := ih (n / 10) (by omega)
      refine ⟨c, cs ++ [Nat.digitChar (n % 10)], ?_, fun h => ?_⟩
      · rw [digits, Nat.toDigits_of_base_le (by decide) (Nat.le_of_not_lt small), ← digits, front]
        rfl
      · have := zero h
        omega

theorem digits_ne_nil (n : Nat) : digits n ≠ [] := Nat.toDigits_ne_nil

def AreDigits (ds : List Char) : Prop := ds ≠ [] ∧ ∀ c ∈ ds, isDigit c = true

theorem AreDigits.ne_cons {c : Char} {ds : List Char} (h : AreDigits ds)
    (other : isDigit c = false) (rest : List Char) : ds ≠ c :: rest := by
  rintro rfl
  have digit := h.2 c List.mem_cons_self
  rw [other] at digit
  cases digit

theorem areDigits_digits (n : Nat) : AreDigits (digits n) :=
  ⟨digits_ne_nil n, fun _ => isDigit_of_mem_digits⟩

theorem digits_ne_cons {n : Nat} {c : Char} {cs : List Char} (h : isDigit c = false) :
    digits n ≠ c :: cs := (areDigits_digits n).ne_cons h cs

theorem isDigit_of_mem_padded {width n : Nat} {c : Char} (h : c ∈ padded width n) :
    isDigit c = true := by
  rcases List.mem_append.1 h with h | h
  · rw [List.eq_of_mem_replicate h]
    rfl
  · exact isDigit_of_mem_digits h

@[simp] theorem digitsValue_padded (width n : Nat) : digitsValue (padded width n) = n := by
  rw [padded, digitsValue, Nat.ofDigitChars_append, Nat.ofDigitChars_replicate_zero]
  exact digitsValue_digits n

theorem le_ofDigitChars (cs : List Char) (n : Nat) : n ≤ Nat.ofDigitChars 10 cs n := by
  induction cs generalizing n with
  | nil => exact Nat.le_refl n
  | cons c cs ih =>
    rw [Nat.ofDigitChars_cons]
    exact Nat.le_trans (by omega) (ih _)

theorem length_padded {width n : Nat} (pos : 0 < width) (h : n < tenTo width) :
    (padded width n).length = width := by
  have := (Nat.length_toDigits_le_iff (by decide) pos).2 h
  simp only [padded, digits, List.length_append, List.length_replicate]
  omega

theorem le_length_padded (width n : Nat) : width ≤ (padded width n).length := by
  simp only [padded, List.length_append, List.length_replicate]
  omega

theorem takeWhile_isDigit_append {ds rest : List Char} (digits : ∀ c ∈ ds, isDigit c = true)
    (stops : ∀ c ∈ rest.head?, isDigit c = false) : (ds ++ rest).takeWhile isDigit = ds := by
  rw [List.takeWhile_append_of_pos digits]
  cases rest with
  | nil => simp
  | cons c rest => rw [List.takeWhile_cons_of_neg (by simp [stops c rfl]), List.append_nil]

theorem readDigits?_eq_some_iff {ds : List Char} {n : Nat} :
    readDigits? ds = some n ↔ AreDigits ds ∧ digitsValue ds = n := by
  have all : (!ds.isEmpty && ds.all isDigit) = true ↔ AreDigits ds := by simp [AreDigits]
  by_cases digits : AreDigits ds
  · rw [readDigits?, if_pos (all.2 digits), Option.some_inj]
    exact (and_iff_right digits).symm
  · rw [readDigits?, if_neg (mt all.1 digits)]
    exact iff_of_false nofun fun h => digits h.1

theorem readDigits?_digits (n : Nat) : readDigits? (digits n) = some n :=
  readDigits?_eq_some_iff.2 ⟨areDigits_digits n, digitsValue_digits n⟩

theorem isDigit_iff {c : Char} : isDigit c = true ↔ 48 ≤ c.toNat ∧ c.toNat ≤ 57 := by
  simp [isDigit, Char.le_def, UInt32.le_iff_toNat_le]

theorem isBlank_of_visible {c : Char} (low : 0x20 < c.toNat) (high : c.toNat < 0x80) :
    isBlank c = false := by
  simp only [isBlank, blankRanges, Ranges.contains]
  grind

theorem isBlank_of_isDigit {c : Char} (h : isDigit c = true) : isBlank c = false := by
  have := isDigit_iff.1 h
  exact isBlank_of_visible (by omega) (by omega)

theorem isBlank_of_isSome_hexValue? {c : Char} (h : (hexValue? c).isSome = true) :
    isBlank c = false := by
  have letters : ∀ lo hi : Char, lo ≤ c ∧ c ≤ hi → lo.toNat ≤ c.toNat ∧ c.toNat ≤ hi.toNat := by
    simp [Char.le_def, UInt32.le_iff_toNat_le]
  unfold hexValue? at h
  split at h
  · exact isBlank_of_isDigit ‹_›
  · split at h
    · have := letters 'a' 'f' ‹_›
      exact isBlank_of_visible (Nat.lt_of_lt_of_le (by decide) this.1)
        (Nat.lt_of_le_of_lt this.2 (by decide))
    · split at h
      · have := letters 'A' 'F' ‹_›
        exact isBlank_of_visible (Nat.lt_of_lt_of_le (by decide) this.1)
          (Nat.lt_of_le_of_lt this.2 (by decide))
      · cases h

theorem dropWhile_isBlank {cs : List Char} (first : ∀ c ∈ cs.head?, isBlank c = false) :
    cs.dropWhile isBlank = cs := by
  cases cs with
  | nil => rfl
  | cons c cs => rw [List.dropWhile_cons_of_neg (by simp [first c rfl])]

theorem trimChars_eq_self {cs : List Char} (first : ∀ c ∈ cs.head?, isBlank c = false)
    (last : ∀ c ∈ cs.getLast?, isBlank c = false) : trimChars cs = cs := by
  rw [trimChars, dropWhile_isBlank first, dropWhile_isBlank, List.reverse_reverse]
  rwa [List.head?_reverse]

theorem trimChars_of_forall {cs : List Char} (h : ∀ c ∈ cs, isBlank c = false) :
    trimChars cs = cs :=
  trimChars_eq_self (fun c hc => h c (List.mem_of_mem_head? hc)) fun c hc =>
    h c (List.mem_of_mem_getLast? hc)

theorem exists_append_trimChars (cs : List Char) :
    ∃ front back, cs = front ++ trimChars cs ++ back ∧ (∀ c ∈ front, isBlank c = true) ∧
      ∀ c ∈ back, isBlank c = true := by
  let rest := cs.dropWhile isBlank
  refine ⟨cs.takeWhile isBlank, (rest.reverse.takeWhile isBlank).reverse, ?_, ?_, ?_⟩
  · rw [trimChars, List.append_assoc, ← List.reverse_append, List.takeWhile_append_dropWhile,
      List.reverse_reverse, List.takeWhile_append_dropWhile]
  · exact fun c => List.all_eq_true.1 List.all_takeWhile c
  · exact fun c h => List.all_eq_true.1 List.all_takeWhile c (List.mem_reverse.1 h)

theorem trimChars_append {front cs back : List Char} (before : ∀ c ∈ front, isBlank c = true)
    (after : ∀ c ∈ back, isBlank c = true) (some : cs ≠ [])
    (visible : ∀ c ∈ cs, isBlank c = false) : trimChars (front ++ cs ++ back) = cs := by
  have first : (cs ++ back).dropWhile isBlank = cs ++ back := by
    apply dropWhile_isBlank
    rw [List.head?_append_of_ne_nil _ some]
    exact fun c h => visible c (List.mem_of_mem_head? h)
  have last : cs.reverse.dropWhile isBlank = cs.reverse := by
    apply dropWhile_isBlank
    rw [List.head?_reverse]
    exact fun c h => visible c (List.mem_of_mem_getLast? h)
  have behind : ∀ c ∈ back.reverse, isBlank c = true := fun c h => after c (List.mem_reverse.1 h)
  rw [trimChars, List.append_assoc, List.dropWhile_append_of_pos before, first,
    List.reverse_append, List.dropWhile_append_of_pos behind, last, List.reverse_reverse]

theorem trimChars_eq_nil_iff {cs : List Char} :
    trimChars cs = [] ↔ ∀ c ∈ cs, isBlank c = true := by
  constructor
  · intro none c mem
    obtain ⟨front, back, parts, before, after⟩ := exists_append_trimChars cs
    rw [none, List.append_nil] at parts
    rw [parts] at mem
    exact (List.mem_append.1 mem).elim (before c) (after c)
  · intro blank
    have gone : cs.dropWhile isBlank = [] := List.dropWhile_eq_nil_iff.2 blank
    rw [trimChars, gone]
    rfl

theorem trim_eq_self {s : String} (h : trimChars s.toList = s.toList) : trim s = s := by
  rw [trim, h, String.ofList_toList]

end RecordQuery.Text
