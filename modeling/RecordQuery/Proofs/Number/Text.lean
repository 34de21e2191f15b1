import RecordQuery.Proofs.Number.Exact
import RecordQuery.Proofs.Text.Digits

namespace RecordQuery

open Text

theorem Text.readInt?_digits (n : Nat) : readInt? (digits n) = some (n : Int) := by
  unfold readInt?
  split
  · exact absurd ‹_› (digits_ne_cons (by decide))
  · exact absurd ‹_› (digits_ne_cons (by decide))
  · rw [readDigits?_digits]
    rfl

theorem Text.readInt?_integerText (i : Int) : readInt? (integerText i).toList = some i := by
  rw [integerText, String.toList_ofList]
  split
  · rw [readInt?, readDigits?_digits]
    exact congrArg some (by omega : -(i.natAbs : Int) = i)
  · rw [readInt?_digits, Option.some.injEq]
    omega

theorem Text.readUInt64?_digits (n : UInt64) : readUInt64? (digits n.toNat) = some n := by
  unfold readUInt64?
  split
  · exact absurd ‹_› (digits_ne_cons (by decide))
  · simp [readDigits?_digits, n.toNat_lt_size]

theorem Text.isBlank_of_mem_naturalText {n : Nat} {c : Char} (h : c ∈ (naturalText n).toList) :
    isBlank c = false := by
  rw [naturalText, String.toList_ofList] at h
  exact isBlank_of_isDigit (isDigit_of_mem_digits h)

theorem Text.isBlank_of_mem_integerText {i : Int} {c : Char} (h : c ∈ (integerText i).toList) :
    isBlank c = false := by
  rw [integerText, String.toList_ofList] at h
  split at h
  · rcases List.mem_cons.1 h with rfl | h
    · decide
    · exact isBlank_of_isDigit (isDigit_of_mem_digits h)
  · exact isBlank_of_isDigit (isDigit_of_mem_digits h)

theorem Text.trim_integerText (i : Int) : trim (integerText i) = integerText i :=
  trim_eq_self (trimChars_of_forall fun _ => isBlank_of_mem_integerText)

theorem Text.integerText_ne_empty (i : Int) : integerText i ≠ "" := by
  intro empty
  have number := readInt?_integerText i
  rw [empty] at number
  cases number

namespace Number

theorem readInteger?_digits (n : Nat) : readInteger? (digits n) =
    ((readInt64? (digits n)).map .signed |>.or ((readUInt64? (digits n)).map .unsigned)) := by
  simp only [readInteger?]
  split
  · exact absurd ‹_› (digits_ne_cons (by decide))
  · rfl

theorem readInt64?_of_readInt? {cs : List Char} {i : Int64} (h : readInt? cs = some i.toInt) :
    readInt64? cs = some i := by
  have range := And.intro i.minValue_le_toInt i.toInt_le
  rw [readInt64?, h, Option.bind_some, if_pos range, i.ofInt_toInt]

theorem readInt64?_integerText (i : Int64) : readInt64? (integerText i.toInt).toList = some i :=
  readInt64?_of_readInt? (readInt?_integerText i.toInt)

theorem readInteger?_integerText (i : Int64) :
    readInteger? (integerText i.toInt).toList = some (.signed i) := by
  have value := readInt64?_integerText i
  rw [integerText, String.toList_ofList] at value ⊢
  by_cases negative : i.toInt < 0
  · rw [if_pos negative] at value ⊢
    simp [readInteger?, value]
  · rw [if_neg negative] at value ⊢
    rw [readInteger?_digits, value]
    rfl

theorem exists_readInteger?_naturalText (n : UInt64) :
    ∃ m, readInteger? (naturalText n.toNat).toList = some m ∧ m.rational? = some (n.toNat : ℚ) := by
  rw [naturalText, String.toList_ofList, readInteger?_digits, readUInt64?_digits]
  cases signed : readInt64? (digits n.toNat) with
  | none => exact ⟨.unsigned n, rfl, rfl⟩
  | some i =>
    refine ⟨.signed i, rfl, ?_⟩
    simp only [readInt64?, readInt?_digits, Option.bind_some] at signed
    split at signed
    · rename_i range
      cases signed
      have value : (Int64.ofInt n.toNat).toInt = n.toNat :=
        Int64.toInt_ofInt_of_le (by omega) (Int.lt_of_le_of_lt range.2 (by decide))
      rw [rational?, value, Int.cast_natCast]
    · cases signed

end Number

namespace Decimal

variable {n places : Nat} {any : Bool} {rest ds : List Char}

theorem scan_digit (point : Bool) {c : Char} (digit : isDigit c = true)
    (room : point = true → places < 28) (fits : 10 * n + (c.toNat - 48) < limit) :
    scan n places point any (c :: rest) =
      scan (10 * n + (c.toNat - 48)) (if point then places + 1 else 0) point true rest := by
  have inside : (point && places == 28) = false := by
    cases point with
    | false => rfl
    | true => simpa using Nat.ne_of_lt (room rfl)
  rw [scan]
  simp only [inside, digit, fits, Bool.false_eq_true, if_true, if_false]

theorem first_fits {c : Char} (fits : Nat.ofDigitChars 10 (c :: ds) n < limit) :
    10 * n + (c.toNat - 48) < limit :=
  Nat.lt_of_le_of_lt (le_ofDigitChars ds _) (Nat.ofDigitChars_cons ▸ fits)

theorem scan_whole (digits : ∀ c ∈ ds, isDigit c = true) (some : ds ≠ [])
    (fits : Nat.ofDigitChars 10 ds n < limit) :
    scan n 0 false any (ds ++ rest) = scan (Nat.ofDigitChars 10 ds n) 0 false true rest := by
  induction ds generalizing n any with
  | nil => exact absurd rfl some
  | cons c ds ih =>
    obtain ⟨digit, digits⟩ := List.forall_mem_cons.1 digits
    rw [List.cons_append, scan_digit false digit nofun (first_fits fits), Nat.ofDigitChars_cons]
    cases ds with
    | nil => rfl
    | cons d ds => exact ih digits (List.cons_ne_nil d ds) fits

theorem scan_fraction (digits : ∀ c ∈ ds, isDigit c = true) (room : places + ds.length ≤ 28)
    (fits : Nat.ofDigitChars 10 ds n < limit) :
    scan n places true true (ds ++ rest) =
      scan (Nat.ofDigitChars 10 ds n) (places + ds.length) true true rest := by
  induction ds generalizing n places with
  | nil => rfl
  | cons c ds ih =>
    obtain ⟨digit, digits⟩ := List.forall_mem_cons.1 digits
    rw [List.length_cons] at room ⊢
    have inside : true = true → places < 28 := fun _ => by omega
    rw [List.cons_append, scan_digit true digit inside (first_fits fits), Nat.ofDigitChars_cons,
      if_pos rfl, Nat.add_comm ds.length, ← Nat.add_assoc]
    exact ih digits (by omega) fits

structure Parts (a : Decimal) where
  whole : List Char
  fraction : List Char
  whole_ne_nil : whole ≠ []
  length_fraction : fraction.length = a.places
  isDigit_whole : ∀ c ∈ whole, isDigit c = true
  isDigit_fraction : ∀ c ∈ fraction, isDigit c = true
  value_eq : Nat.ofDigitChars 10 fraction (Nat.ofDigitChars 10 whole 0) = a.magnitude

def Parts.chars {a : Decimal} (d : a.Parts) : List Char :=
  d.whole ++ if a.places = 0 then [] else '.' :: d.fraction

theorem exists_parts (a : Decimal) :
    ∃ d : a.Parts, a.renderChars = (if a.negative then ['-'] else []) ++ d.chars := by
  let ds := padded (a.places + 1) a.magnitude
  have long : a.places + 1 ≤ ds.length := le_length_padded (a.places + 1) a.magnitude
  have digits : ∀ c ∈ ds, isDigit c = true := fun _ => isDigit_of_mem_padded
  refine ⟨⟨ds.take (ds.length - a.places), ds.drop (ds.length - a.places), ?_, ?_,
    fun c h => digits c (List.mem_of_mem_take h), fun c h => digits c (List.mem_of_mem_drop h),
    ?_⟩, List.append_assoc _ _ _⟩
  · rw [← List.length_pos_iff, List.length_take]
    omega
  · rw [List.length_drop]
    omega
  · rw [← Nat.ofDigitChars_append, List.take_append_drop]
    exact digitsValue_padded _ _

variable {a : Decimal}

theorem Parts.scan_chars (d : a.Parts) :
    scan 0 0 false false d.chars = some (a.magnitude, a.places) := by
  have fits := a.magnitude_lt
  rw [← d.value_eq] at fits ⊢
  rw [chars, scan_whole d.isDigit_whole d.whole_ne_nil
    (Nat.lt_of_le_of_lt (le_ofDigitChars d.fraction _) fits)]
  split
  · have none : d.fraction = [] := List.eq_nil_of_length_eq_zero (d.length_fraction.trans ‹_›)
    rw [none, ‹a.places = 0›]
    rfl
  · have room : 0 + d.fraction.length ≤ 28 := by
      rw [Nat.zero_add, d.length_fraction]
      exact a.places_le
    have behind := @scan_fraction _ 0 [] _ d.isDigit_fraction room fits
    rw [List.append_nil, Nat.zero_add, d.length_fraction] at behind
    exact behind

theorem Parts.exists_cons (d : a.Parts) : ∃ c cs, d.chars = c :: cs ∧ isDigit c = true := by
  obtain ⟨c, cs, whole⟩ := List.exists_cons_of_ne_nil d.whole_ne_nil
  refine ⟨c, _, by rw [chars, whole, List.cons_append], d.isDigit_whole c ?_⟩
  rw [whole]
  exact List.mem_cons_self

theorem isBlank_of_mem_render {c : Char} (h : c ∈ a.render.toList) : isBlank c = false := by
  obtain ⟨d, chars⟩ := a.exists_parts
  have marks : isBlank '-' = false ∧ isBlank '.' = false := by decide
  rw [render, String.toList_ofList, chars, Parts.chars, List.mem_append, List.mem_append] at h
  rcases h with sign | whole | fraction
  · split at sign
    · exact List.mem_singleton.1 sign ▸ marks.1
    · cases sign
  · exact isBlank_of_isDigit (d.isDigit_whole c whole)
  · split at fraction
    · cases fraction
    · rcases List.mem_cons.1 fraction with rfl | fraction
      · exact marks.2
      · exact isBlank_of_isDigit (d.isDigit_fraction c fraction)

theorem readPlain?_of_isDigit {c : Char} {cs : List Char} (digit : isDigit c = true) :
    readPlain? (c :: cs) = (scan 0 0 false false (c :: cs)).bind fun x => make? false x.1 x.2 := by
  have plus : c ≠ '+' := fun h => absurd digit (h ▸ by decide)
  have minus : c ≠ '-' := fun h => absurd digit (h ▸ by decide)
  simp [readPlain?, plus, minus]

theorem read?_render (a : Decimal) : read? a.render =
    some ⟨a.negative && a.magnitude != 0, a.magnitude, a.places, a.magnitude_lt, a.places_le⟩ := by
  obtain ⟨d, chars⟩ := a.exists_parts
  have valid := And.intro a.magnitude_lt a.places_le
  have plain : readPlain? a.renderChars =
      some ⟨a.negative && a.magnitude != 0, a.magnitude, a.places, valid.1, valid.2⟩ := by
    rw [chars]
    cases a.negative with
    | true => simp [readPlain?, d.scan_chars, make?, valid]
    | false =>
      obtain ⟨c, cs, first, digit⟩ := d.exists_cons
      have scanned := d.scan_chars
      rw [first] at scanned ⊢
      simp [readPlain?_of_isDigit digit, scanned, make?, valid]
  rw [read?, render, String.toList_ofList, plain]
  rfl

theorem exists_read?_render (a : Decimal) : ∃ b, read? a.render = some b ∧ b.value = a.value := by
  refine ⟨_, a.read?_render, ?_⟩
  have same : Decimal.digits ⟨a.negative && a.magnitude != 0, a.magnitude, a.places,
      a.magnitude_lt, a.places_le⟩ = a.digits := by
    by_cases zero : a.magnitude = 0 <;> simp [digits, zero]
  rw [value, value, same]

end Decimal

end RecordQuery
