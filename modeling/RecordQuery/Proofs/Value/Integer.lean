import RecordQuery.Coercion
import RecordQuery.Proofs.Number.Text

namespace RecordQuery

namespace Text

variable {cs ds : List Char} {i j : Int}

inductive DenotesInteger : List Char → Int → Prop
  | plain {ds : List Char} : AreDigits ds → DenotesInteger ds (digitsValue ds)
  | plus {ds : List Char} : AreDigits ds → DenotesInteger ('+' :: ds) (digitsValue ds)
  | minus {ds : List Char} : AreDigits ds → DenotesInteger ('-' :: ds) (-digitsValue ds)

theorem map_readDigits?_eq_some_iff {f : Nat → Int} :
    (readDigits? ds).map f = some i ↔ AreDigits ds ∧ f (digitsValue ds) = i := by
  simp only [Option.map_eq_some_iff, readDigits?_eq_some_iff]
  constructor
  · rintro ⟨n, ⟨digits, rfl⟩, rfl⟩
    exact ⟨digits, rfl⟩
  · rintro ⟨digits, rfl⟩
    exact ⟨_, ⟨digits, rfl⟩, rfl⟩

theorem readInt?_minus (ds : List Char) :
    readInt? ('-' :: ds) = (readDigits? ds).map fun n : Nat => -(n : Int) := by
  cases read : readDigits? ds <;> simp [readInt?, read]

theorem readInt?_plus (ds : List Char) : readInt? ('+' :: ds) = (readDigits? ds).map Int.ofNat :=
  rfl

theorem readInt?_plain (minus : ∀ rest, ds ≠ '-' :: rest) (plus : ∀ rest, ds ≠ '+' :: rest) :
    readInt? ds = (readDigits? ds).map Int.ofNat := by
  unfold readInt?
  split
  · exact absurd rfl (minus _)
  · exact absurd rfl (plus _)
  · rfl

theorem readInt?_eq_some_iff : readInt? cs = some i ↔ DenotesInteger cs i := by
  constructor
  · intro h
    by_cases minus : ∃ ds, cs = '-' :: ds
    · obtain ⟨ds, rfl⟩ := minus
      obtain ⟨digits, rfl⟩ := map_readDigits?_eq_some_iff.1 (readInt?_minus ds ▸ h)
      exact .minus digits
    by_cases plus : ∃ ds, cs = '+' :: ds
    · obtain ⟨ds, rfl⟩ := plus
      obtain ⟨digits, rfl⟩ := map_readDigits?_eq_some_iff.1 (readInt?_plus ds ▸ h)
      exact .plus digits
    rw [readInt?_plain (not_exists.1 minus) (not_exists.1 plus)] at h
    obtain ⟨digits, rfl⟩ := map_readDigits?_eq_some_iff.1 h
    exact .plain digits
  · intro h
    cases h with
    | plain digits =>
      rw [readInt?_plain (digits.ne_cons (by decide)) (digits.ne_cons (by decide))]
      exact map_readDigits?_eq_some_iff.2 ⟨digits, rfl⟩
    | plus digits => exact map_readDigits?_eq_some_iff.2 ⟨digits, rfl⟩
    | minus digits =>
      rw [readInt?_minus]
      exact map_readDigits?_eq_some_iff.2 ⟨digits, rfl⟩

theorem DenotesInteger.characters (h : DenotesInteger cs i) :
    cs ≠ [] ∧ ∀ c ∈ cs, isDigit c = true ∨ c = '+' ∨ c = '-' := by
  cases h with
  | plain digits => exact ⟨digits.1, fun c mem => .inl (digits.2 c mem)⟩
  | plus digits | minus digits =>
    refine ⟨List.cons_ne_nil _ _, fun c mem => ?_⟩
    obtain rfl | mem := List.mem_cons.1 mem
    · simp
    · exact .inl (digits.2 c mem)

theorem DenotesInteger.unique (h : DenotesInteger cs i) (h' : DenotesInteger cs j) : i = j :=
  Option.some.inj ((readInt?_eq_some_iff.2 h).symm.trans (readInt?_eq_some_iff.2 h'))

inductive ReadsInteger : List Char → Int → Prop
  | integer {cs : List Char} {i : Int} : DenotesInteger cs i → ReadsInteger cs i
  | behindPlus {cs : List Char} {i : Int} : DenotesInteger cs i → ReadsInteger ('+' :: cs) i

theorem readsInteger_iff (plus : ∀ rest, cs ≠ '+' :: rest) :
    ReadsInteger cs i ↔ DenotesInteger cs i := by
  constructor
  · rintro (denotes | denotes)
    · exact denotes
    · exact absurd rfl (plus _)
  · exact .integer

theorem readsInteger_plus_iff : ReadsInteger ('+' :: cs) i ↔ DenotesInteger cs i := by
  constructor
  · rintro (denotes | denotes)
    · cases denotes with
      | plain digits => exact absurd rfl (digits.ne_cons (by decide) _)
      | plus digits => exact .plain digits
    · exact denotes
  · exact .behindPlus

end Text

namespace Number

open Text

variable {cs : List Char} {i : Int} {n : Number}

inductive Stores : Number → Int → Prop
  | signed {k : Int64} {i : Int} : k.toInt = i → Stores (.signed k) i
  | unsigned {k : UInt64} {i : Int} : Int64.maxValue.toInt < i → (k.toNat : Int) = i →
      Stores (.unsigned k) i

theorem exists_stores_iff :
    (∃ n, Stores n i) ↔ -9223372036854775808 ≤ i ∧ i < 18446744073709551616 := by
  constructor
  · rintro ⟨n, @⟨k, _, rfl⟩ | @⟨k, _, large, rfl⟩⟩
    · have := k.le_toInt
      have := k.toInt_lt
      omega
    · have := k.toNat_lt
      omega
  · rintro ⟨low, high⟩
    have greatest : Int64.maxValue.toInt = 9223372036854775807 := rfl
    by_cases fits : i ≤ Int64.maxValue.toInt
    · exact ⟨.signed (.ofInt i), .signed (Int64.toInt_ofInt_of_le low (by omega))⟩
    · refine ⟨.unsigned (.ofNat i.toNat), .unsigned (by omega) ?_⟩
      rw [UInt64.toNat_ofNat_of_lt' (by rw [UInt64.size]; omega)]
      omega

theorem readInt64?_eq_some_iff {k : Int64} :
    readInt64? cs = some k ↔ DenotesInteger cs k.toInt := by
  constructor
  · intro h
    obtain ⟨i, read, h⟩ := Option.bind_eq_some_iff.1 h
    split at h
    · rename_i range
      cases h
      have value : (Int64.ofInt i).toInt = i :=
        Int64.toInt_ofInt_of_le range.1 (Int.lt_of_le_of_lt range.2 (by decide))
      rw [value]
      exact readInt?_eq_some_iff.1 read
    · cases h
  · exact fun h => readInt64?_of_readInt? (readInt?_eq_some_iff.2 h)

theorem readInt64?_eq_none_iff :
    readInt64? cs = none ↔ ∀ k : Int64, ¬DenotesInteger cs k.toInt := by
  simp only [Option.eq_none_iff_forall_ne_some, ne_eq, readInt64?_eq_some_iff]

theorem word_readDigits?_eq_some_iff {k : UInt64} :
    ((readDigits? cs).bind fun n => if n < UInt64.size then some (UInt64.ofNat n) else none) =
      some k ↔ AreDigits cs ∧ digitsValue cs = k.toNat := by
  simp only [Option.bind_eq_some_iff, readDigits?_eq_some_iff]
  constructor
  · rintro ⟨n, ⟨digits, rfl⟩, h⟩
    split at h
    · rename_i fits
      cases h
      exact ⟨digits, (UInt64.toNat_ofNat_of_lt' fits).symm⟩
    · cases h
  · rintro ⟨digits, value⟩
    refine ⟨_, ⟨digits, rfl⟩, ?_⟩
    rw [value, if_pos k.toNat_lt_size, UInt64.ofNat_toNat]

theorem readUInt64?_plus (cs : List Char) : readUInt64? ('+' :: cs) =
    (readDigits? cs).bind fun n => if n < UInt64.size then some (UInt64.ofNat n) else none :=
  rfl

theorem readUInt64?_plain (plus : ∀ rest, cs ≠ '+' :: rest) : readUInt64? cs =
    (readDigits? cs).bind fun n => if n < UInt64.size then some (UInt64.ofNat n) else none := by
  unfold readUInt64?
  split
  · exact absurd rfl (plus _)
  · rfl

theorem denotesInteger_of_readUInt64? {k : UInt64} (h : readUInt64? cs = some k) :
    DenotesInteger cs k.toNat := by
  by_cases plus : ∃ ds, cs = '+' :: ds
  · obtain ⟨ds, rfl⟩ := plus
    obtain ⟨digits, value⟩ := word_readDigits?_eq_some_iff.1 (readUInt64?_plus ds ▸ h)
    exact value ▸ .plus digits
  · rw [readUInt64?_plain (not_exists.1 plus)] at h
    obtain ⟨digits, value⟩ := word_readDigits?_eq_some_iff.1 h
    exact value ▸ .plain digits

theorem readUInt64?_of_denotesInteger {k : UInt64} (h : DenotesInteger cs k.toNat)
    (positive : 0 < k.toNat) : readUInt64? cs = some k := by
  generalize value : (k.toNat : Int) = i at h
  cases h with
  | plain digits =>
    rw [readUInt64?_plain (digits.ne_cons (by decide))]
    exact word_readDigits?_eq_some_iff.2 ⟨digits, by omega⟩
  | plus digits =>
    rw [readUInt64?_plus]
    exact word_readDigits?_eq_some_iff.2 ⟨digits, by omega⟩
  | minus => omega

theorem readWord_eq_some_iff :
    ((readInt64? cs).map Number.signed |>.or ((readUInt64? cs).map .unsigned)) = some n ↔
      ∃ i, DenotesInteger cs i ∧ Stores n i := by
  constructor
  · intro h
    obtain h | ⟨none, h⟩ := Option.or_eq_some_iff.1 h
    · obtain ⟨k, read, rfl⟩ := Option.map_eq_some_iff.1 h
      exact ⟨_, readInt64?_eq_some_iff.1 read, .signed rfl⟩
    · obtain ⟨k, read, rfl⟩ := Option.map_eq_some_iff.1 h
      have denotes := denotesInteger_of_readUInt64? read
      refine ⟨_, denotes, .unsigned (Int.not_le.1 fun fits => ?_) rfl⟩
      have signed : (Int64.ofInt k.toNat).toInt = k.toNat :=
        Int64.toInt_ofInt_of_le (by omega) (Int.lt_of_le_of_lt fits (by decide))
      rw [readInt64?_eq_some_iff.2 (signed ▸ denotes)] at none
      cases none
  · rintro ⟨i, denotes, @⟨k, _, rfl⟩ | @⟨k, _, large, rfl⟩⟩
    · rw [readInt64?_eq_some_iff.2 denotes]
      rfl
    · have signed : readInt64? cs = none := by
        refine Option.eq_none_iff_forall_ne_some.2 fun k' read => ?_
        have same := (readInt64?_eq_some_iff.1 read).unique denotes
        have := k'.toInt_le
        omega
      have positive : 0 < k.toNat := by
        have : (0 : Int) ≤ Int64.maxValue.toInt := by decide
        omega
      rw [signed, readUInt64?_of_denotesInteger denotes positive]
      rfl

theorem readInteger?_eq_some_iff :
    readInteger? cs = some n ↔ ∃ i, ReadsInteger cs i ∧ Stores n i := by
  by_cases plus : ∃ ds, cs = '+' :: ds
  · obtain ⟨ds, rfl⟩ := plus
    refine readWord_eq_some_iff.trans (exists_congr fun i => and_congr_left fun _ => ?_)
    exact readsInteger_plus_iff.symm
  · have whole : readInteger? cs =
        ((readInt64? cs).map Number.signed |>.or ((readUInt64? cs).map .unsigned)) := by
      unfold readInteger?
      split
      · exact absurd ⟨_, rfl⟩ plus
      · rfl
    rw [whole]
    refine readWord_eq_some_iff.trans (exists_congr fun i => and_congr_left fun _ => ?_)
    exact (readsInteger_iff (not_exists.1 plus)).symm

end Number

namespace Text

variable {cs : List Char} {raw : String} {i : Int}

def StandsIn (cs : List Char) (raw : String) : Prop :=
  ∃ front back, raw.toList = front ++ cs ++ back ∧ (∀ c ∈ front, isBlank c = true) ∧
    ∀ c ∈ back, isBlank c = true

theorem standsIn_iff (some : cs ≠ []) (visible : ∀ c ∈ cs, isBlank c = false) :
    StandsIn cs raw ↔ trimChars raw.toList = cs := by
  constructor
  · rintro ⟨front, back, parts, before, after⟩
    rw [parts]
    exact trimChars_append before after some visible
  · rintro rfl
    exact exists_append_trimChars raw.toList

theorem ReadsInteger.characters (h : ReadsInteger cs i) :
    cs ≠ [] ∧ ∀ c ∈ cs, isBlank c = false := by
  have signs : isBlank '+' = false ∧ isBlank '-' = false := by decide
  have visible {cs : List Char} (denotes : DenotesInteger cs i) : ∀ c ∈ cs, isBlank c = false := by
    intro c mem
    obtain digit | rfl | rfl := denotes.characters.2 c mem
    · exact isBlank_of_isDigit digit
    · exact signs.1
    · exact signs.2
  cases h with
  | integer denotes => exact ⟨denotes.characters.1, visible denotes⟩
  | behindPlus denotes =>
    exact ⟨List.cons_ne_nil _ _, List.forall_mem_cons.2 ⟨signs.1, visible denotes⟩⟩

theorem standsIn_and_readsInteger_iff :
    StandsIn cs raw ∧ ReadsInteger cs i ↔ trimChars raw.toList = cs ∧ ReadsInteger cs i :=
  and_congr_left fun reads => standsIn_iff reads.characters.1 reads.characters.2

theorem trim_eq_empty_iff : trim raw = "" ↔ ∀ c ∈ raw.toList, isBlank c = true := by
  rw [← trimChars_eq_nil_iff, ← String.toList_inj, toList_trim]
  rfl

end Text

open Text

variable {raw : String}

theorem coerce_int_of_blank (blank : ∀ c ∈ raw.toList, isBlank c = true) :
    coerce raw .int = .error .empty := by
  simp [coerce, trim_eq_empty_iff.2 blank]

theorem coerce_int_of_visible (visible : ¬ ∀ c ∈ raw.toList, isBlank c = true) :
    coerce raw .int = match Number.readInteger? (trimChars raw.toList) with
      | some n => .ok (.number n)
      | none => .error (.invalid raw "int") := by
  simp only [coerce, mt trim_eq_empty_iff.1 visible, if_false, FieldType.read?, toList_trim]
  cases Number.readInteger? (trimChars raw.toList) <;> rfl

theorem coerce_int_eq_ok_iff {s : Scalar} : coerce raw .int = .ok s ↔
    ∃ cs i n, StandsIn cs raw ∧ ReadsInteger cs i ∧ Number.Stores n i ∧ s = .number n := by
  have reads : (∃ n, Number.readInteger? (trimChars raw.toList) = some n ∧ s = .number n) ↔
      ∃ cs i n, StandsIn cs raw ∧ ReadsInteger cs i ∧ Number.Stores n i ∧ s = .number n := by
    simp only [Number.readInteger?_eq_some_iff, ← and_assoc, standsIn_and_readsInteger_iff]
    constructor
    · rintro ⟨n, ⟨i, reads, stores⟩, rfl⟩
      exact ⟨_, i, n, ⟨⟨rfl, reads⟩, stores⟩, rfl⟩
    · rintro ⟨_, i, n, ⟨⟨rfl, reads⟩, stores⟩, rfl⟩
      exact ⟨n, ⟨i, reads, stores⟩, rfl⟩
  rw [← reads]
  by_cases blank : ∀ c ∈ raw.toList, isBlank c = true
  · rw [coerce_int_of_blank blank, trimChars_eq_nil_iff.2 blank]
    constructor
    · intro h
      cases h
    · rintro ⟨n, none, -⟩
      cases none
  · rw [coerce_int_of_visible blank]
    cases Number.readInteger? (trimChars raw.toList) <;> simp [eq_comm]

theorem coerce_int_eq_error_iff {e : CoercionError} : coerce raw .int = .error e ↔
    (∀ c ∈ raw.toList, isBlank c = true) ∧ e = .empty ∨
      (¬ ∀ c ∈ raw.toList, isBlank c = true) ∧ (¬ ∃ s, coerce raw .int = .ok s) ∧
        e = .invalid raw "int" := by
  by_cases blank : ∀ c ∈ raw.toList, isBlank c = true
  · rw [coerce_int_of_blank blank, Except.error.injEq]
    constructor
    · rintro rfl
      exact .inl ⟨blank, rfl⟩
    · rintro (⟨-, rfl⟩ | ⟨visible, -⟩)
      · rfl
      · exact absurd blank visible
  · rw [coerce_int_of_visible blank]
    cases Number.readInteger? (trimChars raw.toList) with
    | some n => simp [blank]
    | none =>
      simp only [Except.error.injEq, reduceCtorEq, exists_false, not_false_iff, blank, false_and,
        true_and, false_or]
      exact eq_comm

/-- A text is coerced to an integer exactly if it is, between blanks, digits behind at most one
sign, or such a text behind one more plus sign, and denotes a number from `-2 ^ 63` to below
`2 ^ 64`. The number is then the result, signed below `2 ^ 63`. A blank text is empty, and any other
text is refused as it stands. -/
theorem coerce_int_iff_readsInteger (raw : String) :
    (∀ s, coerce raw .int = .ok s ↔
      ∃ cs i n, StandsIn cs raw ∧ ReadsInteger cs i ∧ Number.Stores n i ∧ s = .number n) ∧
    ((∃ s, coerce raw .int = .ok s) ↔
      ∃ cs i, StandsIn cs raw ∧ ReadsInteger cs i ∧
        -9223372036854775808 ≤ i ∧ i < 18446744073709551616) ∧
    ∀ e, coerce raw .int = .error e ↔
      (∀ c ∈ raw.toList, isBlank c = true) ∧ e = .empty ∨
        (¬ ∀ c ∈ raw.toList, isBlank c = true) ∧ (¬ ∃ s, coerce raw .int = .ok s) ∧
          e = .invalid raw "int" := by
  refine ⟨fun s => coerce_int_eq_ok_iff, ?_, fun e => coerce_int_eq_error_iff⟩
  simp only [coerce_int_eq_ok_iff, ← Number.exists_stores_iff]
  constructor
  · rintro ⟨_, cs, i, n, stands, reads, stores, rfl⟩
    exact ⟨cs, i, stands, reads, n, stores⟩
  · rintro ⟨cs, i, stands, reads, n, stores⟩
    exact ⟨_, cs, i, n, stands, reads, stores, rfl⟩

theorem coerce_int_reads_second_sign :
    coerce "++5" .int = .ok (.number (.signed 5)) ∧
      ¬ ∃ cs i, StandsIn cs "++5" ∧ DenotesInteger cs i := by
  refine ⟨by decide, ?_⟩
  rintro ⟨cs, i, stands, denotes⟩
  have whole := (standsIn_and_readsInteger_iff.1 ⟨stands, .integer denotes⟩).1
  rw [show trimChars "++5".toList = ['+', '+', '5'] by decide] at whole
  subst whole
  cases denotes with
  | plain digits => exact digits.ne_cons (by decide) _ rfl
  | plus digits => exact digits.ne_cons (by decide) _ rfl

end RecordQuery
