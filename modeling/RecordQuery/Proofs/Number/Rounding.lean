import RecordQuery.Number.Basic

namespace RecordQuery

namespace FloatFormat

variable {m n : Nat}

theorem le_roundHalfEven (n d : Nat) : n / d ≤ roundHalfEven n d := by
  grind [roundHalfEven]

theorem roundHalfEven_le (n d : Nat) : roundHalfEven n d ≤ n / d + 1 := by
  grind [roundHalfEven]

theorem roundHalfEven_one (n : Nat) : roundHalfEven n 1 = n := by
  simp [roundHalfEven, Nat.mod_one]

theorem roundHalfEven_le_roundHalfEven (h : m ≤ n) (d : Nat) :
    roundHalfEven m d ≤ roundHalfEven n d := by
  obtain same | less := Nat.eq_or_lt_of_le (Nat.div_le_div_right (c := d) h)
  · have rest : m % d ≤ n % d := by
      have hm := Nat.div_add_mod m d
      have hn := Nat.div_add_mod n d
      rw [same] at hm
      omega
    grind [roundHalfEven]
  · calc
      roundHalfEven m d ≤ m / d + 1 := roundHalfEven_le m d
      _ ≤ n / d := less
      _ ≤ roundHalfEven n d := le_roundHalfEven n d

def wholeSignificand (n : Nat) : Nat :=
  roundHalfEven (n * twoTo (52 - n.log2)) (twoTo (n.log2 - 52))

theorem wholeSignificand_of_le (small : n.log2 ≤ 52) :
    wholeSignificand n = n * twoTo (52 - n.log2) := by
  have one : twoTo (n.log2 - 52) = 1 := by
    rw [Nat.sub_eq_zero_of_le small]
    rfl
  rw [wholeSignificand, one, roundHalfEven_one]

theorem wholeSignificand_of_ge (large : 52 ≤ n.log2) :
    wholeSignificand n = roundHalfEven n (twoTo (n.log2 - 52)) := by
  have one : twoTo (52 - n.log2) = 1 := by
    rw [Nat.sub_eq_zero_of_le large]
    rfl
  rw [wholeSignificand, one, Nat.mul_one]

theorem twoTo_log2_le (some : n ≠ 0) : twoTo n.log2 ≤ n := Nat.log2_self_le some

theorem lt_twoTo_log2 (n : Nat) : n < twoTo (n.log2 + 1) := Nat.lt_log2_self

theorem twoTo_split {k l : Nat} (h : k ≤ l) : twoTo l = twoTo k * twoTo (l - k) := by
  rw [← twoTo_add, Nat.add_sub_cancel' h]

theorem le_wholeSignificand (some : n ≠ 0) : twoTo 52 ≤ wholeSignificand n := by
  obtain small | large := Nat.le_total n.log2 52
  · rw [wholeSignificand_of_le small, twoTo_split small]
    exact Nat.mul_le_mul_right _ (twoTo_log2_le some)
  · have quotient : twoTo 52 ≤ n / twoTo (n.log2 - 52) := by
      rw [Nat.le_div_iff_mul_le (twoTo_pos _), ← twoTo_split large]
      exact twoTo_log2_le some
    rw [wholeSignificand_of_ge large]
    exact Nat.le_trans quotient (le_roundHalfEven _ _)

theorem wholeSignificand_lt (small : n.log2 ≤ 52) : wholeSignificand n < twoTo 53 := by
  rw [wholeSignificand_of_le small, twoTo_split (Nat.succ_le_succ small), Nat.succ_sub_succ]
  exact Nat.mul_lt_mul_of_pos_right (lt_twoTo_log2 n) (twoTo_pos _)

theorem wholeSignificand_le (n : Nat) : wholeSignificand n ≤ twoTo 53 := by
  obtain small | large := Nat.le_total n.log2 52
  · exact Nat.le_of_lt (wholeSignificand_lt small)
  · have quotient : n / twoTo (n.log2 - 52) < twoTo 53 := by
      rw [Nat.div_lt_iff_lt_mul (twoTo_pos _), ← twoTo_add]
      have exponent : 53 + (n.log2 - 52) = n.log2 + 1 := by omega
      rw [exponent]
      exact lt_twoTo_log2 n
    rw [wholeSignificand_of_ge large]
    exact Nat.le_trans (roundHalfEven_le _ _) quotient

def wholeCode (n : Nat) : Nat := (n.log2 + 1022) * twoTo 52 + wholeSignificand n

theorem binaryExponent_whole (some : n ≠ 0) : binaryExponent n 1 = n.log2 := by
  have unit : ((n.log2 : Int) - (1 : Nat).log2) = n.log2 := by
    rw [show (1 : Nat).log2 = 0 by decide]
    omega
  have reached : 1 * twoTo (n.log2 : Int).toNat ≤ n * twoTo (-(n.log2 : Int)).toNat := by
    rw [Int.toNat_natCast, show (-(n.log2 : Int)).toNat = 0 by omega, Nat.one_mul]
    exact Nat.le_trans (twoTo_log2_le some) (Nat.le_of_eq (Nat.mul_one n).symm)
  simp only [binaryExponent, unit, reached, if_true]

theorem encode_whole (some : n ≠ 0) :
    binary64.encode n 1 = min (wholeCode n) binary64.infinity := by
  have scale : max (binaryExponent n 1 - (binary64.precision - 1 : Nat)) (-binary64.unit) =
      (n.log2 : Int) - 52 := by
    rw [binaryExponent_whole some]
    simp only [binary64]
    omega
  have up : (-((n.log2 : Int) - 52)).toNat = 52 - n.log2 := by omega
  have down : ((n.log2 : Int) - 52).toNat = n.log2 - 52 := by omega
  have place : ((n.log2 : Int) - 52 + binary64.unit).toNat = n.log2 + 1022 := by
    simp only [binary64]
    omega
  simp only [encode, some, if_false, scale, up, down, place, Nat.one_mul]
  rfl

theorem log2_le_log2 (some : m ≠ 0) (h : m ≤ n) : m.log2 ≤ n.log2 :=
  (Nat.le_log2 (by omega)).2 (Nat.le_trans (Nat.log2_self_le some) h)

theorem le_wholeCode_of_lt_log2 {exponent : Nat} (some : n ≠ 0) (less : exponent < n.log2) :
    (exponent + 1022) * twoTo 52 + twoTo 53 ≤ wholeCode n := by
  have double : twoTo 53 = 2 * twoTo 52 := rfl
  have significand := le_wholeSignificand some
  have exponents : (exponent + 1 + 1022) * twoTo 52 ≤ (n.log2 + 1022) * twoTo 52 :=
    Nat.mul_le_mul_right _ (by omega)
  simp only [wholeCode, Nat.add_mul] at exponents ⊢
  omega

theorem wholeCode_le_wholeCode (some : m ≠ 0) (h : m ≤ n) : wholeCode m ≤ wholeCode n := by
  obtain same | less := Nat.eq_or_lt_of_le (log2_le_log2 some h)
  · have significands : wholeSignificand m ≤ wholeSignificand n := by
      rw [wholeSignificand, wholeSignificand, same]
      exact roundHalfEven_le_roundHalfEven (Nat.mul_le_mul_right _ h) _
    rw [wholeCode, wholeCode, same]
    exact Nat.add_le_add_left significands _
  · calc
      wholeCode m ≤ (m.log2 + 1022) * twoTo 52 + twoTo 53 :=
        Nat.add_le_add_left (wholeSignificand_le m) _
      _ ≤ wholeCode n := le_wholeCode_of_lt_log2 (by omega) less

theorem wholeCode_lt_wholeCode (some : m ≠ 0) (h : m < n) (exact : n ≤ twoTo 53) :
    wholeCode m < wholeCode n := by
  have small : m.log2 ≤ 52 := by
    have below : m < 2 ^ 53 := Nat.lt_of_lt_of_le h exact
    have := (Nat.log2_lt some).2 below
    omega
  obtain same | less := Nat.eq_or_lt_of_le (log2_le_log2 some (Nat.le_of_lt h))
  · have significands : wholeSignificand m < wholeSignificand n := by
      rw [wholeSignificand_of_le small, wholeSignificand_of_le (same ▸ small), same]
      exact Nat.mul_lt_mul_of_pos_right h (twoTo_pos _)
    rw [wholeCode, wholeCode, same]
    exact Nat.add_lt_add_left significands _
  · calc
      wholeCode m < (m.log2 + 1022) * twoTo 52 + twoTo 53 :=
        Nat.add_lt_add_left (wholeSignificand_lt small) _
      _ ≤ wholeCode n := le_wholeCode_of_lt_log2 (by omega) less

theorem encode_le_infinity (n d : Nat) : binary64.encode n d ≤ binary64.infinity := by
  simp only [encode]
  split
  · exact Nat.zero_le _
  · exact Nat.min_le_right _ _

theorem encode_whole_le (h : m ≤ n) : binary64.encode m 1 ≤ binary64.encode n 1 := by
  by_cases zero : m = 0
  · subst zero
    exact Nat.zero_le _
  · rw [encode_whole zero, encode_whole (by omega)]
    have := wholeCode_le_wholeCode zero h
    omega

theorem encode_whole_lt (h : m < n) (exact : n ≤ twoTo 53) :
    binary64.encode m 1 < binary64.encode n 1 := by
  have some : n ≠ 0 := by omega
  have finite : wholeCode n < binary64.infinity := by
    have exponent : n.log2 ≤ 53 := by
      have below : n < 2 ^ 54 := Nat.lt_of_le_of_lt exact (by decide)
      have := (Nat.log2_lt some).2 below
      omega
    have exponents : (n.log2 + 1022) * twoTo 52 ≤ 1075 * twoTo 52 :=
      Nat.mul_le_mul_right _ (by omega)
    have significand := wholeSignificand_le n
    have double : twoTo 53 = 2 * twoTo 52 := rfl
    have greatest : binary64.infinity = 2047 * twoTo 52 := rfl
    have positive := twoTo_pos 52
    rw [wholeCode]
    omega
  rw [encode_whole some, Nat.min_eq_left (Nat.le_of_lt finite)]
  by_cases zero : m = 0
  · subst zero
    have := le_wholeSignificand some
    have := twoTo_pos 52
    simp only [encode, if_true, wholeCode]
    omega
  · have := wholeCode_lt_wholeCode zero h exact
    rw [encode_whole zero]
    omega

end FloatFormat

namespace Double

open FloatFormat

variable {i j : Int}

theorem toNat_bits_ofCode (negative : Bool) {code : Nat} (h : code < signCode) :
    (ofCode negative code).bits.toNat = if negative then signCode + code else code := by
  have fits : (if negative then signCode + code else code) < UInt64.size := by
    simp only [signCode, UInt64.size] at h ⊢
    split <;> omega
  exact UInt64.toNat_ofNat_of_lt' fits

theorem code_ofCode (negative : Bool) {code : Nat} (h : code < signCode) :
    (ofCode negative code).code = code := by
  rw [Double.code, toNat_bits_ofCode negative h]
  split
  · rw [Nat.add_mod_left, Nat.mod_eq_of_lt h]
  · exact Nat.mod_eq_of_lt h

theorem isNegative_ofCode (negative : Bool) {code : Nat} (h : code < signCode) :
    (ofCode negative code).isNegative = negative := by
  rw [isNegative, toNat_bits_ofCode negative h]
  cases negative <;> simp [h]

theorem encode_lt_signCode (n d : Nat) : binary64.encode n d < signCode :=
  Nat.lt_of_le_of_lt (encode_le_infinity n d) (by decide)

theorem isNaN_ofRatio (negative : Bool) (n d : Nat) : (ofRatio negative n d).isNaN = false := by
  rw [isNaN, ofRatio, code_ofCode negative (encode_lt_signCode n d)]
  exact decide_eq_false (Nat.not_lt.2 (encode_le_infinity n d))

theorem isNaN_neg (x : Double) : x.neg.isNaN = x.isNaN := by
  have small : x.code < signCode := Nat.mod_lt _ (by decide)
  rw [isNaN, neg, code_ofCode _ small, isNaN]

theorem place_ofInt (i : Int) : (ofInt i).place =
    if i < 0 then -(binary64.encode i.natAbs 1 : Int) else binary64.encode i.natAbs 1 := by
  have small := encode_lt_signCode i.natAbs 1
  simp only [place, ofInt, ofRatio, isNegative_ofCode _ small, code_ofCode _ small,
    decide_eq_true_eq]

theorem ofInt_natCast (n : Nat) : ofInt n = ofNat n := by
  rw [ofInt, ofNat, Int.natAbs_natCast, decide_eq_false (by omega)]

theorem place_ofInt_le (h : i ≤ j) : (ofInt i).place ≤ (ofInt j).place := by
  rw [place_ofInt, place_ofInt]
  split <;> split
  · have := encode_whole_le (show j.natAbs ≤ i.natAbs by omega)
    omega
  · omega
  · omega
  · have := encode_whole_le (show i.natAbs ≤ j.natAbs by omega)
    omega

theorem place_ofInt_lt (h : i < j) (exactLeft : i.natAbs ≤ twoTo 53)
    (exactRight : j.natAbs ≤ twoTo 53) : (ofInt i).place < (ofInt j).place := by
  rw [place_ofInt, place_ofInt]
  split <;> split
  · have := encode_whole_lt (show j.natAbs < i.natAbs by omega) exactLeft
    omega
  · have := encode_whole_lt (show 0 < i.natAbs by omega) exactLeft
    omega
  · omega
  · have := encode_whole_lt (show i.natAbs < j.natAbs by omega) exactRight
    omega

end Double

theorem Decimal.isNaN_toDouble (d : Decimal) : d.toDouble.isNaN = false := by
  have magnitude : ∀ x : Double, x.isNaN = false →
      (if d.negative then x.neg else x).isNaN = false := by
    intro x h
    split
    · rwa [Double.isNaN_neg]
    · exact h
  rw [toDouble]
  apply magnitude
  split
  · exact Double.isNaN_ofRatio _ _ _
  · exact Double.isNaN_ofRatio _ _ _

namespace Number

theorem isNaN_toDouble (n : Number) : n.toDouble.isNaN = n.isNaN := by
  cases n with
  | signed => exact Double.isNaN_ofRatio _ _ _
  | unsigned => exact Double.isNaN_ofRatio _ _ _
  | float => rfl
  | decimal d => exact d.isNaN_toDouble

end Number

end RecordQuery
