import Mathlib.Algebra.Order.Ring.Rat
import Mathlib.Data.Rat.Cast.Order
import RecordQuery.Number.Basic

namespace RecordQuery

theorem compare_eq_compare_of_lt_iff {α β : Type} [LinearOrder α] [LinearOrder β] {a b : α}
    {x y : β} (lt : a < b ↔ x < y) (gt : b < a ↔ y < x) : compare a b = compare x y := by
  rcases lt_trichotomy a b with h | h | h
  · rw [compare_lt_iff_lt.2 h, compare_lt_iff_lt.2 (lt.1 h)]
  · have same : x = y := le_antisymm (not_lt.1 (mt gt.2 h.not_gt)) (not_lt.1 (mt lt.2 h.not_lt))
    rw [compare_eq_iff_eq.2 h, compare_eq_iff_eq.2 same]
  · rw [compare_gt_iff_gt.2 h, compare_gt_iff_gt.2 (gt.1 h)]

theorem compare_intCast (i j : Int) : compare (i : ℚ) (j : ℚ) = compare i j :=
  compare_eq_compare_of_lt_iff Int.cast_lt Int.cast_lt

theorem compare_natCast (m n : Nat) : compare (m : ℚ) (n : ℚ) = compare m n :=
  compare_eq_compare_of_lt_iff Nat.cast_lt Nat.cast_lt

def Decimal.value (d : Decimal) : ℚ := d.digits / tenTo d.places

theorem Decimal.compare_eq (a b : Decimal) : a.compare b = Ord.compare a.value b.value := by
  have ha : (0 : ℚ) < tenTo a.places := by exact_mod_cast tenTo_pos a.places
  have hb : (0 : ℚ) < tenTo b.places := by exact_mod_cast tenTo_pos b.places
  apply compare_eq_compare_of_lt_iff
  · rw [value, value, div_lt_div_iff₀ ha hb]
    exact_mod_cast Iff.rfl
  · rw [value, value, div_lt_div_iff₀ hb ha]
    exact_mod_cast Iff.rfl

@[simp] theorem Decimal.value_ofInt64 (i : Int64) : (ofInt64 i).value = i.toInt := by
  rw [value, digits_ofInt64]
  simp [ofInt64, tenTo]

@[simp] theorem Decimal.value_ofUInt64 (n : UInt64) : (ofUInt64 n).value = n.toNat := by
  rw [value, digits_ofUInt64]
  simp [ofUInt64, tenTo]

namespace Number

def rational? : Number → Option ℚ
  | .signed i => some i.toInt
  | .unsigned n => some n.toNat
  | .float _ => none
  | .decimal d => some d.value

theorem compare_eq_of_rational? {a b : Number} {x y : ℚ} (ha : a.rational? = some x)
    (hb : b.rational? = some y) : a.compare b = some (Ord.compare x y) := by
  cases a with
  | float => cases ha
  | signed i =>
    cases ha
    cases b <;> cases hb <;> simp [compare, Decimal.compare_eq, ← compare_intCast]
  | unsigned n =>
    cases ha
    cases b <;> cases hb <;>
      simp [compare, Decimal.compare_eq, ← compare_intCast, ← compare_natCast]
  | decimal d =>
    cases ha
    cases b <;> cases hb <;> simp [compare, Decimal.compare_eq]

end Number

end RecordQuery
