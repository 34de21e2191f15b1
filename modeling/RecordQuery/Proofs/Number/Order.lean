import Mathlib.Tactic.NormNum
import RecordQuery.Proofs.Number.Exact
import RecordQuery.Proofs.Number.Rounding

/-!
The order of numbers of all kinds. It is that of the exact values unless one of the numbers is a
double. With doubles the others are compared as the doubles nearest to them, so that a double may
come between two numbers against their order. Nothing else keeps the order from being transitive.
-/

namespace RecordQuery

theorem Double.compare_swap (x y : Double) : y.compare x = (x.compare y).map Ordering.swap := by
  have nan : (y.isNaN || x.isNaN) = (x.isNaN || y.isNaN) := Bool.or_comm _ _
  simp only [Double.compare, nan]
  split
  · rfl
  · exact congrArg some Std.OrientedCmp.eq_swap

theorem Double.compare_ne_gt_iff {x y : Double} (hx : x.isNaN = false) (hy : y.isNaN = false) :
    x.compare y ≠ some .gt ↔ x.place ≤ y.place := by
  simp [Double.compare, hx, hy, compare_gt_iff_gt]

namespace Number

variable {a b c m n : Number} {x : Double} {p q : ℚ} {i j : Int}

theorem exists_rational?_or_float (n : Number) :
    (∃ p, n.rational? = some p) ∨ ∃ x, n = .float x := by
  cases n with
  | float x => exact .inr ⟨x, rfl⟩
  | _ => exact .inl ⟨_, rfl⟩

theorem isNaN_of_rational? (h : n.rational? = some p) : n.isNaN = false := by
  cases n with
  | float => cases h
  | _ => rfl

theorem compare_float_left (x : Double) (b : Number) :
    compare (.float x) b = x.compare b.toDouble := by
  cases b <;> rfl

theorem compare_float_right (a : Number) (x : Double) :
    a.compare (.float x) = a.toDouble.compare x := by
  cases a <;> rfl

theorem compare_swap (a b : Number) : b.compare a = (a.compare b).map Ordering.swap := by
  obtain ⟨p, ha⟩ | ⟨x, rfl⟩ := a.exists_rational?_or_float
  · obtain ⟨q, hb⟩ | ⟨y, rfl⟩ := b.exists_rational?_or_float
    · rw [compare_eq_of_rational? ha hb, compare_eq_of_rational? hb ha]
      exact congrArg some Std.OrientedCmp.eq_swap
    · rw [compare_float_left, compare_float_right]
      exact Double.compare_swap _ _
  · rw [compare_float_left, compare_float_right]
    exact Double.compare_swap _ _

theorem compare_eq_none_iff : a.compare b = none ↔ a.isNaN = true ∨ b.isNaN = true := by
  obtain ⟨p, ha⟩ | ⟨x, rfl⟩ := a.exists_rational?_or_float
  · obtain ⟨q, hb⟩ | ⟨y, rfl⟩ := b.exists_rational?_or_float
    · simp [compare_eq_of_rational? ha hb, isNaN_of_rational? ha, isNaN_of_rational? hb]
    · rw [compare_float_right, Double.compare_eq_none_iff, isNaN_toDouble]
      rfl
  · rw [compare_float_left, Double.compare_eq_none_iff, isNaN_toDouble]
    rfl

/-- Turned around, numbers compare the other way; they compare unless one of them is not a number;
and integers and decimals compare as their exact values do. -/
theorem compare_antisymm_exact (a b : Number) :
    b.compare a = (a.compare b).map Ordering.swap ∧
      (a.compare b = none ↔ a.isNaN = true ∨ b.isNaN = true) ∧
      ∀ p q, a.rational? = some p → b.rational? = some q →
        a.compare b = some (Ord.compare p q) :=
  ⟨compare_swap a b, compare_eq_none_iff, fun _ _ ha hb => compare_eq_of_rational? ha hb⟩

theorem compare_antisymm_exact_tenth :
    let a : Number := .unsigned 18446744073709551615
    let b : Number := .decimal ⟨false, 184467440737095516151, 1, by decide, by decide⟩
    a.rational? = some 18446744073709551615 ∧
      b.rational? = some (184467440737095516151 / 10) ∧ a.compare b = some .lt := by
  intro a b
  have ha : a.rational? = some 18446744073709551615 := rfl
  have hb : b.rational? = some (184467440737095516151 / 10) := rfl
  have below : (18446744073709551615 : ℚ) < 184467440737095516151 / 10 := by norm_num
  refine ⟨ha, hb, ?_⟩
  rw [(compare_antisymm_exact a b).2.2 _ _ ha hb, compare_lt_iff_lt.2 below]

def AtMost (a b : Number) : Prop := a.compare b ≠ some .gt

theorem atMost_iff_of_rational? (ha : a.rational? = some p) (hb : b.rational? = some q) :
    a.AtMost b ↔ p ≤ q := by
  simp [AtMost, compare_eq_of_rational? ha hb, compare_gt_iff_gt]

theorem atMost_float_iff (ha : a.isNaN = false) (hx : x.isNaN = false) :
    a.AtMost (.float x) ↔ a.toDouble.place ≤ x.place := by
  rw [AtMost, compare_float_right]
  exact Double.compare_ne_gt_iff (a.isNaN_toDouble.trans ha) hx

theorem float_atMost_iff (hx : x.isNaN = false) (hb : b.isNaN = false) :
    (Number.float x).AtMost b ↔ x.place ≤ b.toDouble.place := by
  rw [AtMost, compare_float_left]
  exact Double.compare_ne_gt_iff hx (b.isNaN_toDouble.trans hb)

/-- A double stands between two numbers against their order: the first is at most the second, but
its double is not below the one in between, nor that below the double of the second. -/
def Crosses (x : Double) (m n : Number) : Prop :=
  ∃ p q, m.rational? = some p ∧ n.rational? = some q ∧ p ≤ q ∧
    n.toDouble.place ≤ x.place ∧ x.place ≤ m.toDouble.place ∧
    (p < q ∨ n.toDouble.place < m.toDouble.place)

theorem exists_crosses_of_not_atMost (na : a.isNaN = false) (nb : b.isNaN = false)
    (nc : c.isNaN = false) (ab : a.AtMost b) (bc : b.AtMost c) (ac : ¬ a.AtMost c) :
    (∃ x, a = .float x ∧ Crosses x b c) ∨ (∃ x, b = .float x ∧ Crosses x c a) ∨
      ∃ x, c = .float x ∧ Crosses x a b := by
  obtain ⟨q, hb⟩ | ⟨y, rfl⟩ := b.exists_rational?_or_float
  · obtain ⟨p, ha⟩ | ⟨x, rfl⟩ := a.exists_rational?_or_float
    · rw [atMost_iff_of_rational? ha hb] at ab
      obtain ⟨r, hc⟩ | ⟨z, rfl⟩ := c.exists_rational?_or_float
      · rw [atMost_iff_of_rational? hb hc] at bc
        exact absurd ((atMost_iff_of_rational? ha hc).2 (le_trans ab bc)) ac
      · rw [atMost_float_iff nb nc] at bc
        rw [atMost_float_iff na nc, not_le] at ac
        exact .inr (.inr ⟨z, rfl, p, q, ha, hb, ab, bc, le_of_lt ac, .inr (lt_of_le_of_lt bc ac)⟩)
    · rw [float_atMost_iff na nb] at ab
      rw [float_atMost_iff na nc, not_le] at ac
      obtain ⟨r, hc⟩ | ⟨z, rfl⟩ := c.exists_rational?_or_float
      · rw [atMost_iff_of_rational? hb hc] at bc
        exact .inl ⟨x, rfl, q, r, hb, hc, bc, le_of_lt ac, ab, .inr (lt_of_lt_of_le ac ab)⟩
      · rw [atMost_float_iff nb nc] at bc
        exact absurd (le_trans ab bc) (not_le.2 ac)
  · -- a double in the middle is compared with doubles on both sides
    rw [atMost_float_iff na nb] at ab
    rw [float_atMost_iff nb nc] at bc
    obtain ⟨p, ha⟩ | ⟨x, rfl⟩ := a.exists_rational?_or_float
    · obtain ⟨r, hc⟩ | ⟨z, rfl⟩ := c.exists_rational?_or_float
      · rw [atMost_iff_of_rational? ha hc, not_le] at ac
        exact .inr (.inl ⟨y, rfl, r, p, hc, ha, le_of_lt ac, ab, bc, .inl ac⟩)
      · exact absurd ((atMost_float_iff na nc).2 (le_trans ab bc)) ac
    · exact absurd ((float_atMost_iff na nc).2 (le_trans ab bc)) ac

theorem not_crosses_of_trans {s : Number → Prop} (numbers : ∀ n, s n → n.isNaN = false)
    (trans : ∀ a b c, s a → s b → s c → a.AtMost b → b.AtMost c → a.AtMost c)
    (sm : s m) (sn : s n) (sx : s (.float x)) : ¬ Crosses x m n := by
  rintro ⟨p, q, hm, hn, order, above, below, apart⟩
  have nm := numbers m sm
  have nn := numbers n sn
  have nx : x.isNaN = false := numbers _ sx
  have n_x : n.AtMost (.float x) := (atMost_float_iff nn nx).2 above
  have x_m : (Number.float x).AtMost m := (float_atMost_iff nx nm).2 below
  have m_n : m.AtMost n := (atMost_iff_of_rational? hm hn).2 order
  have back : q ≤ p := (atMost_iff_of_rational? hn hm).1 (trans n _ m sn sx sm n_x x_m)
  -- what is left is that the numbers are equal, and then the double is that of both
  have m_x := (atMost_float_iff nm nx).1 (trans m n _ sm sn sx m_n n_x)
  have x_n := (float_atMost_iff nx nn).1 (trans _ m n sx sm sn x_m m_n)
  obtain less | less := apart
  · exact absurd back (not_le.2 less)
  · exact absurd (le_trans m_x x_n) (not_le.2 less)

def integer? : Number → Option Int
  | .signed i => some i.toInt
  | .unsigned n => some n.toNat
  | .float _ | .decimal _ => none

theorem rational?_of_integer? (h : n.integer? = some i) : n.rational? = some (i : ℚ) := by
  cases n <;> cases h <;> rfl

theorem toDouble_of_integer? (h : n.integer? = some i) : n.toDouble = .ofInt i := by
  cases n <;> cases h
  · rfl
  · exact (Double.ofInt_natCast _).symm

theorem crosses_iff_of_integer? (hm : m.integer? = some i) (hn : n.integer? = some j) :
    Crosses x m n ↔
      i < j ∧ (Double.ofInt i).place = x.place ∧ (Double.ofInt j).place = x.place := by
  have dm := toDouble_of_integer? hm
  have dn := toDouble_of_integer? hn
  constructor
  · rintro ⟨p, q, vm, vn, order, above, below, apart⟩
    cases (rational?_of_integer? hm).symm.trans vm
    cases (rational?_of_integer? hn).symm.trans vn
    rw [dn] at above
    rw [dm] at below
    rw [dm, dn, Int.cast_lt] at apart
    have kept := Double.place_ofInt_le (Int.cast_le.1 order)
    omega
  · rintro ⟨less, left, right⟩
    refine ⟨i, j, rational?_of_integer? hm, rational?_of_integer? hn, ?_, ?_, ?_, ?_⟩
    · exact Int.cast_le.2 (le_of_lt less)
    · rw [dn, right]
    · rw [dm, left]
    · exact .inl (Int.cast_lt.2 less)

/-- Decimals do not keep their order: equal ones of other places may have other doubles. -/
example :
    let a : Decimal := ⟨false, 9625, 11, by decide, by decide⟩
    let b : Decimal := ⟨false, 9625000000000000000, 26, by decide, by decide⟩
    a.compare b = .eq ∧ b.toDouble.place < a.toDouble.place := by
  decide +kernel

/-- The numbers of a set are transitively ordered exactly if no double among them stands between two
of them against their order. Between integers it does so only if it is the double of both, which
those up to `2 ^ 53` never share. -/
theorem atMost_trans_iff_not_crosses {s : Number → Prop} (numbers : ∀ n, s n → n.isNaN = false) :
    ((∀ a b c, s a → s b → s c → a.AtMost b → b.AtMost c → a.AtMost c) ↔
      ∀ m n x, s m → s n → s (.float x) → ¬ Crosses x m n) ∧
    ∀ m n i j x, m.integer? = some i → n.integer? = some j →
      (Crosses x m n ↔
        i < j ∧ (Double.ofInt i).place = x.place ∧ (Double.ofInt j).place = x.place) ∧
      (i.natAbs ≤ twoTo 53 → j.natAbs ≤ twoTo 53 → ¬ Crosses x m n) := by
  refine ⟨⟨fun trans m n x sm sn sx => not_crosses_of_trans numbers trans sm sn sx, ?_⟩, ?_⟩
  · intro uncrossed a b c sa sb sc ab bc
    by_contra ac
    obtain ⟨x, rfl, crosses⟩ | ⟨x, rfl, crosses⟩ | ⟨x, rfl, crosses⟩ :=
      exists_crosses_of_not_atMost (numbers a sa) (numbers b sb) (numbers c sc) ab bc ac
    · exact uncrossed b c x sb sc sa crosses
    · exact uncrossed c a x sc sa sb crosses
    · exact uncrossed a b x sa sb sc crosses
  · intro m n i j x hm hn
    refine ⟨crosses_iff_of_integer? hm hn, fun left right crosses => ?_⟩
    obtain ⟨less, same, same'⟩ := (crosses_iff_of_integer? hm hn).1 crosses
    have apart := Double.place_ofInt_lt less left right
    omega

theorem atMost_trans_iff_not_crosses_exact :
    let s : Number → Prop := fun n =>
      (∃ i, n.integer? = some i ∧ i.natAbs ≤ twoTo 53) ∨ ∃ x, n = .float x ∧ x.isNaN = false
    s (.unsigned 9007199254740992) ∧ s (.float (.ofNat 9007199254740993)) ∧
      (∀ n, s n → n.isNaN = false) ∧
      ∀ a b c, s a → s b → s c → a.AtMost b → b.AtMost c → a.AtMost c := by
  intro s
  have numbers : ∀ n, s n → n.isNaN = false := by
    rintro n (⟨i, value, -⟩ | ⟨x, rfl, number⟩)
    · exact isNaN_of_rational? (rational?_of_integer? value)
    · exact number
  refine ⟨.inl ⟨9007199254740992, rfl, by decide⟩, .inr ⟨_, rfl, by decide +kernel⟩, numbers, ?_⟩
  obtain ⟨iff, integers⟩ := atMost_trans_iff_not_crosses numbers
  refine iff.2 fun m n x sm sn _ crosses => ?_
  have exact {k : Number} (sk : s k) {p : ℚ} (value : k.rational? = some p) :
      ∃ i, k.integer? = some i ∧ i.natAbs ≤ twoTo 53 := by
    obtain integer | ⟨y, rfl, -⟩ := sk
    · exact integer
    · cases value
  obtain ⟨p, q, vm, vn, -⟩ := id crosses
  obtain ⟨i, hm, left⟩ := exact sm vm
  obtain ⟨j, hn, right⟩ := exact sn vn
  exact (integers m n i j x hm hn).2 left right crosses

theorem not_atMost_trans_of_rounding :
    let a : Number := .signed 9007199254740993
    let b : Number := .float (.ofNat 9007199254740992)
    let c : Number := .signed 9007199254740992
    a.isNaN = false ∧ b.isNaN = false ∧ c.isNaN = false ∧
      a.AtMost b ∧ b.AtMost c ∧ ¬ a.AtMost c := by
  unfold AtMost
  decide +kernel

end Number

end RecordQuery
