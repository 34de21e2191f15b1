import RecordQuery.Number.Double

namespace RecordQuery

def Decimal.limit : Nat := 79228162514264337593543950336

/-- A sign, and a magnitude counted in units of `10 ^ (-places)`. Zero has either sign. -/
structure Decimal where
  negative : Bool
  magnitude : Nat
  places : Nat
  magnitude_lt : magnitude < Decimal.limit := by decide
  places_le : places ≤ 28 := by decide
  deriving DecidableEq

namespace Decimal

def make? (negative : Bool) (magnitude places : Nat) : Option Decimal :=
  if h : magnitude < limit ∧ places ≤ 28 then some ⟨negative, magnitude, places, h.1, h.2⟩ else none

def digits (a : Decimal) : Int := if a.negative then -a.magnitude else a.magnitude

def ofInt64 (i : Int64) : Decimal where
  negative := i.toInt < 0
  magnitude := i.toInt.natAbs
  places := 0
  magnitude_lt := by
    have := i.toInt_lt
    have := i.le_toInt
    unfold limit
    omega

def ofUInt64 (n : UInt64) : Decimal where
  negative := false
  magnitude := n.toNat
  places := 0
  magnitude_lt := by
    have := n.toNat_lt
    unfold limit
    omega

@[simp] theorem digits_ofInt64 (i : Int64) : (ofInt64 i).digits = i.toInt := by
  simp only [digits, ofInt64, decide_eq_true_eq]
  split <;> omega

@[simp] theorem digits_ofUInt64 (n : UInt64) : (ofUInt64 n).digits = n.toNat := rfl

def compare (a b : Decimal) : Ordering :=
  Ord.compare (a.digits * tenTo b.places) (b.digits * tenTo a.places)

def powerOfTen (n : Nat) : Double :=
  ((List.range 5).foldl (fun (product, square) i =>
    (if n.testBit i then product.mul square else product, square.mul square))
    (Double.ofNat 1, Double.ofNat 10)).1

/-- The double near the value: whole part and fraction are converted apart, and their sum is cut
back to the number of places. -/
def toDouble (a : Decimal) : Double :=
  let power := tenTo a.places
  let whole := Double.ofNat (a.magnitude / power)
  let fraction := (Double.ofNat (a.magnitude % power)).div (Double.ofNat power)
  let magnitude :=
    if a.places = 0 ∨ fraction.isZero then whole
    else
      let scale := powerOfTen a.places
      (((whole.add fraction).mul scale).round).div scale
  if a.negative then magnitude.neg else magnitude

end Decimal

end RecordQuery
