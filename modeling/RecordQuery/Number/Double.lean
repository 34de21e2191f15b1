import RecordQuery.Number.FloatFormat

/-!
Double-precision numbers, held as their 64 bits, with exact arithmetic on whole numbers behind
every rounded result. What arithmetic takes is finite and not negative, and divisors are above zero.
-/

namespace RecordQuery

structure Double where
  bits : UInt64
  deriving DecidableEq

namespace Double

def signCode : Nat := 0x8000000000000000

def isNegative (x : Double) : Bool := signCode ≤ x.bits.toNat

def code (x : Double) : Nat := x.bits.toNat % signCode

def isNaN (x : Double) : Bool := binary64.infinity < x.code

def isFinite (x : Double) : Bool := x.code < binary64.infinity

def isZero (x : Double) : Bool := x.code == 0

def ofCode (negative : Bool) (code : Nat) : Double :=
  ⟨.ofNat (if negative then signCode + code else code)⟩

def nan : Double := ofCode false 0x7FF8000000000000

def infinity (negative : Bool) : Double := ofCode negative binary64.infinity

def ofRatio (negative : Bool) (n d : Nat) : Double := ofCode negative (binary64.encode n d)

def ofNat (n : Nat) : Double := ofRatio false n 1

def ofInt (i : Int) : Double := ofRatio (i < 0) i.natAbs 1

def neg (x : Double) : Double := ofCode (!x.isNegative) x.code

def units (x : Double) : Nat := binary64.units x.code

def one : Nat := twoTo binary64.unit

def add (x y : Double) : Double := ofRatio false (x.units + y.units) one

def mul (x y : Double) : Double := ofRatio false (x.units * y.units) (one * one)

def div (x y : Double) : Double := ofRatio false x.units y.units

def round (x : Double) : Double := ofNat ((2 * x.units + one) / (2 * one))

/-- Place in the order of numbers; both zeros have one place. -/
def place (x : Double) : Int := if x.isNegative then -x.code else x.code

def compare (x y : Double) : Option Ordering :=
  if x.isNaN || y.isNaN then none else some (Ord.compare x.place y.place)

theorem compare_eq_none_iff {x y : Double} :
    x.compare y = none ↔ x.isNaN = true ∨ y.isNaN = true := by
  simp only [compare]
  split <;> simp_all

end Double

end RecordQuery
