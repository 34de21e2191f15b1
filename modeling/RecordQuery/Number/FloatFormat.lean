import RecordQuery.Number.Power

/-!
Binary floating-point formats. A finite magnitude is a whole number of the format's smallest unit,
and magnitudes are encoded in the order of their values.
-/

namespace RecordQuery

structure FloatFormat where
  /-- Bits of the significand, its leading one included. -/
  precision : Nat
  /-- The smallest unit is `2 ^ (-unit)`. -/
  unit : Nat
  /-- The code of infinity; greater codes are not numbers. -/
  infinity : Nat

def binary64 : FloatFormat := ⟨53, 1074, 0x7FF0000000000000⟩

def binary32 : FloatFormat := ⟨24, 149, 0x7F800000⟩

namespace FloatFormat

def roundHalfEven (n d : Nat) : Nat :=
  let q := n / d
  let r := n % d
  if 2 * r < d then q else if d < 2 * r then q + 1 else q + q % 2

def binaryExponent (n d : Nat) : Int :=
  let k : Int := (n.log2 : Int) - d.log2
  if d * twoTo k.toNat ≤ n * twoTo (-k).toNat then k else k - 1

def encode (f : FloatFormat) (n d : Nat) : Nat :=
  if n = 0 then 0
  else
    let e := max (binaryExponent n d - (f.precision - 1 : Nat)) (-f.unit)
    let m := roundHalfEven (n * twoTo (-e).toNat) (d * twoTo e.toNat)
    min ((e + f.unit).toNat * twoTo (f.precision - 1) + m) f.infinity

def split (f : FloatFormat) (code : Nat) : Nat × Nat :=
  let leading := twoTo (f.precision - 1)
  if code < leading then (code, 0) else (leading + code % leading, code / leading - 1)

def units (f : FloatFormat) (code : Nat) : Nat :=
  (f.split code).1 * twoTo (f.split code).2

end FloatFormat

end RecordQuery
