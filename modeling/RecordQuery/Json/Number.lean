import RecordQuery.Number.DoubleText

namespace RecordQuery.Json

open Text

structure NumberLiteral where
  negative : Bool := false
  whole : List Char := []
  fraction : List Char := []
  negativeExponent : Bool := false
  exponent : List Char := []
  deriving DecidableEq

namespace NumberLiteral

def ofNat (n : Nat) : NumberLiteral := { whole := digits n }

def render (l : NumberLiteral) : List Char :=
  (if l.negative then ['-'] else []) ++ l.whole ++
    (if l.fraction.isEmpty then [] else '.' :: l.fraction) ++
    (if l.exponent.isEmpty then []
      else 'e' :: ((if l.negativeExponent then ['-'] else []) ++ l.exponent))

/-- Continues a number with digits as long as it fits a word; the digits left over come back. -/
def takeDigits (n : Nat) : List Char → Nat × List Char
  | [] => (n, [])
  | c :: cs =>
    let next := 10 * n + (c.toNat - 48)
    if next < UInt64.size then takeDigits next cs else (n, c :: cs)

end NumberLiteral

inductive NumberValue
  | unsigned (n : UInt64)
  | signed (i : Int64)
  | float (x : Double)

def divideByPower (x : Double) (n : Nat) : Double :=
  if n ≤ 308 then x.div (Double.ofNat (tenTo n))
  else if x.isZero then x
  else divideByPower (x.div (Double.ofNat (tenTo 308))) (n - 308)
termination_by n

/-- A word times a power of ten, with one rounding for each step; nothing where it is too large. -/
def scale? (n : Nat) (exponent : Int) : Option Double :=
  let x := Double.ofNat n
  if exponent < 0 then some (divideByPower x exponent.natAbs)
  else if n = 0 then some x
  else if exponent ≤ 308 then
    (some (x.mul (Double.ofNat (tenTo exponent.toNat)))).filter (·.isFinite)
  else none

namespace NumberLiteral

def toDouble? (l : NumberLiteral) : Option Double :=
  let (n, unread) := takeDigits 0 l.whole
  let (n, rest) := takeDigits n l.fraction
  let shift : Int := unread.length - (l.fraction.length - rest.length : Nat)
  let exponent := digitsValue l.exponent
  let magnitude :=
    if (exponent : Int) ≤ Int32.maxValue.toInt then
      scale? n (if l.negativeExponent then shift - exponent else shift + exponent)
    else if n = 0 ∨ l.negativeExponent then some (Double.ofNat 0)
    else none
  magnitude.map fun x => if l.negative then x.neg else x

def value? (l : NumberLiteral) : Option NumberValue :=
  let n := digitsValue l.whole
  let isInteger := l.fraction.isEmpty && l.exponent.isEmpty
  if isInteger && !l.negative && n < UInt64.size then some (.unsigned (.ofNat n))
  else if isInteger && l.negative && 0 < n && Int64.minValue.toInt ≤ -(n : Int) then
    some (.signed (.ofInt (-n)))
  else l.toDouble?.map .float

end NumberLiteral

end RecordQuery.Json
