import RecordQuery.Number.Double
import RecordQuery.Text.Digits

namespace RecordQuery.Double

open RecordQuery.Text

structure Literal where
  digits : List Char
  exponent : Int

def splitSign : List Char → Bool × List Char
  | '-' :: cs => (true, cs)
  | '+' :: cs => (false, cs)
  | cs => (false, cs)

def readExponent? : List Char → Option Int
  | [] => some 0
  | c :: cs =>
    if c = 'e' ∨ c = 'E' then
      let (negative, ds) := splitSign cs
      (readDigits? ds).map fun n => if negative then -n else n
    else none

def readLiteral? (cs : List Char) : Option Literal :=
  let (whole, rest) := spanDigits cs
  let (fraction, rest) := match rest with
    | '.' :: r => spanDigits r
    | _ => ([], rest)
  if whole.isEmpty && fraction.isEmpty then none
  else (readExponent? rest).map fun e => ⟨whole ++ fraction, e - fraction.length⟩

/-- The code of the magnitude nearest to the literal. Literals far outside the format's range are
settled by their number of digits alone. -/
def Literal.encode (f : FloatFormat) (l : Literal) : Nat :=
  let n := digitsValue l.digits
  let size : Int := (Text.digits n).length + l.exponent
  if n = 0 then 0
  else if 400 < size then f.infinity
  else if size < -400 then 0
  else f.encode (n * tenTo l.exponent.toNat) (tenTo (-l.exponent).toNat)

def readWord? (cs : List Char) : Option Nat :=
  match String.ofList (cs.map lowerAscii) with
  | "inf" => some binary64.infinity
  | "infinity" => some binary64.infinity
  | "nan" => some nan.code
  | _ => none

def read? (s : String) : Option Double :=
  let (negative, cs) := splitSign s.toList
  ((readWord? cs).or ((readLiteral? cs).map (·.encode binary64))).map (ofCode negative)

def widen (negative : Bool) (code : Nat) : Double :=
  if code < binary32.infinity then ofRatio negative (binary32.units code) (twoTo binary32.unit)
  else infinity negative

def readSingle? (s : String) : Option Double :=
  let (negative, cs) := splitSign s.toList
  ((readWord? cs).map (ofCode negative)).or
    ((readLiteral? cs).map fun l => widen negative (l.encode binary32))

/-- Decimal digits, the first of them not zero, with the place of the point: the value is
`0.digits · 10 ^ point`. -/
structure Shortest where
  digits : List Char
  point : Int

/-- The greatest `k` with `10 ^ k ≤ n / d`, for `n / d` not below `10 ^ (-400)`. -/
def decimalExponent (n d : Nat) : Int :=
  ((digits (n * tenTo 400 / d)).length : Int) - 401

/-- The reals that round to one magnitude, in quarters of the smallest unit. -/
structure Interval where
  low : Nat
  mid : Nat
  high : Nat
  closed : Bool

def interval (code : Nat) : Interval :=
  let (m, e) := binary64.split code
  let gap := twoTo e
  let below := if m = twoTo (binary64.precision - 1) ∧ 0 < e then gap else 2 * gap
  ⟨4 * m * gap - below, 4 * m * gap, 4 * m * gap + 2 * gap, m % 2 = 0⟩

def Interval.holds (i : Interval) (c : Nat) (p : Int) : Bool :=
  let x := c * tenTo p.toNat * (4 * one)
  let s := tenTo (-p).toNat
  if i.closed then i.low * s ≤ x && x ≤ i.high * s else i.low * s < x && x < i.high * s

/-- The neighbours of the value among the multiples of `10 ^ p` that lie in the interval; of two the
nearer, a tie going up or to the even one. -/
def Interval.pick? (i : Interval) (tieUp : Bool) (p : Int) : Option Nat :=
  let n := i.mid * tenTo (-p).toNat
  let d := 4 * one * tenTo p.toNat
  let q := n / d
  let twice := 2 * (n % d)
  match i.holds q p, i.holds (q + 1) p with
  | true, true =>
    some (if twice < d then q else if d < twice then q + 1
      else if tieUp then q + 1 else q + q % 2)
  | true, false => some q
  | false, true => some (q + 1)
  | false, false => none

def dropZeros (cs : List Char) : List Char := (cs.reverse.dropWhile (· == '0')).reverse

def shortest (tieUp : Bool) (code : Nat) : Shortest :=
  let i := interval code
  let k := decimalExponent i.mid (4 * one)
  let grid := (List.range 17).findSome? fun (j : Nat) =>
    (i.pick? tieUp (k - j)).map (·, k - (j : Int))
  match grid with
  | some (c, p) =>
    let ds := digits c
    ⟨dropZeros ds, p + ds.length⟩
  | none => ⟨['0'], 1⟩

/-- How a number is laid out: the decimal exponents written positionally, whether a positive
exponent has its sign, and which way ties go. -/
structure Style where
  least : Int
  greatest : Int
  signed : Bool
  tieUp : Bool

def Style.inspection : Style := ⟨-4, 15, false, true⟩

def Style.message : Style := ⟨-5, 15, true, false⟩

def Shortest.positional (s : Shortest) : List Char :=
  if s.point ≤ 0 then
    ['0', '.'] ++ List.replicate (-s.point).toNat '0' ++ s.digits
  else
    let n := s.point.toNat
    if s.digits.length ≤ n then
      s.digits ++ List.replicate (n - s.digits.length) '0' ++ ['.', '0']
    else s.digits.take n ++ '.' :: s.digits.drop n

def Shortest.scientific (s : Shortest) (style : Style) : List Char :=
  let e := s.point - 1
  let sign := if e < 0 then ['-'] else if style.signed then ['+'] else []
  let significand := match s.digits with
    | [d] => [d]
    | d :: ds => d :: '.' :: ds
    | [] => []
  significand ++ 'e' :: sign ++ Text.digits e.natAbs

def render (style : Style) (x : Double) : String :=
  let sign := if x.isNegative && !x.isNaN then ['-'] else []
  let body :=
    if x.isNaN then "NaN".toList
    else if !x.isFinite then "inf".toList
    else if x.isZero then "0.0".toList
    else
      let s := shortest style.tieUp x.code
      if style.least ≤ s.point - 1 ∧ s.point - 1 ≤ style.greatest then s.positional
      else s.scientific style
  String.ofList (sign ++ body)

def hex (x : Double) : String :=
  let ds := Nat.toDigits 16 x.bits.toNat
  String.ofList (List.replicate (16 - ds.length) '0' ++ ds)

end RecordQuery.Double
