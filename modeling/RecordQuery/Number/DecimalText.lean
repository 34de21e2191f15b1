import RecordQuery.Number.Decimal
import RecordQuery.Text.Digits

namespace RecordQuery.Decimal

open RecordQuery.Text

def isTail (c : Char) : Bool := isDigit c || c == '_'

/-- Adds one unit when the digit behind the number is five or more. A number that no longer fits
gives up its last place, if it has one. -/
def roundLast (n places digit : Nat) : Option (Nat × Nat) :=
  if digit < 5 then some (n, places)
  else if n + 1 < limit then some (n + 1, places)
  else if places = 0 then none
  else some ((n + 5) / 10, places - 1)

def isWide (n : Nat) : Bool := (UInt64.size - 1) / 10 - 255 ≤ n / 10

/-- Continues a number of which `n` and `places` are read. `point` and `any` tell whether a point
and a digit have been seen. Behind the last place the next digit decides: underscores in front of it
are passed over in a wide number, and the first of them counts as a zero in any other. -/
def scan (n places : Nat) (point any : Bool) : List Char → Option (Nat × Nat)
  | [] => if any then some (n, places) else none
  | c :: cs =>
    if point && places == 28 then
      if c = '_' && isWide n then scan n places point any cs
      else if (c :: cs).all isTail then roundLast n places (if c = '_' then 0 else c.toNat - 48)
      else none
    else if isDigit c then
      let d := c.toNat - 48
      if 10 * n + d < limit then
        scan (10 * n + d) (if point then places + 1 else 0) point true cs
      else if point && cs.all isTail then roundLast n places d
      else none
    else if c = '.' && !point then scan n places true any cs
    else if c = '_' && any then scan n places point any cs
    else none

def readPlain? (cs : List Char) : Option Decimal :=
  let (negative, cs) := match cs with
    | '-' :: r => (true, r)
    | '+' :: r => (false, r)
    | r => (false, r)
  (scan 0 0 false false cs).bind fun (n, places) =>
    make? (negative && n != 0) n places

def shiftUp? (a : Decimal) (n : Nat) : Option Decimal :=
  if n ≤ a.places then make? a.negative a.magnitude (a.places - n)
  else if n ≤ 28 then make? a.negative (a.magnitude * tenTo (n - a.places)) 0
  else none

def roundOff (n k : Nat) : Nat := (2 * n + tenTo k) / (2 * tenTo k)

/-- Moves the point `n` places to the left. Digits that come to stand behind the last place are
rounded off, and a number that vanishes keeps its sign. -/
def shiftDown? (a : Decimal) (n : Nat) : Option Decimal :=
  if n ≤ 28 then
    make? a.negative (roundOff a.magnitude (a.places + n - 28)) (min (a.places + n) 28)
  else none

def readUnsigned? : List Char → Option Nat
  | '+' :: cs => readDigits? cs
  | cs => readDigits? cs

def readScientific? (cs : List Char) : Option Decimal :=
  let isMark := fun c => c == 'e' || c == 'E'
  match cs.span (!isMark ·) with
  | (base, _ :: exponent) =>
    (readPlain? base).bind fun a =>
      match exponent with
      | '-' :: ds => (readUnsigned? ds).bind a.shiftDown?
      | ds => (readUnsigned? ds).bind a.shiftUp?
  | (_, []) => none

def read? (s : String) : Option Decimal :=
  (readPlain? s.toList).or (readScientific? s.toList)

def renderChars (a : Decimal) : List Char :=
  let ds := padded (a.places + 1) a.magnitude
  let whole := ds.take (ds.length - a.places)
  let fraction := ds.drop (ds.length - a.places)
  (if a.negative then ['-'] else []) ++ whole ++
    (if a.places = 0 then [] else '.' :: fraction)

def render (a : Decimal) : String := String.ofList a.renderChars

end RecordQuery.Decimal
