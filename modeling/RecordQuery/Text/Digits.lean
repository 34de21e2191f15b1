import RecordQuery.Text.Ascii

namespace RecordQuery.Text

def digits (n : Nat) : List Char := Nat.toDigits 10 n

def digitsValue (cs : List Char) : Nat := Nat.ofDigitChars 10 cs 0

@[simp] theorem digitsValue_digits (n : Nat) : digitsValue (digits n) = n :=
  Nat.ofDigitChars_toDigits (by decide) (by decide)

def readDigits? (cs : List Char) : Option Nat :=
  if !cs.isEmpty && cs.all isDigit then some (digitsValue cs) else none

def readInt? : List Char → Option Int
  | '-' :: cs => (readDigits? cs).map fun n => -(n : Int)
  | '+' :: cs => (readDigits? cs).map Int.ofNat
  | cs => (readDigits? cs).map Int.ofNat

def readInt64? (cs : List Char) : Option Int64 :=
  (readInt? cs).bind fun i =>
    if Int64.minValue.toInt ≤ i ∧ i ≤ Int64.maxValue.toInt then some (.ofInt i) else none

def readUInt64? (cs : List Char) : Option UInt64 :=
  let ds := match cs with
    | '+' :: r => r
    | r => r
  (readDigits? ds).bind fun n => if n < UInt64.size then some (.ofNat n) else none

def padded (width n : Nat) : List Char :=
  let ds := digits n
  List.replicate (width - ds.length) '0' ++ ds

def integerText (i : Int) : String :=
  String.ofList (if i < 0 then '-' :: digits i.natAbs else digits i.natAbs)

def naturalText (n : Nat) : String := String.ofList (digits n)

end RecordQuery.Text
