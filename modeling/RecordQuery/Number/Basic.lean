import RecordQuery.Number.DoubleText
import RecordQuery.Number.DecimalText

/-!
Numbers of four kinds. Off the floating-point numbers their order is exact; those meet the others as
doubles.
-/

namespace RecordQuery

inductive Number
  | signed (i : Int64)
  | unsigned (n : UInt64)
  | float (x : Double)
  | decimal (d : Decimal)
  deriving DecidableEq

namespace Number

def isNaN : Number → Bool
  | .float x => x.isNaN
  | _ => false

def toDouble : Number → Double
  | .signed i => .ofInt i.toInt
  | .unsigned n => .ofNat n.toNat
  | .float x => x
  | .decimal d => d.toDouble

def compare : Number → Number → Option Ordering
  | .signed a, .signed b => some (Ord.compare a.toInt b.toInt)
  | .unsigned a, .unsigned b => some (Ord.compare a.toNat b.toNat)
  | .decimal a, .decimal b => some (a.compare b)
  | .signed a, .unsigned b => some (Ord.compare a.toInt b.toNat)
  | .unsigned a, .signed b => some (Ord.compare (a.toNat : Int) b.toInt)
  | .decimal a, .signed b => some (a.compare (.ofInt64 b))
  | .decimal a, .unsigned b => some (a.compare (.ofUInt64 b))
  | .signed a, .decimal b => some ((Decimal.ofInt64 a).compare b)
  | .unsigned a, .decimal b => some ((Decimal.ofUInt64 a).compare b)
  | a, b => a.toDouble.compare b.toDouble

/-- Equality within one kind: by value, so neither zeros nor decimal places tell numbers apart. -/
def equals : Number → Number → Bool
  | .signed a, .signed b => a == b
  | .unsigned a, .unsigned b => a == b
  | .float a, .float b => a.compare b == some .eq
  | .decimal a, .decimal b => a.compare b == .eq
  | _, _ => false

/-- Reads an integer: one plus sign may stand in front of a signed number; what is too large for
that is read unsigned. -/
def readInteger? (cs : List Char) : Option Number :=
  let cs := match cs with
    | '+' :: r => r
    | r => r
  (Text.readInt64? cs).map .signed |>.or ((Text.readUInt64? cs).map .unsigned)

end Number

end RecordQuery
