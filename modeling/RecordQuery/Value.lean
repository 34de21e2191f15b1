import RecordQuery.Number.Basic
import RecordQuery.Calendar.Text
import RecordQuery.Guid

namespace RecordQuery

/-- A value without fields of its own. An enumeration's member is its stored value. -/
inductive Scalar
  | text (s : String)
  | number (n : Number)
  | guid (g : Guid)
  | dateTime (t : DateTime)
  | member (value : Int64)
  | flag (b : Bool)
  deriving DecidableEq

inductive Value
  | null
  | scalar (s : Scalar)
  | record (fields : List (String × Value))

abbrev Record := List (String × Value)

def Record.get (r : Record) (name : String) : Value := (r.lookup name).getD .null

def Record.read (r : Record) : List String → Value
  | [] => .null
  | [name] => r.get name
  | name :: names =>
    match r.get name with
    | .record inner => Record.read inner names
    | _ => .null

namespace Scalar

def compareBy (texts : String → String → Ordering) : Scalar → Scalar → Option Ordering
  | .text a, .text b => some (texts a b)
  | .number a, .number b => a.compare b
  | .guid a, .guid b => some (a.compare b)
  | .dateTime a, .dateTime b => some (a.compare b)
  | .member a, .member b => some (Ord.compare a.toInt b.toInt)
  | .flag a, .flag b => some (Ord.compare a.toNat b.toNat)
  | _, _ => none

def compare (a b : Scalar) : Option Ordering := a.compareBy Ord.compare b

def equals : Scalar → Scalar → Bool
  | .number a, .number b => a.equals b
  | a, b => a == b

end Scalar

namespace Value

def isNull : Value → Bool
  | .null => true
  | _ => false

def isNaN : Value → Bool
  | .scalar (.number n) => n.isNaN
  | _ => false

def text? : Value → Option String
  | .scalar (.text s) => some s
  | _ => none

def number? : Value → Option Number
  | .scalar (.number n) => some n
  | _ => none

def dateTime? : Value → Option DateTime
  | .scalar (.dateTime t) => some t
  | _ => none

def member? : Value → Option Int64
  | .scalar (.member v) => some v
  | _ => none

def record? : Value → Option Record
  | .record r => some r
  | _ => none

def compareBy (texts : String → String → Ordering) : Value → Value → Option Ordering
  | .scalar a, .scalar b => a.compareBy texts b
  | _, _ => none

/-- Equality of values read from two fields. A record equals itself alone. -/
def equals : Value → Value → Bool
  | .null, .null => true
  | .scalar a, .scalar b => a.equals b
  | _, _ => false

/-- Whether two reads of one field agree: they do but for what is not a number. -/
def equalsItself (v : Value) : Bool := !v.isNaN

end Value

end RecordQuery
