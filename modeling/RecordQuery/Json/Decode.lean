import RecordQuery.Json.Text
import RecordQuery.Text.Quoted

namespace RecordQuery

open Json (NumberValue)

inductive Found
  | null
  | bool (b : Bool)
  | unsigned (n : UInt64)
  | signed (i : Int64)
  | float (x : Double)
  | text (s : String)
  | sequence
  | map

def Found.describe : Found → String
  | .null => "null"
  | .bool b => "boolean `" ++ (if b then "true" else "false") ++ "`"
  | .unsigned n => "integer `" ++ Text.naturalText n.toNat ++ "`"
  | .signed i => "integer `" ++ Text.integerText i.toInt ++ "`"
  | .float x => "floating point `" ++ x.render .message ++ "`"
  | .text s => "string " ++ Text.quote s
  | .sequence => "sequence"
  | .map => "map"

inductive ShapeFault
  | wrongType (found : Found) (expected : String)
  | wrongValue (found : Found) (expected : String)
  | wrongLength (length : Nat) (expected : String)
  | missingField (name : String)
  | duplicateField (name : String)
  | unknownVariant (name : String) (known : List String)

def ShapeFault.message : ShapeFault → String
  | .wrongType found expected => "invalid type: " ++ found.describe ++ ", expected " ++ expected
  | .wrongValue found expected => "invalid value: " ++ found.describe ++ ", expected " ++ expected
  | .wrongLength n expected =>
    "invalid length " ++ Text.naturalText n ++ ", expected " ++ expected
  | .missingField name => "missing field `" ++ name ++ "`"
  | .duplicateField name => "duplicate field `" ++ name ++ "`"
  | .unknownVariant name known =>
    "unknown variant `" ++ name ++ "`, expected " ++
      " or ".intercalate (known.map fun k => "`" ++ k ++ "`")

inductive JsonFault
  | malformed
  | shape (fault : ShapeFault)

namespace Json

abbrev Reader (α : Type) := Json → Except JsonFault α

def found? : Json → Option Found
  | .broken => none
  | .null => some .null
  | .bool b => some (.bool b)
  | .number l => l.value?.map fun
    | .unsigned n => .unsigned n
    | .signed i => .signed i
    | .float x => .float x
  | .string s => s.map .text
  | .array _ => some .sequence
  | .object _ _ => some .map

def mismatch (expected : String) (j : Json) : JsonFault :=
  match j.found? with
  | some found => .shape (.wrongType found expected)
  | none => .malformed

def readText : Reader String
  | .string (some s) => .ok s
  | j => .error (j.mismatch "a string")

def readBool : Reader Bool
  | .bool b => .ok b
  | j => .error (j.mismatch "a boolean")

def readNull : Reader Unit
  | .null => .ok ()
  | j => .error (j.mismatch "unit")

def readWord : Reader UInt64
  | .number l =>
    match l.value? with
    | some (.unsigned n) => .ok n
    | some (.signed i) => .error (.shape (.wrongValue (.signed i) "usize"))
    | some (.float x) => .error (.shape (.wrongType (.float x) "usize"))
    | none => .error .malformed
  | j => .error (j.mismatch "usize")

def readOption {α : Type} (reader : Reader α) : Reader (Option α)
  | .null => .ok none
  | j => (reader j).map some

def readList {α : Type} (reader : Reader α) : Reader (List α)
  | .array items => items.mapM reader
  | j => .error (j.mismatch "a sequence")

/-- Reads the name of one of several variants. The name stands alone, or before a null as the only
member of an object. -/
def readVariant {α : Type} (variants : List (String × α)) : Reader α
  | .string (some s) => named s
  | .object ((some s, j) :: members) closed => do
    let a ← named s
    readNull j
    if members.isEmpty && closed then return a else throw .malformed
  | _ => .error .malformed
where
  named (s : String) : Except JsonFault α :=
    match variants.lookup s with
    | some a => .ok a
    | none => .error (.shape (.unknownVariant s (variants.map (·.1))))

/-- How a structure is read: its fields in order, the names each may have, and where its value goes.
Fields that are not required keep their place in `initial`. -/
structure Layout (κ σ : Type) where
  name : String
  keys : List κ
  label : κ → String
  aliases : κ → List String
  required : κ → Bool
  initial : σ
  store : κ → Json → σ → Except JsonFault σ

namespace Layout

variable {κ σ : Type} [DecidableEq κ]

def key? (l : Layout κ σ) (name : String) : Option κ :=
  l.keys.find? fun k => name == l.label k || (l.aliases k).contains name

/-- Reads members in order. A field may be given once; members of other names only have to be
JSON. -/
def readMembers (l : Layout κ σ) (seen : List κ) (s : σ) :
    List (Option String × Json) → Except JsonFault (List κ × σ)
  | [] => .ok (seen, s)
  | (none, _) :: _ => .error .malformed
  | (some name, j) :: ms =>
    match l.key? name with
    | some k =>
      if k ∈ seen then .error (.shape (.duplicateField (l.label k)))
      else do
        let s ← l.store k j s
        readMembers l (k :: seen) s ms
    | none => if j.isWhole then readMembers l seen s ms else .error .malformed

def readItems (l : Layout κ σ) (index : Nat) (s : σ) : List κ → List Json → Except JsonFault σ
  | [], [] => .ok s
  | [], _ :: _ => .error .malformed
  | k :: ks, [] =>
    if l.required k then
      .error (.shape (.wrongLength index ("struct " ++ l.name ++ " with " ++
        Text.naturalText l.keys.length ++ " elements")))
    else readItems l (index + 1) s ks []
  | k :: ks, j :: js => do
    let s ← l.store k j s
    readItems l (index + 1) s ks js

def read (l : Layout κ σ) : Reader σ
  | .object members closed => do
    let (seen, s) ← l.readMembers [] l.initial members
    unless closed do throw .malformed
    match l.keys.find? fun k => l.required k && !seen.contains k with
    | some k => throw (.shape (.missingField (l.label k)))
    | none => return s
  | .array items => l.readItems 0 l.initial l.keys items
  | j => .error (j.mismatch ("struct " ++ l.name))

end Layout

def readFrom {α : Type} (reader : Reader α) (s : String) : Except JsonFault α := do
  let document := parse s
  let a ← reader document.root
  if document.complete then return a else throw .malformed

end Json

end RecordQuery
