import RecordQuery.Text.Blank
import RecordQuery.Text.Digits

namespace RecordQuery

open Text

structure Variant where
  name : String
  value : Int64
  label : Option String
  deriving DecidableEq

/-- An enumeration. Two of them are the same only if their identities are. -/
structure EnumType where
  id : Nat
  name : String
  variants : List Variant
  deriving DecidableEq

abbrev SchemaId := Nat

inductive FieldType
  | bool
  | int
  | float
  | decimal
  | guid
  | dateTime
  | string
  | enum (e : EnumType)
  | record (schema : SchemaId)
  deriving DecidableEq

structure Field where
  name : String
  type : FieldType
  nullable : Bool
  deriving DecidableEq

structure Schema where
  name : String
  fields : List Field
  deriving DecidableEq

abbrev Catalog := SchemaId → Schema

structure RecordType where
  catalog : Catalog
  root : SchemaId

def RecordType.schema (t : RecordType) : Schema := t.catalog t.root

namespace EnumType

def variant? (e : EnumType) (value : Int64) : Option Variant :=
  e.variants.find? (·.value == value)

/-- Reads the value or the name of a member. A number must be the value of a member; a name is
looked for as it stands, then without regard to the case of ASCII letters. -/
def read? (e : EnumType) (s : String) : Option Int64 :=
  let name := trim s
  match readInt64? name.toList with
  | some n => (e.variant? n).map (·.value)
  | none =>
    ((e.variants.find? (·.name == name)).or
      (e.variants.find? (equalsIgnoringAsciiCase ·.name name))).map (·.value)

end EnumType

namespace FieldType

def name : FieldType → String
  | .bool => "bool"
  | .int => "int"
  | .float => "float"
  | .decimal => "decimal"
  | .guid => "guid"
  | .dateTime => "datetime"
  | .string => "string"
  | .enum _ => "enum"
  | .record _ => "record"

def isString (t : FieldType) : Bool := t matches .string

def isOrdered : FieldType → Bool
  | .int | .float | .decimal | .dateTime => true
  | _ => false

def isSortable (t : FieldType) : Bool := !(t matches .record _)

def enum? : FieldType → Option EnumType
  | .enum e => some e
  | _ => none

def record? : FieldType → Option SchemaId
  | .record s => some s
  | _ => none

def same : FieldType → FieldType → Bool
  | .enum a, .enum b => a.id == b.id
  | .record a, .record b => a == b
  | a, b => a.name == b.name

end FieldType

def Schema.field? (s : Schema) (name : String) : Option Field :=
  s.fields.find? (·.name == name)

end RecordQuery
