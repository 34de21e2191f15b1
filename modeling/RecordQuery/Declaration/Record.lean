import RecordQuery.Declaration.ConstantName
import RecordQuery.Declaration.Item
import RecordQuery.Schema.Basic
import RecordQuery.Value

namespace RecordQuery.Declaration

/-- The type of a field in a derived schema, where enumerations and records are still named by types
of the declaration. -/
inductive TypeTag
  | bool
  | int
  | float
  | decimal
  | guid
  | dateTime
  | string
  | enum (type : List Token)
  | record (type : List Token)
  deriving DecidableEq

structure DerivedField where
  property : String
  type : TypeTag
  nullable : Bool
  deriving DecidableEq

structure Constant where
  name : String
  property : String
  deriving DecidableEq

inductive Reading
  | converted
  | enum (nullable : Bool)
  | record (nullable : Bool)
  deriving DecidableEq

structure Accessor where
  property : String
  field : String
  reading : Reading
  deriving DecidableEq

structure DerivedRecord where
  name : String
  constants : List Constant
  fields : List DerivedField
  accessors : List Accessor
  deriving DecidableEq

namespace TypeTag

def ofKind (kind : FieldKind) (type : List Token) : TypeTag :=
  match kind with
  | .string => .string
  | .int => .int
  | .float => .float
  | .decimal => .decimal
  | .guid => .guid
  | .dateTime => .dateTime
  | .enum => .enum type
  | .bool => .bool
  | .record => .record type

end TypeTag

namespace Reading

def ofKind (kind : FieldKind) (nullable : Bool) : Reading :=
  match kind with
  | .enum => .enum nullable
  | .record => .record nullable
  | _ => .converted

end Reading

structure Contribution where
  constant : Constant
  field : DerivedField
  accessor : Accessor

def FieldItem.contribution (f : FieldItem) : Except Failure (Option Contribution) :=
  match FieldMarks.read f.attributes with
  | .error fault => .error (.reported (.attribute fault))
  | .ok marks =>
    match marks.skipped, marks.kind with
    | false, some kind =>
      let property := marks.rename.getD f.name
      let inner := f.type.optional?
      if isIdentifier (constantName property) then .ok (some {
        constant := ⟨constantName property, property⟩
        field := ⟨property, .ofKind kind (inner.getD f.type.tokens), inner.isSome⟩
        accessor := ⟨property, f.name, .ofKind kind inner.isSome⟩ })
      else .error (.unnamable property)
    | _, _ => .ok none

namespace DerivedRecord

def ofContributions (name : String) (cs : List Contribution) : DerivedRecord :=
  ⟨name, cs.map (·.constant), cs.map (·.field), cs.map (·.accessor)⟩

def ofItem (i : Item) : Except Failure DerivedRecord :=
  if i.isGeneric then .error (.reported (.generic .record))
  else match i.body with
    | .named fields => do
      return ofContributions i.name ((← fields.mapM (·.contribution)).filterMap id)
    | .tuple | .unit => .error (.reported .unnamedFields)
    | .enum _ | .union => .error (.reported .notStruct)

def accessor? (r : DerivedRecord) (property : String) : Option Accessor :=
  r.accessors.find? (·.property == property)

/-- What a property reads as, where `held` is what the fields of the struct give under each reading.
Any other name reads as null. -/
def read (r : DerivedRecord) (held : String → Reading → Value) (property : String) : Value :=
  match r.accessor? property with
  | some a => held a.field a.reading
  | none => .null

end DerivedRecord

structure TypeMeaning where
  enum : List Token → EnumType
  record : List Token → SchemaId

namespace TypeMeaning

def fieldType (m : TypeMeaning) : TypeTag → FieldType
  | .bool => .bool
  | .int => .int
  | .float => .float
  | .decimal => .decimal
  | .guid => .guid
  | .dateTime => .dateTime
  | .string => .string
  | .enum type => .enum (m.enum type)
  | .record type => .record (m.record type)

def field (m : TypeMeaning) (f : DerivedField) : Field :=
  ⟨f.property, m.fieldType f.type, f.nullable⟩

def schema (m : TypeMeaning) (r : DerivedRecord) : Schema :=
  ⟨r.name, r.fields.map m.field⟩

end TypeMeaning

end RecordQuery.Declaration
