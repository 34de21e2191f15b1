import RecordQuery.Declaration.Enumeration
import RecordQuery.Declaration.Record
import RecordQuery.Text.Digits
import RecordQuery.Text.Quoted

namespace RecordQuery.Declaration

open Text

structure Arm where
  pattern : String
  body : String
  deriving DecidableEq

def typeCode (type : List Token) : String := Token.render (lifetimesFirst type)

namespace TypeTag

def code : TypeTag → String
  | .bool => "TypeTag::Bool"
  | .int => "TypeTag::Int"
  | .float => "TypeTag::Float"
  | .decimal => "TypeTag::Decimal"
  | .guid => "TypeTag::Guid"
  | .dateTime => "TypeTag::DateTime"
  | .string => "TypeTag::String"
  | .enum type => "TypeTag::Enum(<" ++ typeCode type ++ " as FilterEnum>::descriptor)"
  | .record type => "TypeTag::Record(<" ++ typeCode type ++ " as Filterable>::schema)"

end TypeTag

namespace Accessor

def body (a : Accessor) : String :=
  let place := "&self." ++ a.field
  match a.reading with
  | .converted => "IntoValue::to_value(" ++ place ++ ")"
  | .enum false => "Value::Enum(FilterEnum::discriminant(" ++ place ++ "))"
  | .enum true =>
    "match " ++ place
      ++ " \x7b Option::Some(v) => \x7b Value::Enum(FilterEnum::discriminant(v)) \x7d"
      ++ " Option::None => Value::None, \x7d"
  | .record false => "Value::Record(" ++ place ++ ")"
  | .record true =>
    "match " ++ place
      ++ " \x7b Option::Some(v) => Value::Record(v), Option::None => Value::None, \x7d"

def arm (a : Accessor) : Arm := ⟨literal a.property, a.body⟩

end Accessor

def DerivedRecord.arms (r : DerivedRecord) : List Arm :=
  r.accessors.map (·.arm) ++ [⟨"_", "Value::None"⟩]

def DerivedEnum.arms (e : DerivedEnum) : List Arm :=
  e.values.map fun v => ⟨e.name ++ "::" ++ v.variant, integerText v.value.toInt ++ "i64"⟩

end RecordQuery.Declaration
