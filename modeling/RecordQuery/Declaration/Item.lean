import RecordQuery.Declaration.Attribute
import RecordQuery.Declaration.Discriminant
import RecordQuery.Declaration.TypeExpr

namespace RecordQuery.Declaration

structure FieldItem where
  name : String
  type : TypeExpr
  attributes : List Attribute

structure VariantItem where
  name : String
  hasFields : Bool
  discriminant : Option Discriminant
  attributes : List Attribute

inductive Body
  | named (fields : List FieldItem)
  | tuple
  | unit
  | enum (variants : List VariantItem)
  | union

structure Item where
  name : String
  generics : List Token
  body : Body

def Item.isGeneric (i : Item) : Bool :=
  i.generics.any fun t => !(t == .sign '<' || t == .sign '>')

inductive Target
  | record
  | enumeration
  deriving DecidableEq

def Target.name : Target → String
  | .record => "Filterable"
  | .enumeration => "FilterEnum"

inductive Fault
  | generic (target : Target)
  | notStruct
  | unnamedFields
  | notEnum
  | variantWithFields
  | discriminant (fault : DiscriminantFault)
  | attribute (fault : AttributeFault)
  deriving DecidableEq

/-- Ends of a derivation without code: a fault that is reported, or a property whose name gives a
constant no name. -/
inductive Failure
  | reported (fault : Fault)
  | unnamable (property : String)
  deriving DecidableEq

namespace AttributeFault

def kindNames : String := "String, Int, Float, Decimal, Guid, DateTime, Enum, Bool, Record"

def message : AttributeFault → String
  | .argumentsMissing => "expected attribute arguments in parentheses: #[filter(...)]"
  | .reservedWord word => "expected identifier, found keyword `" ++ word ++ "`"
  | .wordMissing => "expected path segment after `::`"
  | .unknownKind name =>
    "unknown filter kind: '" ++ name ++ "'. Expected one of: " ++ kindNames
  | .kindMissing => "expected filter kind (" ++ kindNames ++ ") or skip"
  | .textMissing setting => setting ++ " must be a string literal"
  | .unknownFieldSetting => "unknown attribute. Expected: rename or ty"
  | .unknownFieldArgument =>
    "unknown filter attribute. Expected: " ++ kindNames
      ++ ", skip, rename = \"...\", or ty = \"...\""
  | .unknownVariantArgument =>
    "unknown variant attribute. Expected: label = \"...\" or rename = \"...\""

end AttributeFault

namespace DiscriminantFault

def message : DiscriminantFault → String
  | .tooLarge => "number too large to fit in target type"
  | .notWhole => "FilterEnum discriminants must be integer literals"

end DiscriminantFault

namespace Fault

def message : Fault → String
  | .generic target => target.name ++ " cannot be derived for generic types"
  | .notStruct => "Filterable can only be derived for structs"
  | .unnamedFields => "Filterable can only be derived for structs with named fields"
  | .notEnum => "FilterEnum can only be derived for enums"
  | .variantWithFields => "FilterEnum variants cannot have fields"
  | .discriminant fault => fault.message
  | .attribute fault => fault.message

end Fault

end RecordQuery.Declaration
