import RecordQuery.Schema.Basic

namespace RecordQuery

inductive PropertyError
  | unknown (path record : String)
  | notSortable (path type : String)
  deriving DecidableEq

def PropertyError.message : PropertyError → String
  | .unknown path record => "unknown property '" ++ path ++ "' on " ++ record
  | .notSortable path type =>
    "property '" ++ path ++ "' of type " ++ type ++ " cannot be used as a sort key"

structure Property where
  path : List String
  type : FieldType
  /-- Whether the field or a record on the way to it is nullable. -/
  nullable : Bool
  deriving DecidableEq

def joinPath (names : List String) : String := ".".intercalate names

def splitPath (path : String) : List String :=
  (path.toList.splitOn '.').map String.ofList

def Property.dotted (p : Property) : String := joinPath p.path

def Catalog.find? (catalog : Catalog) (schema : Schema) : List String → Option Property
  | [] => none
  | [name] => (schema.field? name).map fun f => ⟨[f.name], f.type, f.nullable⟩
  | name :: names =>
    (schema.field? name).bind fun f =>
      f.type.record?.bind fun next =>
        (catalog.find? (catalog next) names).map fun p =>
          ⟨f.name :: p.path, p.type, f.nullable || p.nullable⟩

def RecordType.property (t : RecordType) (path : String) : Except PropertyError Property :=
  match t.catalog.find? t.schema (splitPath path) with
  | some p => .ok p
  | none => .error (.unknown path t.schema.name)

end RecordQuery
