import RecordQuery.Schema.Basic
import RecordQuery.Value

namespace RecordQuery

open Text

inductive CoercionError
  | empty
  | invalid (value expected : String)
  | notCoercible (type : String)
  deriving DecidableEq

def CoercionError.message : CoercionError → String
  | .empty => "value is empty"
  | .invalid value expected => "'" ++ value ++ "' is not a valid " ++ expected ++ " value"
  | .notCoercible type => type ++ " values cannot be compared to text"

def readFlag? (s : String) : Option Bool :=
  if equalsIgnoringAsciiCase s "true" then some true
  else if equalsIgnoringAsciiCase s "false" then some false
  else none

def readFinite? (s : String) : Option Double := (Double.read? s).filter (·.isFinite)

def FieldType.read? (s : String) : FieldType → Option Scalar
  | .bool => (readFlag? s).map .flag
  | .int => (Number.readInteger? s.toList).map .number
  | .float => (readFinite? s).map fun x => .number (.float x)
  | .decimal => (Decimal.read? s).map fun d => .number (.decimal d)
  | .guid => (Guid.read? s).map .guid
  | .dateTime => (DateTime.read? s).map .dateTime
  | .enum e => (e.read? s).map .member
  | .string | .record _ => none

def coerce (raw : String) (type : FieldType) : Except CoercionError Scalar :=
  match type with
  | .string => .ok (.text raw)
  | _ =>
    if trim raw = "" then .error .empty
    else match type with
      | .record _ => .error (.notCoercible type.name)
      | _ =>
        match type.read? (trim raw) with
        | some s => .ok s
        | none => .error (.invalid raw type.name)

end RecordQuery
