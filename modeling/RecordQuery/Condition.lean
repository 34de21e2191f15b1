import RecordQuery.Coercion
import RecordQuery.Labels
import RecordQuery.Predicate
import RecordQuery.Schema.Path

namespace RecordQuery

open Text

inductive Skip
  | unknownProperty (path : String)
  | unknownOperator (tag : String)
  | missingValue
  | missingSecondValue
  | coercion (cause : CoercionError)
  | notApplicable (op type : String)
  deriving DecidableEq

def Skip.message : Skip → String
  | .unknownProperty path => "unknown property '" ++ path ++ "'"
  | .unknownOperator tag => "unknown operator '" ++ tag ++ "'"
  | .missingValue => "operator requires a value"
  | .missingSecondValue => "range operator requires a second value"
  | .coercion cause => "value rejected: " ++ cause.message
  | .notApplicable op type => "operator '" ++ op ++ "' does not apply to " ++ type ++ " properties"

inductive Logic
  | and
  | or
  deriving DecidableEq

def Logic.read (s : Option String) : Logic :=
  if s.any fun s => equalsIgnoringAsciiCase (trim s) "or" then .or else .and

structure Condition where
  property : String
  operation : String
  value : Option String
  value2 : Option String
  logic : Option String
  deriving DecidableEq

def Condition.groupLogic (c : Condition) : Logic := .read c.logic

structure ConditionSettings where
  labels : Labels
  textMatch : TextMatch

def required (s : Option String) (missing : Skip) : Except Skip String :=
  match s with
  | some s => if s = "" then .error missing else .ok s
  | none => .error missing

def coerceOrSkip (s : String) (type : FieldType) : Except Skip Scalar :=
  (coerce s type).mapError .coercion

/-- Equality with a point in time looks at the date alone. -/
def equalityTest (op : Operator) : Scalar → Test
  | .dateTime t => .compareDate op t.date
  | s => .compare op s

namespace Property

def clause (p : Property) (test : Test) : Predicate := .clause p.path test

def labelPredicate (p : Property) (e : EnumType) (labels : Labels) (needle : String) : Predicate :=
  match (e.search labels needle).map fun v => p.clause (.compare .eq (.member v)) with
  | [] => .never
  | [q] => q
  | qs => .any qs

def nullPredicate (p : Property) (op : Operator) : Predicate :=
  let q := p.clause (if p.type.isString then .nullOrEmpty else .null)
  if op = .isNotEmpty then .not q else q

def textPredicate (p : Property) (op : Operator) (needle : String) (mode : TextMatch) : Predicate :=
  let test := fun o => p.clause (.text o (mode.prepare needle) mode)
  match op with
  | .contains => test .contains
  | .startsWith => test .startsWith
  | .endsWith => test .endsWith
  | _ => .any [p.clause .null, .not (test .contains)]

def rangePredicate (p : Property) (op : Operator) (low high : Scalar) : Predicate :=
  let q := Predicate.all [p.clause (.compare .gte low), p.clause (.compare .lte high)]
  if op = .notBetween then .not q else q

def comparison (p : Property) (op : Operator) (low : Scalar) (value2 : Option String) :
    Except Skip Predicate :=
  match op with
  | .eq => .ok (p.clause (equalityTest .eq low))
  | .ne => .ok (.any [p.clause (equalityTest .ne low), p.clause .null])
  | .between | .notBetween => do
    let s ← required value2 .missingSecondValue
    let high ← coerceOrSkip s p.type
    return p.rangePredicate op low high
  | _ => .ok (p.clause (.compare op low))

def predicateFor (p : Property) (op : Operator) (value : String) (value2 : Option String)
    (settings : ConditionSettings) : Except Skip Predicate :=
  match p.type.enum?, op with
  | some e, .contains | some e, .eq => .ok (p.labelPredicate e settings.labels value)
  | _, _ =>
    if op.isTextual then
      if p.type.isString then .ok (p.textPredicate op value settings.textMatch)
      else .error (.notApplicable op.tag p.type.name)
    else if op.isOrdering && !p.type.isOrdered then .error (.notApplicable op.tag p.type.name)
    else do
      let low ← coerceOrSkip value p.type
      p.comparison op low value2

def build (p : Property) (op : Operator) (value value2 : Option String)
    (settings : ConditionSettings) : Except Skip Predicate :=
  if op.isNullCheck then .ok (p.nullPredicate op)
  else do
    let s ← required value .missingValue
    p.predicateFor op s value2 settings

end Property

def Condition.compile (c : Condition) (type : RecordType) (settings : ConditionSettings) :
    Except Skip Predicate := do
  let p ← (type.property c.property).mapError fun _ => .unknownProperty c.property
  let op ← match Operator.read? c.operation with
    | some op => .ok op
    | none => .error (.unknownOperator c.operation)
  p.build op c.value c.value2 settings

end RecordQuery
