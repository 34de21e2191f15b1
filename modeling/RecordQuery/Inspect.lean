import RecordQuery.Settings
import RecordQuery.Text.Quoted

namespace RecordQuery

namespace Inspect

def list (items : List String) : String := "[" ++ ", ".intercalate items ++ "]"

def call (name : String) (arguments : List String) : String :=
  name ++ "(" ++ ", ".intercalate arguments ++ ")"

def parts (name : String) (fields : List (String × String)) : String :=
  name ++ " \x7b " ++ ", ".intercalate (fields.map fun (k, v) => k ++ ": " ++ v) ++ " \x7d"

def truth (b : Bool) : String := if b then "true" else "false"

def word : Option UInt64 → String
  | some n => call "Some" [Text.naturalText n.toNat]
  | none => "None"

def path (names : List String) : String := list (names.map Text.quote)

end Inspect

open Inspect Text

def Number.inspect : Number → String
  | .signed i => call "I64" [integerText i.toInt]
  | .unsigned n => call "U64" [naturalText n.toNat]
  | .float x => call "F64" [x.render .inspection]
  | .decimal d => call "Decimal" [d.render]

def Scalar.inspect : Scalar → String
  | .text s => call "String" [quote s]
  | .number n => call "Number" [n.inspect]
  | .guid g => call "Guid" [g.render]
  | .dateTime t => call "DateTime" [t.render]
  | .member v => call "Enum" [integerText v.toInt]
  | .flag b => call "Bool" [truth b]

def Value.inspect : Value → String
  | .null => "None"
  | .scalar s => s.inspect
  | .record _ => "Record"

def Operator.inspect : Operator → String
  | .contains => "Contains"
  | .notContains => "NotContains"
  | .startsWith => "StartsWith"
  | .endsWith => "EndsWith"
  | .eq => "Eq"
  | .ne => "Ne"
  | .gt => "Gt"
  | .gte => "Gte"
  | .lt => "Lt"
  | .lte => "Lte"
  | .between => "Between"
  | .notBetween => "NotBetween"
  | .isEmpty => "IsEmpty"
  | .isNotEmpty => "IsNotEmpty"

def TextOperator.inspect : TextOperator → String
  | .contains => "Contains"
  | .startsWith => "StartsWith"
  | .endsWith => "EndsWith"

def TextMatch.inspect : TextMatch → String
  | .caseInsensitive => "CaseInsensitive"
  | .caseSensitive => "CaseSensitive"

def Test.inspect : Test → String
  | .null => "Null"
  | .nullOrEmpty => "NullOrEmpty"
  | .compare op value => call "Compare" [op.inspect, value.inspect]
  | .compareDate op date => call "CompareDate" [op.inspect, date.render]
  | .text op needle mode =>
    parts "Text" [("op", op.inspect), ("needle", quote needle), ("mode", mode.inspect)]

namespace Predicate

mutual

def inspect : Predicate → String
  | .always => "True"
  | .never => "False"
  | .clause path test =>
    call "Clause" [parts "Clause" [("path", Inspect.path path), ("test", test.inspect)]]
  | .all ps => call "And" [list (inspectAll ps)]
  | .any ps => call "Or" [list (inspectAll ps)]
  | .not p => call "Not" [p.inspect]

def inspectAll : List Predicate → List String
  | [] => []
  | p :: ps => p.inspect :: inspectAll ps

end

end Predicate

def CoercionError.inspect : CoercionError → String
  | .empty => "Empty"
  | .invalid value expected =>
    parts "Invalid" [("value", quote value), ("expected", quote expected)]
  | .notCoercible type => parts "NotCoercible" [("ty", quote type)]

def Skip.inspect : Skip → String
  | .unknownProperty path => call "UnknownProperty" [quote path]
  | .unknownOperator tag => call "UnknownOperator" [quote tag]
  | .missingValue => "MissingValue"
  | .missingSecondValue => "MissingSecondValue"
  | .coercion cause => call "Coercion" [cause.inspect]
  | .notApplicable op type => parts "NotApplicable" [("op", quote op), ("ty", quote type)]

def SkippedCondition.inspect (s : SkippedCondition) : String :=
  parts "SkippedCondition" [("index", naturalText s.index), ("property_name", quote s.property),
    ("reason", s.reason.inspect)]

def Filter.inspect (f : Filter) : String :=
  parts "CompiledFilter" [("predicate", f.predicate.inspect),
    ("skipped", list (f.skipped.map (·.inspect)))]

def FieldType.inspect (catalog : Catalog) : FieldType → String
  | .enum e => call "Enum" [e.name]
  | .record s => call "Record" [(catalog s).name]
  | t => t.name

def Direction.inspect : Direction → String
  | .ascending => "Asc"
  | .descending => "Desc"

def SortKey.inspect (catalog : Catalog) (k : SortKey) : String :=
  parts "OrderKey" [("path", Inspect.path k.path), ("dir", k.direction.inspect),
    ("nulls_last", truth k.nullsLast), ("ty", k.type.inspect catalog)]

def Order.inspect (catalog : Catalog) (o : Order) : String :=
  parts "CompiledOrder" [("keys", list (o.keys.map (·.inspect catalog))),
    ("collation", o.collation.name)]

def Query.inspect (catalog : Catalog) (q : Query) : String :=
  parts "Query" [("filter", q.filter.inspect), ("order", q.order.inspect catalog),
    ("limit", word q.limit), ("offset", word q.offset)]

def Settings.inspect (s : Settings) : String :=
  "Compiler \x7b collation: " ++ s.collation.name ++ ", text_match: " ++ s.textMatch.inspect ++
    ", .. \x7d"

end RecordQuery
