import RecordQuery.Text.Blank
import RecordQuery.Text.Ascii

namespace RecordQuery

open Text

inductive Operator
  | contains
  | notContains
  | startsWith
  | endsWith
  | eq
  | ne
  | gt
  | gte
  | lt
  | lte
  | between
  | notBetween
  | isEmpty
  | isNotEmpty
  deriving DecidableEq

namespace Operator

def tag : Operator → String
  | .contains => "contains"
  | .notContains => "notcontains"
  | .startsWith => "startswith"
  | .endsWith => "endswith"
  | .eq => "eq"
  | .ne => "neq"
  | .gt => "gt"
  | .gte => "gte"
  | .lt => "lt"
  | .lte => "lte"
  | .between => "between"
  | .notBetween => "notbetween"
  | .isEmpty => "isempty"
  | .isNotEmpty => "isnotempty"

def ofTag? : String → Option Operator
  | "contains" => some .contains
  | "notcontains" => some .notContains
  | "startswith" => some .startsWith
  | "endswith" => some .endsWith
  | "eq" | "equals" => some .eq
  | "neq" | "notequals" => some .ne
  | "gt" | "after" => some .gt
  | "gte" => some .gte
  | "lt" | "before" => some .lt
  | "lte" => some .lte
  | "between" => some .between
  | "notbetween" => some .notBetween
  | "isempty" => some .isEmpty
  | "isnotempty" => some .isNotEmpty
  | _ => none

def read? (s : String) : Option Operator := ofTag? (lowerAsciiString (trim s))

@[simp] theorem ofTag?_tag (op : Operator) : ofTag? op.tag = some op := by cases op <;> rfl

def isTextual : Operator → Bool
  | .contains | .notContains | .startsWith | .endsWith => true
  | _ => false

def isOrdering : Operator → Bool
  | .gt | .gte | .lt | .lte | .between | .notBetween => true
  | _ => false

def isRange : Operator → Bool
  | .between | .notBetween => true
  | _ => false

def isNullCheck : Operator → Bool
  | .isEmpty | .isNotEmpty => true
  | _ => false

def holds : Operator → Ordering → Bool
  | .eq, o => o == .eq
  | .ne, o => o != .eq
  | .gt, o => o == .gt
  | .gte, o => o != .lt
  | .lt, o => o == .lt
  | .lte, o => o != .gt
  | _, _ => false

end Operator

end RecordQuery
