import RecordQuery.Operator
import RecordQuery.Value
import RecordQuery.Text.Case
import RecordQuery.Text.Search

namespace RecordQuery

inductive TextMatch
  | caseInsensitive
  | caseSensitive
  deriving DecidableEq

def TextMatch.prepare : TextMatch → String → String
  | .caseInsensitive, s => Text.lower s
  | .caseSensitive, s => s

inductive TextOperator
  | contains
  | startsWith
  | endsWith
  deriving DecidableEq

def TextOperator.holds : TextOperator → String → String → Bool
  | .contains => Text.contains
  | .startsWith => Text.startsWith
  | .endsWith => Text.endsWith

/-- What a value is tested for. The needle of a text test is in prepared form. -/
inductive Test
  | null
  | nullOrEmpty
  | compare (op : Operator) (value : Scalar)
  | compareDate (op : Operator) (date : Date)
  | text (op : TextOperator) (needle : String) (mode : TextMatch)
  deriving DecidableEq

def Scalar.satisfies (expected : Scalar) (op : Operator) : Value → Bool
  | .scalar s => (s.compare expected).any op.holds
  | _ => false

def Test.holds : Test → Value → Bool
  | .null, v => v.isNull
  | .nullOrEmpty, v => v.isNull || v.text? == some ""
  | .compare op expected, v => expected.satisfies op v
  | .compareDate op date, .scalar (.dateTime t) => op.holds (t.date.compare date)
  | .text op needle mode, .scalar (.text s) => op.holds (mode.prepare s) needle
  | _, _ => false

inductive Predicate
  | always
  | never
  | clause (path : List String) (test : Test)
  | all (children : List Predicate)
  | any (children : List Predicate)
  | not (inner : Predicate)

namespace Predicate

mutual

def holds (r : Record) : Predicate → Bool
  | .always => true
  | .never => false
  | .clause path test => test.holds (r.read path)
  | .all ps => holdAll r ps
  | .any ps => holdAny r ps
  | .not p => !p.holds r

def holdAll (r : Record) : List Predicate → Bool
  | [] => true
  | p :: ps => p.holds r && holdAll r ps

def holdAny (r : Record) : List Predicate → Bool
  | [] => false
  | p :: ps => p.holds r || holdAny r ps

end

@[simp] theorem holdAll_eq (r : Record) (ps : List Predicate) :
    holdAll r ps = ps.all (·.holds r) := by
  induction ps with
  | nil => simp [holdAll]
  | cons p ps ih => simp [holdAll, ih]

@[simp] theorem holdAny_eq (r : Record) (ps : List Predicate) :
    holdAny r ps = ps.any (·.holds r) := by
  induction ps with
  | nil => simp [holdAny]
  | cons p ps ih => simp [holdAny, ih]

mutual

def clauseCount : Predicate → Nat
  | .always | .never => 0
  | .clause _ _ => 1
  | .all ps | .any ps => clauseCountAll ps
  | .not p => p.clauseCount

def clauseCountAll : List Predicate → Nat
  | [] => 0
  | p :: ps => p.clauseCount + clauseCountAll ps

end

@[simp] theorem clauseCountAll_eq (ps : List Predicate) :
    clauseCountAll ps = (ps.map clauseCount).foldr (· + ·) 0 := by
  induction ps with
  | nil => simp [clauseCountAll]
  | cons p ps ih => simp [clauseCountAll, ih]

def isAlways (p : Predicate) : Bool := p matches .always

end Predicate

end RecordQuery
