import RecordQuery.Condition

/-!
Filters: conditions grouped by property, in the order in which the properties first appear. A group
is joined by the logic of its first condition, and a record has to satisfy every group. Conditions
without a predicate are listed beside it.
-/

namespace RecordQuery

structure SkippedCondition where
  index : Nat
  property : String
  reason : Skip
  deriving DecidableEq

structure Filter where
  predicate : Predicate
  skipped : List SkippedCondition

def Logic.combine? (logic : Logic) : List Predicate → Option Predicate
  | [] => none
  | [p] => some p
  | ps => some (match logic with
    | .and => .all ps
    | .or => .any ps)

/-- The conditions on one property, as far as they have been read: the logic is that of the first of
them, even if it has no predicate. -/
structure ConditionGroup where
  property : String
  logic : Logic
  predicates : List Predicate

namespace ConditionGroup

def opened (c : Condition) : ConditionGroup := ⟨c.property, c.groupLogic, []⟩

def push (g : ConditionGroup) (p : Option Predicate) : ConditionGroup :=
  { g with predicates := g.predicates ++ p.toList }

def predicate? (g : ConditionGroup) : Option Predicate := g.logic.combine? g.predicates

/-- Takes a condition, with its predicate if it has one, into the group of its property. A group
that is not there yet is opened behind the others. -/
def add (c : Condition) (p : Option Predicate) : List ConditionGroup → List ConditionGroup
  | [] => [(opened c).push p]
  | g :: gs => if g.property = c.property then g.push p :: gs else g :: add c p gs

end ConditionGroup

namespace Filter

def ofPredicate (p : Predicate) : Filter := ⟨p, []⟩

def always : Filter := ofPredicate .always

def holds (f : Filter) (r : Record) : Bool := f.predicate.holds r

structure Progress where
  groups : List ConditionGroup
  skipped : List SkippedCondition

namespace Progress

def start : Progress := ⟨[], []⟩

def step (compile : Condition → Except Skip Predicate) (s : Progress) : Condition × Nat → Progress
  | (c, i) =>
    match compile c with
    | .ok p => { s with groups := ConditionGroup.add c (some p) s.groups }
    | .error reason => ⟨ConditionGroup.add c none s.groups, s.skipped ++ [⟨i, c.property, reason⟩]⟩

def filter (s : Progress) : Filter :=
  ⟨(Logic.and.combine? (s.groups.filterMap (·.predicate?))).getD .always, s.skipped⟩

end Progress

def compile (type : RecordType) (settings : ConditionSettings) (conditions : List Condition) :
    Filter :=
  (conditions.zipIdx.foldl (Progress.step (·.compile type settings)) .start).filter

end Filter

end RecordQuery
