import RecordQuery.Proofs.Condition.Operators
import RecordQuery.Proofs.Text.LowerCase

namespace RecordQuery

open Text

namespace TextOperator

def operator : TextOperator → Operator
  | .contains => .contains
  | .startsWith => .startsWith
  | .endsWith => .endsWith

/-- A needle that is open to a side on which the operator lets the text go on. -/
inductive Exposes : TextOperator → List Char → Prop
  | right {o needle} : o ≠ .endsWith → EndsOpen needle → Exposes o needle
  | left {o needle} : o ≠ .startsWith → BeginsOpen needle → Exposes o needle

theorem exposes_iff {o : TextOperator} {needle : List Char} :
    o.Exposes needle ↔
      (o ≠ .endsWith ∧ EndsOpen needle) ∨ (o ≠ .startsWith ∧ BeginsOpen needle) := by
  constructor
  · rintro (⟨other, isOpen⟩ | ⟨other, isOpen⟩)
    · exact .inl ⟨other, isOpen⟩
    · exact .inr ⟨other, isOpen⟩
  · rintro (⟨other, isOpen⟩ | ⟨other, isOpen⟩)
    · exact .right other isOpen
    · exact .left other isOpen

instance (o : TextOperator) : DecidablePred o.Exposes := fun _ =>
  decidable_of_iff _ exposes_iff.symm

variable {o : TextOperator} {s needle : String}

theorem holds_iff :
    o.holds s needle = true ↔ ∃ front back, front ++ needle.toList ++ back = s.toList ∧
      (o = .startsWith → front = []) ∧ (o = .endsWith → back = []) := by
  cases o with
  | contains => simp [holds, contains_iff, List.IsInfix]
  | startsWith => simp [holds, startsWith_iff, List.IsPrefix]
  | endsWith => simp [holds, endsWith_iff, List.IsSuffix]

theorem infix_of_holds (h : o.holds s needle = true) : needle.toList <:+: s.toList := by
  obtain ⟨front, back, cut, -⟩ := holds_iff.1 h
  exact ⟨front, back, cut⟩

theorem holds_lower (closed : ¬o.Exposes needle.toList) (h : o.holds s needle = true) :
    o.holds (lower s) (lower needle) = true := by
  obtain ⟨front, back, cut, first, last⟩ := holds_iff.1 h
  have right : EndsOpen needle.toList → back = [] := fun isOpen =>
    last (by_contra fun other => closed (.right other isOpen))
  have left : BeginsOpen needle.toList → front = [] := fun isOpen =>
    first (by_contra fun other => closed (.left other isOpen))
  obtain ⟨xs, ys, lowered, before, after⟩ := exists_lowerChars_append right left
  refine holds_iff.2
    ⟨xs, ys, ?_, fun starts => before (first starts), fun ends => after (last ends)⟩
  rw [toList_lower, toList_lower, ← cut, lowered]

theorem not_infix_of_count_lt {α : Type} [DecidableEq α] {xs ys : List α} (a : α)
    (h : ys.count a < xs.count a) : ¬xs <:+: ys := fun inside =>
  Nat.not_le_of_lt h (inside.sublist.count_le a)

theorem exists_not_holds_lower (h : o.Exposes needle.toList) :
    ∃ s, o.holds s needle = true ∧ o.holds (lower s) (lower needle) = false := by
  cases h with
  | right other isOpen =>
    refine ⟨needle ++ "a", holds_iff.2 ⟨[], ['a'], by simp, by simp, (absurd · other)⟩, ?_⟩
    rw [Bool.eq_false_iff]
    intro found
    obtain ⟨xs, ys, alone, inside⟩ := isOpen.exists_lower
    refine not_infix_of_count_lt 'ς' ?_ (infix_of_holds found)
    rw [toList_lower, toList_lower, String.toList_append, alone]
    simp [inside]
  | left other isOpen =>
    refine ⟨"a" ++ needle, holds_iff.2 ⟨['a'], [], by simp, (absurd · other), by simp⟩, ?_⟩
    rw [Bool.eq_false_iff]
    intro found
    obtain ⟨xs, ys, alone, inside⟩ := isOpen.exists_lower
    refine not_infix_of_count_lt 'σ' ?_ (infix_of_holds found)
    rw [toList_lower, toList_lower, String.toList_append, alone]
    simp [inside]

end TextOperator

def Record.holding (v : Value) : List String → Record
  | [] => []
  | [name] => [(name, v)]
  | name :: names => [(name, .record (holding v names))]

theorem Record.read_holding (v : Value) {names : List String} (some : names ≠ []) :
    (holding v names).read names = v := by
  induction names with
  | nil => exact absurd rfl some
  | cons name names ih =>
    cases names with
    | nil => simp [holding, read, get]
    | cons next names => simpa [holding, read, get] using ih (by simp)

namespace Property

variable {p : Property} {settings : ConditionSettings} {o : TextOperator} {needle : String}
  {mode : TextMatch} {r : Record}

def search (p : Property) (o : TextOperator) (needle : String) (mode : TextMatch) : Predicate :=
  p.clause (.text o (mode.prepare needle) mode)

theorem build_eq_search (type : p.type = .string) (given : needle ≠ "") (value2 : Option String) :
    p.build o.operator (some needle) value2 settings =
      .ok (p.search o needle settings.textMatch) := by
  have textual : o.operator ∈ Operator.textual := by cases o <;> decide
  rw [build_text_eq_ok textual type ⟨rfl, given⟩]
  cases o <;> rfl

theorem holds_search_iff :
    (p.search o needle mode).holds r = true ↔
      ∃ s, r.read p.path = .scalar (.text s) ∧
        o.holds (mode.prepare s) (mode.prepare needle) = true := by
  rw [search, holds_clause, Test.holds_text_iff]

theorem holds_search_lower_iff (path : p.path ≠ []) :
    (∀ r : Record, (p.search o needle .caseSensitive).holds r = true →
        (p.search o needle .caseInsensitive).holds r = true) ↔ ¬o.Exposes needle.toList := by
  constructor
  · intro accepts exposed
    obtain ⟨s, sensitive, insensitive⟩ := TextOperator.exists_not_holds_lower exposed
    have read := Record.read_holding (.scalar (.text s)) path
    obtain ⟨s', read', holds⟩ :=
      holds_search_iff.1 (accepts _ (holds_search_iff.2 ⟨s, read, sensitive⟩))
    rw [read] at read'
    cases read'
    rw [TextMatch.prepare, TextMatch.prepare, insensitive] at holds
    cases holds
  · intro closed r sensitive
    obtain ⟨s, read, holds⟩ := holds_search_iff.1 sensitive
    exact holds_search_iff.2 ⟨s, read, TextOperator.holds_lower closed holds⟩

end Property

theorem Condition.compile_eq_search {type : RecordType} {c : Condition} {p : Property}
    {o : TextOperator} {needle : String} (settings : ConditionSettings)
    (found : type.property c.property = .ok p) (string : p.type = .string)
    (op : Operator.read? c.operation = some o.operator) (value : c.value = some needle)
    (given : needle ≠ "") :
    c.compile type settings = .ok (p.search o needle settings.textMatch) := by
  rw [compile_eq_build found op, value, Property.build_eq_search string given]

/-- What a text condition finds with regard to case it finds without it, in every record, if and
only if its needle is not open to a side on which the text may go on. -/
theorem Condition.caseInsensitive_accepts_iff {type : RecordType} (labels : Labels) {c : Condition}
    {p : Property} {o : TextOperator} {needle : String} (found : type.property c.property = .ok p)
    (string : p.type = .string) (op : Operator.read? c.operation = some o.operator)
    (value : c.value = some needle) (given : needle ≠ "") :
    ∃ q q', c.compile type ⟨labels, .caseSensitive⟩ = .ok q ∧
      c.compile type ⟨labels, .caseInsensitive⟩ = .ok q' ∧
      ((∀ r : Record, q.holds r = true → q'.holds r = true) ↔ ¬o.Exposes needle.toList) := by
  have compiles (mode : TextMatch) := compile_eq_search ⟨labels, mode⟩ found string op value given
  exact ⟨_, _, compiles _, compiles _,
    Property.holds_search_lower_iff (RecordType.path_ne_nil_of_property found)⟩

theorem Condition.caseInsensitive_accepts_iff_street :
    let type : RecordType := ⟨fun _ => ⟨"Place", [⟨"name", .string, false⟩]⟩, 0⟩
    let c : Condition := ⟨"name", "endswith", some "ΟΔΟΣ", none, none⟩
    ∃ q q', c.compile type ⟨.declared, .caseSensitive⟩ = .ok q ∧
      c.compile type ⟨.declared, .caseInsensitive⟩ = .ok q' ∧
      ∀ r : Record, q.holds r = true → q'.holds r = true := by
  intro type c
  have found : type.property c.property = .ok ⟨["name"], .string, false⟩ := by decide +kernel
  have op : Operator.read? c.operation = some TextOperator.endsWith.operator := by decide +kernel
  obtain ⟨q, q', sensitive, insensitive, accepts⟩ :=
    caseInsensitive_accepts_iff .declared found rfl op rfl (by decide)
  exact ⟨q, q', sensitive, insensitive, accepts.2 (by decide +kernel)⟩

theorem Condition.caseInsensitive_misses_beginning :
    let type : RecordType := ⟨fun _ => ⟨"Place", [⟨"name", .string, false⟩]⟩, 0⟩
    let c : Condition := ⟨"name", "startswith", some "ΟΔΟΣ", none, none⟩
    let sign : Record := [("name", .scalar (.text "ΟΔΟΣΗΜΑ"))]
    ∃ q q', c.compile type ⟨.declared, .caseSensitive⟩ = .ok q ∧
      c.compile type ⟨.declared, .caseInsensitive⟩ = .ok q' ∧
      q.holds sign = true ∧ q'.holds sign = false := by
  intro type c sign
  have found : type.property c.property = .ok ⟨["name"], .string, false⟩ := by decide +kernel
  have op : Operator.read? c.operation = some TextOperator.startsWith.operator := by decide +kernel
  have compiles (mode : TextMatch) :=
    compile_eq_search ⟨.declared, mode⟩ found rfl op rfl (by decide)
  exact ⟨_, _, compiles _, compiles _, by decide +kernel, by decide +kernel⟩

end RecordQuery
