import RecordQuery.Condition
import RecordQuery.Proofs.Except

/-!
What operators are for. Given a value, an operator searches the labels of an enumeration, or is not
for the type, or looks at a text, or compares with the value as it is read.
-/

namespace RecordQuery

theorem required_eq_ok {s : Option String} {missing : Skip} {t : String} :
    required s missing = .ok t ↔ s = some t ∧ t ≠ "" := by
  cases s with
  | none => simp [required]
  | some s =>
    by_cases h : s = ""
    · simp only [required, h, if_true, reduceCtorEq, Option.some.injEq, false_iff]
      rintro ⟨rfl, ne⟩
      exact ne rfl
    · simp only [required, h, if_false, Except.ok.injEq, Option.some.injEq]
      constructor
      · rintro rfl
        exact ⟨rfl, h⟩
      · exact And.left

theorem required_eq_error {s : Option String} {missing reason : Skip} :
    required s missing = .error reason ↔ (∀ t, ¬(s = some t ∧ t ≠ "")) ∧ reason = missing := by
  cases s with
  | none => simp [required, eq_comm]
  | some s => by_cases h : s = "" <;> simp [required, h, eq_comm]

theorem coerceOrSkip_eq_ok {s : String} {type : FieldType} {c : Scalar} :
    coerceOrSkip s type = .ok c ↔ coerce s type = .ok c := mapError_eq_ok

theorem coerceOrSkip_eq_error {s : String} {type : FieldType} {reason : Skip} :
    coerceOrSkip s type = .error reason ↔
      ∃ cause, coerce s type = .error cause ∧ .coercion cause = reason := mapError_eq_error

theorem FieldType.enum?_eq_some {type : FieldType} {e : EnumType} :
    type.enum? = some e ↔ type = .enum e := by
  cases type <;> simp [enum?]

theorem FieldType.isString_iff {type : FieldType} : type.isString ↔ type = .string := by
  cases type <;> simp [isString]

def FieldType.ordered : List FieldType := [.int, .float, .decimal, .dateTime]

theorem FieldType.isOrdered_iff {type : FieldType} : type.isOrdered = true ↔ type ∈ ordered := by
  cases type <;> simp [isOrdered, ordered]

namespace Operator

def nullChecks : List Operator := [.isEmpty, .isNotEmpty]

def textual : List Operator := [.contains, .notContains, .startsWith, .endsWith]

def ordering : List Operator := [.gt, .gte, .lt, .lte, .between, .notBetween]

def ranges : List Operator := [.between, .notBetween]

variable {op : Operator} {type : FieldType}

theorem isNullCheck_iff : op.isNullCheck = true ↔ op ∈ nullChecks := by
  cases op <;> simp [isNullCheck, nullChecks]

theorem isTextual_iff : op.isTextual = true ↔ op ∈ textual := by
  cases op <;> simp [isTextual, textual]

theorem isOrdering_iff : op.isOrdering = true ↔ op ∈ ordering := by
  cases op <;> simp [isOrdering, ordering]

def SearchesLabels (op : Operator) (type : FieldType) : Prop :=
  (op = .contains ∨ op = .eq) ∧ ∃ e, type = .enum e

def AppliesTo (op : Operator) (type : FieldType) : Prop :=
  (op ∈ textual → type = .string) ∧ (op ∈ ordering → type ∈ FieldType.ordered)

theorem appliesTo_of_textual (h : op ∈ textual) : op.AppliesTo type ↔ type = .string := by
  have plain : op ∉ ordering := by
    revert h
    cases op <;> decide
  simp [AppliesTo, h, plain]

theorem appliesTo_of_not_textual (h : op ∉ textual) :
    op.AppliesTo type ↔ (op ∈ ordering → type ∈ FieldType.ordered) := by
  simp [AppliesTo, h]

structure Compares (op : Operator) (type : FieldType) : Prop where
  binary : op ∉ nullChecks
  unlabelled : ¬op.SearchesLabels type
  untextual : op ∉ textual
  applies : op.AppliesTo type

inductive Use (type : FieldType) (op : Operator) : Prop
  | label : op.SearchesLabels type → Use type op
  | misapplied : ¬op.SearchesLabels type → ¬op.AppliesTo type → Use type op
  | text : ¬op.SearchesLabels type → op ∈ textual → type = .string → Use type op
  | comparison : op.Compares type → Use type op

theorem use_of_binary (binary : op ∉ nullChecks) (type : FieldType) : op.Use type := by
  by_cases label : op.SearchesLabels type
  · exact .label label
  by_cases applies : op.AppliesTo type
  · by_cases textual : op ∈ textual
    · exact .text label textual ((appliesTo_of_textual textual).1 applies)
    · exact .comparison ⟨binary, label, textual, applies⟩
  · exact .misapplied label applies

theorem not_searchesLabels_of_plain (plain : type.enum? = none) : ¬op.SearchesLabels type := by
  rintro ⟨-, e, rfl⟩
  cases plain

theorem not_searchesLabels_ne : ¬SearchesLabels .ne type := by
  rintro ⟨label | label, -⟩ <;> cases label

theorem Compares.of_equality (equality : op = .eq ∨ op = .ne)
    (unlabelled : ¬op.SearchesLabels type) : op.Compares type := by
  have kinds : op ∉ nullChecks ∧ op ∉ textual ∧ op ∉ ordering := by
    rcases equality with rfl | rfl <;> decide
  obtain ⟨binary, untextual, unordered⟩ := kinds
  refine ⟨binary, unlabelled, untextual, ?_⟩
  exact (appliesTo_of_not_textual untextual).2 fun ordering => absurd ordering unordered

theorem Compares.of_ordered (ordering : op ∈ ordering) (ordered : type ∈ FieldType.ordered) :
    op.Compares type := by
  have kinds : op ∉ nullChecks ∧ op ≠ .contains ∧ op ≠ .eq ∧ op ∉ textual := by
    revert ordering
    cases op <;> decide
  obtain ⟨binary, contains, eq, untextual⟩ := kinds
  refine ⟨binary, ?_, untextual, (appliesTo_of_not_textual untextual).2 fun _ => ordered⟩
  rintro ⟨label | label, -⟩
  · exact contains label
  · exact eq label

end Operator

def Given (text : Option String) (s : String) : Prop := text = some s ∧ s ≠ ""

namespace Property

def Operand (type : FieldType) (text : Option String) (c : Scalar) : Prop :=
  ∃ s, text = some s ∧ s ≠ "" ∧ coerce s type = .ok c

variable {p : Property} {settings : ConditionSettings} {s : String} {value value2 : Option String}
  {op : Operator} {low : Scalar}

theorem predicateFor_label {e : EnumType} (label : op = .contains ∨ op = .eq)
    (enum : p.type = .enum e) (s : String) (value2 : Option String)
    (settings : ConditionSettings) :
    p.predicateFor op s value2 settings = .ok (p.labelPredicate e settings.labels s) := by
  have members : p.type.enum? = some e := FieldType.enum?_eq_some.2 enum
  rcases label with rfl | rfl <;> simp only [predicateFor, members]

theorem predicateFor_of_not_searchesLabels (h : ¬op.SearchesLabels p.type) :
    p.predicateFor op s value2 settings =
      if op.isTextual then
        if p.type.isString then .ok (p.textPredicate op s settings.textMatch)
        else .error (.notApplicable op.tag p.type.name)
      else if op.isOrdering && !p.type.isOrdered then .error (.notApplicable op.tag p.type.name)
      else coerceOrSkip s p.type >>= fun low => p.comparison op low value2 := by
  simp only [predicateFor]
  split
  · rename_i e type
    exact absurd ⟨.inl rfl, e, FieldType.enum?_eq_some.1 type⟩ h
  · rename_i e type
    exact absurd ⟨.inr rfl, e, FieldType.enum?_eq_some.1 type⟩ h
  · rfl

theorem predicateFor_of_not_appliesTo (h : ¬op.SearchesLabels p.type)
    (misapplied : ¬op.AppliesTo p.type) :
    p.predicateFor op s value2 settings = .error (.notApplicable op.tag p.type.name) := by
  rw [predicateFor_of_not_searchesLabels h]
  by_cases textual : op ∈ Operator.textual
  · rw [Operator.appliesTo_of_textual textual, ← FieldType.isString_iff] at misapplied
    rw [if_pos (Operator.isTextual_iff.2 textual), if_neg misapplied]
  · rw [Operator.appliesTo_of_not_textual textual] at misapplied
    have unordered : (op.isOrdering && !p.type.isOrdered) = true := by
      simpa [← Operator.isOrdering_iff, ← FieldType.isOrdered_iff] using misapplied
    rw [if_neg (mt Operator.isTextual_iff.1 textual), if_pos unordered]

theorem predicateFor_text (label : ¬op.SearchesLabels p.type) (textual : op ∈ Operator.textual)
    (string : p.type = .string) :
    p.predicateFor op s value2 settings = .ok (p.textPredicate op s settings.textMatch) := by
  rw [predicateFor_of_not_searchesLabels label, if_pos (Operator.isTextual_iff.2 textual),
    if_pos (FieldType.isString_iff.2 string)]

theorem predicateFor_of_compares (h : op.Compares p.type) :
    p.predicateFor op s value2 settings =
      coerceOrSkip s p.type >>= fun low => p.comparison op low value2 := by
  have ordered : ¬(op.isOrdering && !p.type.isOrdered) = true := by
    simpa [← Operator.isOrdering_iff, ← FieldType.isOrdered_iff] using h.applies.2
  rw [predicateFor_of_not_searchesLabels h.unlabelled,
    if_neg (mt Operator.isTextual_iff.1 h.untextual), if_neg ordered]

theorem build_of_binary (binary : op ∉ Operator.nullChecks) :
    p.build op value value2 settings =
      required value .missingValue >>= fun s => p.predicateFor op s value2 settings := by
  rw [build, if_neg (mt Operator.isNullCheck_iff.1 binary)]

theorem build_of_given (binary : op ∉ Operator.nullChecks) (given : Given value s) :
    p.build op value value2 settings = p.predicateFor op s value2 settings := by
  rw [build_of_binary binary, required_eq_ok.2 given, ok_bind]

theorem build_of_operand (compares : op.Compares p.type) (operand : Operand p.type value low) :
    p.build op value value2 settings = p.comparison op low value2 := by
  obtain ⟨s, given, filled, read⟩ := operand
  rw [build_of_given compares.binary ⟨given, filled⟩, predicateFor_of_compares compares,
    coerceOrSkip_eq_ok.2 read, ok_bind]

end Property

end RecordQuery
