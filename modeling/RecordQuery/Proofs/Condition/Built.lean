import RecordQuery.Proofs.Condition.Applicability

namespace RecordQuery

namespace Property

inductive Built (p : Property) (settings : ConditionSettings) (value value2 : Option String) :
    Operator → Predicate → Prop
  | null {op} : op.isNullCheck → Built p settings value value2 op (p.nullPredicate op)
  | label {op e s} : op = .contains ∨ op = .eq → p.type = .enum e → value = some s → s ≠ "" →
      Built p settings value value2 op (p.labelPredicate e settings.labels s)
  | text {op s} : op.isTextual → p.type = .string → value = some s → s ≠ "" →
      Built p settings value value2 op (p.textPredicate op s settings.textMatch)
  | eq {low} : p.type.enum? = none → Operand p.type value low →
      Built p settings value value2 .eq (p.clause (equalityTest .eq low))
  | ne {low} : Operand p.type value low →
      Built p settings value value2 .ne (.any [p.clause (equalityTest .ne low), p.clause .null])
  | range {op low high} : op.isRange → p.type.isOrdered → Operand p.type value low →
      Operand p.type value2 high → Built p settings value value2 op (p.rangePredicate op low high)
  | order {op low} : op.isOrdering → op.isRange = false → p.type.isOrdered →
      Operand p.type value low → Built p settings value value2 op (p.clause (.compare op low))

variable {p : Property} {settings : ConditionSettings} {value value2 : Option String}
  {op : Operator} {q : Predicate}

theorem built_of_comparison {low : Scalar} (compares : op.Compares p.type)
    (operand : Operand p.type value low) (h : p.comparison op low value2 = .ok q) :
    Built p settings value value2 op q := by
  obtain ⟨binary, unlabelled, untextual, applies⟩ := compares
  have ordered : op ∈ Operator.ordering → p.type.isOrdered :=
    fun ordering => FieldType.isOrdered_iff.2 (applies.2 ordering)
  cases op with
  | contains | notContains | startsWith | endsWith => exact absurd (by decide) untextual
  | isEmpty | isNotEmpty => exact absurd (by decide) binary
  | eq =>
    cases h
    have plain : p.type.enum? = none := by
      rw [Option.eq_none_iff_forall_ne_some]
      exact fun e members => unlabelled ⟨.inr rfl, e, FieldType.enum?_eq_some.1 members⟩
    exact .eq plain operand
  | ne =>
    cases h
    exact .ne operand
  | gt | gte | lt | lte =>
    cases h
    exact .order rfl rfl (ordered (by decide)) operand
  | between | notBetween =>
    simp only [comparison, bind_eq_ok, required_eq_ok, coerceOrSkip_eq_ok] at h
    obtain ⟨s, ⟨given, some⟩, high, read, h⟩ := h
    cases h
    exact .range rfl (ordered (by decide)) operand ⟨s, given, some, read⟩

theorem built_of_predicateFor {s : String} (binary : op ∉ Operator.nullChecks)
    (given : Given value s) (h : p.predicateFor op s value2 settings = .ok q) :
    Built p settings value value2 op q := by
  cases Operator.use_of_binary binary p.type with
  | label searches =>
    obtain ⟨label, e, enum⟩ := searches
    rw [predicateFor_label label enum] at h
    cases h
    exact .label label enum given.1 given.2
  | misapplied label misapplied =>
    rw [predicateFor_of_not_appliesTo label misapplied] at h
    cases h
  | text label textual string =>
    rw [predicateFor_text label textual string] at h
    cases h
    exact .text (Operator.isTextual_iff.2 textual) string given.1 given.2
  | comparison compares =>
    rw [predicateFor_of_compares compares] at h
    obtain ⟨low, read, h⟩ := bind_eq_ok.1 h
    exact built_of_comparison compares ⟨s, given.1, given.2, coerceOrSkip_eq_ok.1 read⟩ h

theorem built_of_build (h : p.build op value value2 settings = .ok q) :
    Built p settings value value2 op q := by
  simp only [build] at h
  split at h
  · cases h
    exact .null ‹_›
  · rename_i binary
    obtain ⟨s, given, h⟩ := bind_eq_ok.1 h
    exact built_of_predicateFor (mt Operator.isNullCheck_iff.2 binary) (required_eq_ok.1 given) h

theorem build_label_eq_ok {e : EnumType} {s : String} (label : op = .contains ∨ op = .eq)
    (enum : p.type = .enum e) (given : Given value s) (value2 : Option String)
    (settings : ConditionSettings) :
    p.build op value value2 settings = .ok (p.labelPredicate e settings.labels s) := by
  have binary : op ∉ Operator.nullChecks := by rcases label with rfl | rfl <;> decide
  rw [build_of_given binary given, predicateFor_label label enum]

theorem build_text_eq_ok {s : String} (textual : op ∈ Operator.textual) (string : p.type = .string)
    (given : Given value s) (value2 : Option String) :
    p.build op value value2 settings = .ok (p.textPredicate op s settings.textMatch) := by
  have binary : op ∉ Operator.nullChecks := by
    revert textual
    cases op <;> decide
  have unlabelled : ¬op.SearchesLabels p.type := by
    rintro ⟨-, e, enum⟩
    cases string.symm.trans enum
  rw [build_of_given binary given, predicateFor_text unlabelled textual string]

theorem build_of_equality {low : Scalar} (equality : op = .eq ∨ op = .ne)
    (plain : p.type.enum? = none) (operand : Operand p.type value low) :
    p.build op value value2 settings = p.comparison op low value2 :=
  build_of_operand (.of_equality equality (Operator.not_searchesLabels_of_plain plain)) operand

theorem build_bound_eq_ok {low : Scalar} (ordering : op ∈ Operator.ordering)
    (single : op ∉ Operator.ranges) (ordered : p.type.isOrdered)
    (operand : Operand p.type value low) :
    p.build op value value2 settings = .ok (p.clause (.compare op low)) := by
  rw [build_of_operand (.of_ordered ordering (FieldType.isOrdered_iff.1 ordered)) operand]
  cases op with
  | between | notBetween => exact absurd (by decide) single
  | gt | gte | lt | lte => rfl
  | _ => exact absurd ordering (by decide)

theorem build_between_eq_ok {low high : Scalar} (ordered : p.type.isOrdered)
    (first : Operand p.type value low) (second : Operand p.type value2 high) :
    p.build .between value value2 settings = .ok (p.rangePredicate .between low high) := by
  have compares : Operator.Compares .between p.type :=
    .of_ordered (by decide) (FieldType.isOrdered_iff.1 ordered)
  obtain ⟨s, given, some, read⟩ := second
  rw [build_of_operand compares first, comparison, required_eq_ok.2 ⟨given, some⟩, ok_bind,
    coerceOrSkip_eq_ok.2 read, ok_bind]
  rfl

end Property

theorem Condition.built_of_compile {c : Condition} {type : RecordType}
    {settings : ConditionSettings} {q : Predicate} (h : c.compile type settings = .ok q) :
    ∃ p op, type.property c.property = .ok p ∧ Operator.read? c.operation = some op ∧
      p.Built settings c.value c.value2 op q := by
  rw [compile] at h
  obtain ⟨p, found, h⟩ := bind_eq_ok.1 h
  cases known : Operator.read? c.operation with
  | none =>
    simp only [known] at h
    cases h
  | some op =>
    simp only [known] at h
    exact ⟨p, op, mapError_eq_ok.1 found, rfl, Property.built_of_build h⟩

theorem Condition.compile_eq_build {c : Condition} {type : RecordType} {p : Property}
    {op : Operator} (found : type.property c.property = .ok p)
    (known : Operator.read? c.operation = some op) (settings : ConditionSettings) :
    c.compile type settings = p.build op c.value c.value2 settings := by
  rw [compile, found, known]
  rfl

end RecordQuery
