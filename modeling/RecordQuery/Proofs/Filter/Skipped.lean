import RecordQuery.Proofs.Filter.Conservation

namespace RecordQuery

open Text

namespace Operator

def tags : Operator → List String
  | .eq => ["eq", "equals"]
  | .ne => ["neq", "notequals"]
  | .gt => ["gt", "after"]
  | .lt => ["lt", "before"]
  | op => [op.tag]

theorem ofTag?_eq_some {s : String} {op : Operator} : ofTag? s = some op ↔ s ∈ op.tags := by
  constructor
  · intro h
    unfold ofTag? at h
    split at h <;> cases h <;> simp [tags, tag]
  · intro h
    cases op <;> simp only [tags, tag, List.mem_cons, List.not_mem_nil, or_false] at h <;>
      rcases h with rfl | rfl <;> rfl

theorem read?_eq_some {s : String} {op : Operator} :
    read? s = some op ↔ lowerAsciiString (trim s) ∈ op.tags := ofTag?_eq_some

end Operator

/-- Why an operator makes nothing of the texts that come with it: each reason counts only where
those before it do not. -/
inductive Operator.Refuses (type : FieldType) (value value2 : Option String) (op : Operator) :
    Skip → Prop
  | missingValue : op ∉ nullChecks → (∀ s, ¬Given value s) →
      Refuses type value value2 op .missingValue
  | notApplicable {s} : op ∉ nullChecks → Given value s → ¬op.SearchesLabels type →
      ¬op.AppliesTo type → Refuses type value value2 op (.notApplicable op.tag type.name)
  | value {s cause} : op.Compares type → Given value s → coerce s type = .error cause →
      Refuses type value value2 op (.coercion cause)
  | missingSecondValue {low} : op.Compares type → Property.Operand type value low → op ∈ ranges →
      (∀ s, ¬Given value2 s) → Refuses type value value2 op .missingSecondValue
  | secondValue {low s cause} : op.Compares type → Property.Operand type value low → op ∈ ranges →
      Given value2 s → coerce s type = .error cause →
      Refuses type value value2 op (.coercion cause)

inductive Condition.SkippedFor (c : Condition) (type : RecordType) : Skip → Prop
  | unknownProperty : (∀ p, type.property c.property ≠ .ok p) →
      SkippedFor c type (.unknownProperty c.property)
  | unknownOperator {p} : type.property c.property = .ok p →
      (∀ op : Operator, lowerAsciiString (trim c.operation) ∉ op.tags) →
      SkippedFor c type (.unknownOperator c.operation)
  | refused {p reason} {op : Operator} : type.property c.property = .ok p →
      lowerAsciiString (trim c.operation) ∈ op.tags →
      op.Refuses p.type c.value c.value2 reason → SkippedFor c type reason

namespace Property

variable {p : Property} {settings : ConditionSettings} {s : String} {value value2 : Option String}
  {op : Operator} {low : Scalar} {reason : Skip}

theorem comparison_eq_error :
    p.comparison op low value2 = .error reason ↔ op ∈ Operator.ranges ∧
      ((∀ s, ¬Given value2 s) ∧ reason = .missingSecondValue ∨
        ∃ s, Given value2 s ∧ ∃ cause,
          coerce s p.type = .error cause ∧ .coercion cause = reason) := by
  cases op with
  | between | notBetween =>
    simp [comparison, bind_eq_error, required_eq_error, required_eq_ok, coerceOrSkip_eq_error,
      Operator.ranges, Given, pure, Except.pure]
  | _ => simp [comparison, Operator.ranges]

theorem refuses_of_predicateFor (binary : op ∉ Operator.nullChecks) (given : Given value s)
    (h : p.predicateFor op s value2 settings = .error reason) :
    op.Refuses p.type value value2 reason := by
  cases Operator.use_of_binary binary p.type with
  | label searches =>
    obtain ⟨label, e, enum⟩ := searches
    rw [predicateFor_label label enum] at h
    cases h
  | misapplied label misapplied =>
    rw [predicateFor_of_not_appliesTo label misapplied] at h
    cases h
    exact .notApplicable binary given label misapplied
  | text label textual string =>
    rw [predicateFor_text label textual string] at h
    cases h
  | comparison compares =>
    rw [predicateFor_of_compares compares, bind_eq_error, coerceOrSkip_eq_error] at h
    obtain ⟨cause, rejected, rfl⟩ | ⟨low, read, h⟩ := h
    · exact .value compares given rejected
    · have operand : Operand p.type value low := ⟨s, given.1, given.2, coerceOrSkip_eq_ok.1 read⟩
      obtain ⟨range, ⟨absent, rfl⟩ | ⟨s', given', cause, rejected, rfl⟩⟩ := comparison_eq_error.1 h
      · exact .missingSecondValue compares operand range absent
      · exact .secondValue compares operand range given' rejected

theorem build_eq_error :
    p.build op value value2 settings = .error reason ↔ op.Refuses p.type value value2 reason := by
  constructor
  · intro h
    by_cases unary : op ∈ Operator.nullChecks
    · rw [build, if_pos (Operator.isNullCheck_iff.2 unary)] at h
      cases h
    · rw [build_of_binary unary, bind_eq_error, required_eq_error] at h
      obtain ⟨absent, rfl⟩ | ⟨s, given, h⟩ := h
      · exact .missingValue unary absent
      · exact refuses_of_predicateFor unary (required_eq_ok.1 given) h
  · intro refuses
    cases refuses with
    | missingValue binary absent =>
      rw [build_of_binary binary, bind_eq_error, required_eq_error]
      exact .inl ⟨absent, rfl⟩
    | notApplicable binary given label misapplied =>
      rw [build_of_given binary given, predicateFor_of_not_appliesTo label misapplied]
    | value compares given rejected =>
      rw [build_of_given compares.binary given, predicateFor_of_compares compares, bind_eq_error,
        coerceOrSkip_eq_error]
      exact .inl ⟨_, rejected, rfl⟩
    | missingSecondValue compares operand range absent =>
      rw [build_of_operand compares operand, comparison_eq_error]
      exact ⟨range, .inl ⟨absent, rfl⟩⟩
    | secondValue compares operand range given rejected =>
      rw [build_of_operand compares operand, comparison_eq_error]
      exact ⟨range, .inr ⟨_, given, _, rejected, rfl⟩⟩

theorem comparison_of_single (single : op ∉ Operator.ranges) (value2 value2' : Option String) :
    p.comparison op low value2' = p.comparison op low value2 := by
  cases op with
  | between | notBetween => simp [Operator.ranges] at single
  | _ => rfl

theorem build_of_single (single : op ∉ Operator.ranges) (value2 value2' : Option String) :
    p.build op value value2' settings = p.build op value value2 settings := by
  simp only [build, predicateFor, comparison_of_single single value2 value2']

end Property

namespace Condition

variable {c : Condition} {type : RecordType} {settings : ConditionSettings} {p : Property}

theorem read?_eq_none : Operator.read? c.operation = none ↔
    ∀ op : Operator, lowerAsciiString (trim c.operation) ∉ op.tags := by
  simp only [Option.eq_none_iff_forall_ne_some, ne_eq, Operator.read?_eq_some]

theorem compile_of_missing {e : PropertyError} (missing : type.property c.property = .error e) :
    c.compile type settings = .error (.unknownProperty c.property) := by
  rw [compile, missing]
  rfl

theorem compile_of_unknown (found : type.property c.property = .ok p)
    (unknown : Operator.read? c.operation = none) :
    c.compile type settings = .error (.unknownOperator c.operation) := by
  rw [compile, found, unknown]
  rfl

theorem compile_eq_error {reason : Skip} :
    c.compile type settings = .error reason ↔ c.SkippedFor type reason := by
  constructor
  · intro h
    cases found : type.property c.property with
    | error e =>
      cases (compile_of_missing found).symm.trans h
      exact .unknownProperty (by simp [found])
    | ok p =>
      cases known : Operator.read? c.operation with
      | none =>
        cases (compile_of_unknown found known).symm.trans h
        exact .unknownOperator found (read?_eq_none.1 known)
      | some op =>
        rw [compile_eq_build found known, Property.build_eq_error] at h
        exact .refused found (Operator.read?_eq_some.1 known) h
  · intro h
    cases h with
    | unknownProperty missing =>
      cases found : type.property c.property with
      | error e => exact compile_of_missing found
      | ok p => exact absurd found (missing p)
    | unknownOperator found unknown => exact compile_of_unknown found (read?_eq_none.2 unknown)
    | refused found known refuses =>
      rw [compile_eq_build found (Operator.read?_eq_some.2 known)]
      exact Property.build_eq_error.2 refuses

theorem compile_eq_unknownProperty {path : String} :
    c.compile type settings = .error (.unknownProperty path) ↔
      path = c.property ∧ ∃ e, type.property c.property = .error e := by
  rw [compile_eq_error]
  constructor
  · intro h
    cases h with
    | unknownProperty missing =>
      refine ⟨rfl, ?_⟩
      cases found : type.property c.property with
      | error e => exact ⟨e, rfl⟩
      | ok p => exact absurd found (missing p)
    | refused _ _ refuses => cases refuses
  · rintro ⟨rfl, e, missing⟩
    exact .unknownProperty (by simp [missing])

theorem exists_compile_eq_ok :
    (∃ q, c.compile type settings = .ok q) ↔ ∀ reason, ¬c.SkippedFor type reason := by
  have skipped (reason : Skip) :
      c.SkippedFor type reason ↔ c.compile type settings = .error reason := compile_eq_error.symm
  simp only [skipped]
  cases c.compile type settings <;> simp

theorem compile_of_single {op : Operator} (known : Operator.read? c.operation = some op)
    (single : op ∉ Operator.ranges) (value2 : Option String) :
    { c with value2 := value2 }.compile type settings = c.compile type settings := by
  simp only [compile, known, ok_bind, Property.build_of_single single c.value2 value2]

/-- A condition is skipped for the first reason that there is, and has a predicate if there is none.
That is so in any list of conditions. A second value counts for ranges alone. -/
theorem compile_skips_for_first_reason (c : Condition) (type : RecordType)
    (settings : ConditionSettings) :
    (∀ reason, c.compile type settings = .error reason ↔ c.SkippedFor type reason) ∧
    ((∃ q, c.compile type settings = .ok q) ↔ ∀ reason, ¬c.SkippedFor type reason) ∧
    (∀ op : Operator, lowerAsciiString (trim c.operation) ∈ op.tags → op ∉ Operator.ranges →
      ∀ value2, { c with value2 := value2 }.compile type settings = c.compile type settings) ∧
    ∀ conditions x, x ∈ (Filter.compile type settings conditions).skipped ↔
      ∃ c' : Condition, conditions[x.index]? = some c' ∧ c'.property = x.property ∧
        c'.SkippedFor type x.reason := by
  refine ⟨fun reason => compile_eq_error, exists_compile_eq_ok, ?_, fun conditions x => ?_⟩
  · intro op known single
    exact compile_of_single (Operator.read?_eq_some.2 known) single
  · rw [Filter.mem_skipped_iff]
    simp only [compile_eq_error]

theorem compile_skips_for_first_reason_level :
    let type : RecordType := ⟨fun _ => ⟨"Gauge", [⟨"level", .float, true⟩]⟩, 0⟩
    let settings : ConditionSettings := ⟨.declared, .caseInsensitive⟩
    let c : Condition := ⟨"level", " Equals", some " ", none, none⟩
    c.SkippedFor type (.coercion .empty) ∧
      lowerAsciiString (trim c.operation) ∈ Operator.eq.tags ∧
      { c with value2 := some "2" }.compile type settings = .error (.coercion .empty) := by
  intro type settings c
  have found : type.property c.property = .ok ⟨["level"], .float, true⟩ := by decide +kernel
  have known : lowerAsciiString (trim c.operation) ∈ Operator.eq.tags := by decide +kernel
  have unlabelled : ¬Operator.eq.SearchesLabels .float := by
    rintro ⟨-, e, type⟩
    cases type
  have compares : Operator.eq.Compares .float :=
    ⟨by decide, unlabelled, by decide, by decide, by decide⟩
  have rejected : coerce " " .float = .error .empty := by decide +kernel
  have skipped : c.SkippedFor type (.coercion .empty) :=
    .refused found known (.value compares ⟨rfl, by decide⟩ rejected)
  obtain ⟨reasons, -, second, -⟩ := compile_skips_for_first_reason c type settings
  refine ⟨skipped, known, ?_⟩
  rw [second .eq known (by decide)]
  exact (reasons _).2 skipped

end Condition

end RecordQuery
