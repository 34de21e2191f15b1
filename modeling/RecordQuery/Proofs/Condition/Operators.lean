import RecordQuery.Proofs.Condition.Built
import RecordQuery.Proofs.Schema.Path
import RecordQuery.Proofs.Value.Coercion

namespace RecordQuery

theorem Text.startsWith_iff {s needle : String} :
    startsWith s needle ↔ needle.toList <+: s.toList := by
  simp [startsWith]

theorem Text.endsWith_iff {s needle : String} : endsWith s needle ↔ needle.toList <:+ s.toList := by
  simp [endsWith]

theorem Text.contains_iff {s needle : String} : contains s needle ↔ needle.toList <:+: s.toList :=
  occursIn_iff

namespace Value

def IsEmpty (type : FieldType) (v : Value) : Prop :=
  v = .null ∨ type = .string ∧ v = .scalar (.text "")

def HasText (lies : List Char → List Char → Prop) (mode : TextMatch) (needle : String) (v : Value) :
    Prop :=
  ∃ s, v = .scalar (.text s) ∧ lies (mode.prepare needle).toList (mode.prepare s).toList

def AtLeast (c : Scalar) (v : Value) : Prop := v.order? c = some .gt ∨ v.order? c = some .eq

def AtMost (c : Scalar) (v : Value) : Prop := v.order? c = some .lt ∨ v.order? c = some .eq

end Value

inductive Operator.Means (type : FieldType) (settings : ConditionSettings)
    (value value2 : Option String) : Operator → (Value → Prop) → Prop
  | isEmpty : Means type settings value value2 .isEmpty fun v => v.IsEmpty type
  | isNotEmpty : Means type settings value value2 .isNotEmpty fun v => ¬v.IsEmpty type
  | contains {s} : type = .string → value = some s →
      Means type settings value value2 .contains fun v => v.HasText (· <:+: ·) settings.textMatch s
  | notContains {s} : type = .string → value = some s →
      Means type settings value value2 .notContains fun v =>
        ¬v.HasText (· <:+: ·) settings.textMatch s
  | startsWith {s} : type = .string → value = some s →
      Means type settings value value2 .startsWith fun v => v.HasText (· <+: ·) settings.textMatch s
  | endsWith {s} : type = .string → value = some s →
      Means type settings value value2 .endsWith fun v => v.HasText (· <:+ ·) settings.textMatch s
  | label {op e s} : op = .contains ∨ op = .eq → type = .enum e → value = some s →
      Means type settings value value2 op fun v =>
        ∃ n ∈ e.search settings.labels s, v = .scalar (.member n)
  | eq {c} : type.enum? = none → type ≠ .dateTime → Property.Operand type value c →
      Means type settings value value2 .eq fun v => v.order? c = some .eq
  | eqDate {t} : type = .dateTime → Property.Operand type value (.dateTime t) →
      Means type settings value value2 .eq fun v => ∃ u, v = .scalar (.dateTime u) ∧ u.date = t.date
  | ne {c} : type ≠ .dateTime → Property.Operand type value c →
      Means type settings value value2 .ne fun v => v = .null ∨ ∃ o, v.order? c = some o ∧ o ≠ .eq
  | neDate {t} : type = .dateTime → Property.Operand type value (.dateTime t) →
      Means type settings value value2 .ne fun v =>
        v = .null ∨ ∃ u, v = .scalar (.dateTime u) ∧ u.date ≠ t.date
  | gt {c} : Property.Operand type value c →
      Means type settings value value2 .gt fun v => v.order? c = some .gt
  | gte {c} : Property.Operand type value c →
      Means type settings value value2 .gte fun v => v.AtLeast c
  | lt {c} : Property.Operand type value c →
      Means type settings value value2 .lt fun v => v.order? c = some .lt
  | lte {c} : Property.Operand type value c →
      Means type settings value value2 .lte fun v => v.AtMost c
  | between {low high} : Property.Operand type value low → Property.Operand type value2 high →
      Means type settings value value2 .between fun v => v.AtLeast low ∧ v.AtMost high
  | notBetween {low high} : Property.Operand type value low → Property.Operand type value2 high →
      Means type settings value value2 .notBetween fun v => ¬(v.AtLeast low ∧ v.AtMost high)

namespace Test

variable {v : Value} {c : Scalar}

theorem holds_null_iff : Test.null.holds v ↔ v = .null := by
  cases v <;> simp [holds, Value.isNull]

theorem holds_nullOrEmpty_iff :
    nullOrEmpty.holds v ↔ v = .null ∨ v = .scalar (.text "") := by
  cases v with
  | scalar s => cases s <;> simp [holds, Value.isNull, Value.text?]
  | _ => simp [holds, Value.isNull, Value.text?]

theorem holds_compare_iff {op : Operator} :
    (compare op c).holds v ↔ ∃ o, v.order? c = some o ∧ op.holds o := Value.satisfies_iff

theorem holds_compare_iff_or_eq {op : Operator} {o : Ordering}
    (h : ∀ o', op.holds o' = true ↔ o' = o ∨ o' = .eq) :
    (compare op c).holds v ↔ v.order? c = some o ∨ v.order? c = some .eq := by
  rw [holds_compare_iff]
  simp only [h, and_or_left, exists_or, exists_eq_right]

theorem holds_gte_iff : (compare .gte c).holds v ↔ v.AtLeast c :=
  holds_compare_iff_or_eq (by decide)

theorem holds_lte_iff : (compare .lte c).holds v ↔ v.AtMost c :=
  holds_compare_iff_or_eq (by decide)

theorem holds_compareDate_iff {op : Operator} {d : Date} :
    (compareDate op d).holds v ↔ ∃ u, v = .scalar (.dateTime u) ∧ op.holds (u.date.compare d) := by
  cases v with
  | scalar s => cases s <;> simp [holds]
  | _ => simp [holds]

theorem holds_eq_iff : (compare .eq c).holds v ↔ v.order? c = some .eq := by
  simp [holds_compare_iff, Operator.holds]

theorem holds_compare_member_iff {op : Operator} {n : Int64} :
    (compare op (.member n)).holds v ↔
      ∃ m, v = .scalar (.member m) ∧ op.holds (Ord.compare m.toInt n.toInt) := by
  rw [holds_compare_iff]
  cases v with
  | scalar s => cases s <;> simp [Value.order?, Value.compareBy, Scalar.compareBy]
  | _ => simp [Value.order?, Value.compareBy]

theorem holds_member_iff {n : Int64} :
    (compare .eq (.member n)).holds v ↔ v = .scalar (.member n) := by
  simp [holds_compare_member_iff, Operator.holds, Int64.toInt_inj]

theorem holds_ne_member_iff {n : Int64} :
    (compare .ne (.member n)).holds v ↔ ∃ m ≠ n, v = .scalar (.member m) := by
  simp [holds_compare_member_iff, Operator.holds, Int64.toInt_inj, and_comm]

theorem holds_text_iff {op : TextOperator} {needle : String} {mode : TextMatch} :
    (text op needle mode).holds v ↔
      ∃ s, v = .scalar (.text s) ∧ op.holds (mode.prepare s) needle := by
  cases v with
  | scalar s => cases s <;> simp [holds]
  | _ => simp [holds]

end Test

theorem equalityTest_of_ne {op : Operator} {c : Scalar} {type : FieldType} (h : c.ReadsAs type)
    (ne : type ≠ .dateTime) : equalityTest op c = .compare op c := by
  cases h with
  | dateTime => exact absurd rfl ne
  | _ => rfl

theorem Property.Operand.readsAs {type : FieldType} {text : Option String} {c : Scalar}
    (h : Property.Operand type text c) : c.ReadsAs type := by
  obtain ⟨s, -, -, read⟩ := h
  exact readsAs_of_coerce read

theorem Property.Operand.exists_dateTime {type : FieldType} {text : Option String} {c : Scalar}
    (h : Property.Operand type text c) (date : type = .dateTime) : ∃ t, c = .dateTime t := by
  subst date
  cases h.readsAs
  exact ⟨_, rfl⟩

theorem Predicate.holds_not_iff {q : Predicate} {r : Record} :
    (Predicate.not q).holds r ↔ ¬q.holds r := by
  simp [holds]

namespace Property

variable {p : Property} {settings : ConditionSettings} {value value2 : Option String}
  {op : Operator} {q : Predicate} {r : Record}

@[simp] theorem holds_clause {test : Test} :
    (p.clause test).holds r = test.holds (r.read p.path) := rfl

theorem holds_clause_null_or_iff {test : Test} :
    (Predicate.any [p.clause test, p.clause .null]).holds r ↔
      r.read p.path = .null ∨ test.holds (r.read p.path) := by
  simp [Predicate.holds, Test.holds_null_iff, or_comm]

theorem holds_nullPredicate_isEmpty :
    (p.nullPredicate .isEmpty).holds r ↔ (r.read p.path).IsEmpty p.type := by
  by_cases h : p.type = .string
  · simp [nullPredicate, h, FieldType.isString, Test.holds_nullOrEmpty_iff, Value.IsEmpty]
  · simp [nullPredicate, h, FieldType.isString_iff, Test.holds_null_iff, Value.IsEmpty]

theorem holds_nullPredicate_isNotEmpty :
    (p.nullPredicate .isNotEmpty).holds r ↔ ¬(r.read p.path).IsEmpty p.type := by
  have negation : p.nullPredicate .isNotEmpty = .not (p.nullPredicate .isEmpty) := rfl
  rw [negation, Predicate.holds_not_iff, holds_nullPredicate_isEmpty]

theorem holds_labelPredicate {e : EnumType} {labels : Labels} {needle : String} :
    (p.labelPredicate e labels needle).holds r ↔
      ∃ n ∈ e.search labels needle, r.read p.path = .scalar (.member n) := by
  have any : (p.labelPredicate e labels needle).holds r ↔
      ∃ n ∈ e.search labels needle, (p.clause (.compare .eq (.member n))).holds r := by
    simp only [labelPredicate]
    cases e.search labels needle with
    | nil => simp [Predicate.holds]
    | cons n ns => cases ns <;> simp [Predicate.holds]
  simp only [any, holds_clause, Test.holds_member_iff]

theorem holds_textPredicate {op : TextOperator} {lies : List Char → List Char → Prop}
    {needle : String} {mode : TextMatch}
    (h : ∀ s needle, op.holds s needle ↔ lies needle.toList s.toList) :
    (p.clause (.text op (mode.prepare needle) mode)).holds r ↔
      (r.read p.path).HasText lies mode needle := by
  simp [Test.holds_text_iff, h, Value.HasText]

theorem holds_rangePredicate_between {low high : Scalar} :
    (p.rangePredicate .between low high).holds r ↔
      (r.read p.path).AtLeast low ∧ (r.read p.path).AtMost high := by
  simp [rangePredicate, Predicate.holds, Test.holds_gte_iff, Test.holds_lte_iff]

theorem holds_rangePredicate_notBetween {low high : Scalar} :
    (p.rangePredicate .notBetween low high).holds r ↔
      ¬((r.read p.path).AtLeast low ∧ (r.read p.path).AtMost high) := by
  have negation :
    p.rangePredicate .notBetween low high = .not (p.rangePredicate .between low high) := rfl
  rw [negation, Predicate.holds_not_iff, holds_rangePredicate_between]

theorem means_of_null (h : op.isNullCheck) :
    ∃ meaning, op.Means p.type settings value value2 meaning ∧
      ∀ r, (p.nullPredicate op).holds r ↔ meaning (r.read p.path) := by
  cases op with
  | isEmpty => exact ⟨_, .isEmpty, fun r => holds_nullPredicate_isEmpty⟩
  | isNotEmpty => exact ⟨_, .isNotEmpty, fun r => holds_nullPredicate_isNotEmpty⟩
  | _ => cases h

theorem means_of_text {s : String} (h : op.isTextual) (type : p.type = .string)
    (given : value = some s) :
    ∃ meaning, op.Means p.type settings value value2 meaning ∧
      ∀ r, (p.textPredicate op s settings.textMatch).holds r ↔ meaning (r.read p.path) := by
  have occurs : ∀ s needle, TextOperator.contains.holds s needle ↔ needle.toList <:+: s.toList :=
    fun _ _ => Text.contains_iff
  cases op with
  | contains => exact ⟨_, .contains type given, fun r => holds_textPredicate occurs⟩
  | notContains =>
    refine ⟨_, .notContains type given, fun r => ?_⟩
    -- the null test adds nothing, as no text is found in null
    have negation : (p.textPredicate .notContains s settings.textMatch).holds r ↔
        r.read p.path = .null ∨ ¬(r.read p.path).HasText (· <:+: ·) settings.textMatch s := by
      rw [← holds_textPredicate occurs]
      simp [textPredicate, Predicate.holds, Test.holds_null_iff]
    rw [negation]
    refine ⟨?_, .inr⟩
    rintro (null | absent)
    · rw [null]
      simp [Value.HasText]
    · exact absent
  | startsWith =>
    exact ⟨_, .startsWith type given, fun r => holds_textPredicate fun _ _ => Text.startsWith_iff⟩
  | endsWith =>
    exact ⟨_, .endsWith type given, fun r => holds_textPredicate fun _ _ => Text.endsWith_iff⟩
  | _ => cases h

theorem means_of_eq {c : Scalar} (plain : p.type.enum? = none) (operand : Operand p.type value c) :
    ∃ meaning, Operator.Means p.type settings value value2 .eq meaning ∧
      ∀ r, (p.clause (equalityTest .eq c)).holds r ↔ meaning (r.read p.path) := by
  by_cases date : p.type = .dateTime
  · obtain ⟨t, rfl⟩ := operand.exists_dateTime date
    refine ⟨_, .eqDate date operand, fun r => ?_⟩
    simp [equalityTest, Test.holds_compareDate_iff, Operator.holds, Date.compare_eq_iff]
  · refine ⟨_, .eq plain date operand, fun r => ?_⟩
    rw [equalityTest_of_ne operand.readsAs date, holds_clause, Test.holds_eq_iff]

theorem means_of_ne {c : Scalar} (operand : Operand p.type value c) :
    ∃ meaning, Operator.Means p.type settings value value2 .ne meaning ∧
      ∀ r, (Predicate.any [p.clause (equalityTest .ne c), p.clause .null]).holds r ↔
        meaning (r.read p.path) := by
  by_cases date : p.type = .dateTime
  · obtain ⟨t, rfl⟩ := operand.exists_dateTime date
    refine ⟨_, .neDate date operand, fun r => ?_⟩
    rw [holds_clause_null_or_iff]
    simp [equalityTest, Test.holds_compareDate_iff, Operator.holds, Date.compare_eq_iff]
  · refine ⟨_, .ne date operand, fun r => ?_⟩
    rw [equalityTest_of_ne operand.readsAs date, holds_clause_null_or_iff, Test.holds_compare_iff]
    simp [Operator.holds]

theorem means_of_range {low high : Scalar} (h : op.isRange) (first : Operand p.type value low)
    (second : Operand p.type value2 high) :
    ∃ meaning, op.Means p.type settings value value2 meaning ∧
      ∀ r, (p.rangePredicate op low high).holds r ↔ meaning (r.read p.path) := by
  cases op with
  | between => exact ⟨_, .between first second, fun r => holds_rangePredicate_between⟩
  | notBetween => exact ⟨_, .notBetween first second, fun r => holds_rangePredicate_notBetween⟩
  | _ => cases h

theorem means_of_order {c : Scalar} (h : op.isOrdering) (single : op.isRange = false)
    (operand : Operand p.type value c) :
    ∃ meaning, op.Means p.type settings value value2 meaning ∧
      ∀ r, (p.clause (.compare op c)).holds r ↔ meaning (r.read p.path) := by
  cases op with
  | gt =>
    refine ⟨_, .gt operand, fun r => ?_⟩
    simp [Test.holds_compare_iff, Operator.holds]
  | lt =>
    refine ⟨_, .lt operand, fun r => ?_⟩
    simp [Test.holds_compare_iff, Operator.holds]
  | gte => exact ⟨_, .gte operand, fun r => Test.holds_gte_iff⟩
  | lte => exact ⟨_, .lte operand, fun r => Test.holds_lte_iff⟩
  | between | notBetween => cases single
  | _ => cases h

theorem means_of_built (h : p.Built settings value value2 op q) :
    ∃ meaning, op.Means p.type settings value value2 meaning ∧
      ∀ r, q.holds r ↔ meaning (r.read p.path) := by
  cases h with
  | null h => exact means_of_null h
  | label h type given => exact ⟨_, .label h type given, fun r => holds_labelPredicate⟩
  | text h type given => exact means_of_text h type given
  | eq plain operand => exact means_of_eq plain operand
  | ne operand => exact means_of_ne operand
  | range h _ first second => exact means_of_range h first second
  | order h single _ operand => exact means_of_order h single operand

end Property

theorem Operator.Means.null_iff {type : FieldType} {settings : ConditionSettings}
    {value value2 : Option String} {op : Operator} {meaning : Value → Prop}
    (h : op.Means type settings value value2 meaning) :
    meaning .null ↔ op = .isEmpty ∨ op = .ne ∨ op = .notContains ∨ op = .notBetween := by
  cases h with
  | label h => rcases h with rfl | rfl <;> simp
  | _ =>
    simp [Value.IsEmpty, Value.HasText, Value.AtLeast, Value.AtMost, Value.order?, Value.compareBy]

namespace Property

/-- A predicate that has been built for an operator says what the operator means, of every record.
Null satisfies four operators, and so does all that is read through it. -/
theorem holds_build_iff_meaning {p : Property} {settings : ConditionSettings}
    {value value2 : Option String} {op : Operator} {q : Predicate}
    (h : p.build op value value2 settings = .ok q) :
    ∃ meaning, op.Means p.type settings value value2 meaning ∧
      (∀ r, q.holds r ↔ meaning (r.read p.path)) ∧
      ∀ r names rest, names ≠ [] → p.path = names ++ rest → Record.read r names = .null →
        (q.holds r ↔ op = .isEmpty ∨ op = .ne ∨ op = .notContains ∨ op = .notBetween) := by
  obtain ⟨meaning, means, holds⟩ := means_of_built (built_of_build h)
  refine ⟨meaning, means, holds, ?_⟩
  intro r names rest some path null
  rw [holds, path, Record.read_append_of_null rest some null]
  exact means.null_iff

theorem holds_build_iff_meaning_floors :
    let p : Property := ⟨["unit", "floors"], .int, true⟩
    let settings : ConditionSettings := ⟨.declared, .caseInsensitive⟩
    let q := p.rangePredicate .between (.number (.signed 1)) (.number (.signed 3))
    let vacant : Record := [("unit", .null)]
    p.build .between (some "1") (some "3") settings = .ok q ∧ vacant.read ["unit"] = .null ∧
      (∃ meaning, Operator.Means p.type settings (some "1") (some "3") .between meaning ∧
        ∀ r, q.holds r ↔ meaning (r.read p.path)) ∧ ¬q.holds vacant := by
  intro p settings q vacant
  have built : p.build .between (some "1") (some "3") settings = .ok q := by rfl
  obtain ⟨meaning, means, holds, null⟩ := holds_build_iff_meaning built
  refine ⟨built, rfl, ⟨meaning, means, holds⟩, ?_⟩
  rw [null vacant ["unit"] ["floors"] (by decide) rfl rfl]
  decide

theorem not_only_isEmpty_or_ne_of_null :
    ¬∀ (p : Property) (settings : ConditionSettings) (value value2 : Option String) (op : Operator)
      (q : Predicate) (r : Record), p.build op value value2 settings = .ok q →
        r.read p.path = .null → (q.holds r ↔ op = .isEmpty ∨ op = .ne) := by
  intro only
  let p : Property := ⟨["note"], .string, true⟩
  have iff := only p ⟨.declared, .caseSensitive⟩ (some "lamp") none .notContains
    (p.textPredicate .notContains "lamp" .caseSensitive) [] rfl rfl
  have holds : (p.textPredicate .notContains "lamp" .caseSensitive).holds [] := rfl
  exact absurd (iff.1 holds) (by decide)

end Property

end RecordQuery
