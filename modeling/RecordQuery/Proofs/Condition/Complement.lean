import RecordQuery.Proofs.Condition.Operators

namespace RecordQuery

namespace Test

variable {v : Value} {c : Scalar} {t : FieldType}

theorem holds_compare_of_order {o : Ordering} (h : v.order? c = some o) (op : Operator) :
    (compare op c).holds v = op.holds o := by
  rw [Bool.eq_iff_iff, holds_compare_iff, h]
  simp

theorem exists_order_of_hasPlace (hc : c.ReadsAs t) (hv : v.HasPlace t) :
    ∃ o, ∀ op, (equalityTest op c).holds v = op.holds o := by
  obtain ⟨typed, last⟩ := hv
  by_cases date : t = .dateTime
  · subst date
    cases hc
    cases typed with
    | null => cases last
    | dateTime => exact ⟨_, fun op => rfl⟩
  · cases order : v.order? c with
    | none =>
      rw [Value.sortsLast_of_order?_eq_none typed hc order] at last
      cases last
    | some o =>
      refine ⟨o, fun op => ?_⟩
      rw [equalityTest_of_ne hc date, holds_compare_of_order order]

theorem holds_equalityTest_of_sortsLast (last : v.sortsLast = true) (op : Operator) (c : Scalar) :
    (equalityTest op c).holds v = false := by
  have apart : (compare op c).holds v = false := by
    rw [Bool.eq_false_iff]
    intro holds
    obtain ⟨o, order, -⟩ := holds_compare_iff.1 holds
    rw [Value.order?_eq_none_of_sortsLast last] at order
    cases order
  cases c with
  | dateTime =>
    cases v with
    | scalar s =>
      cases s with
      | dateTime => cases last
      | _ => rfl
    | _ => rfl
  | _ => exact apart

end Test

namespace Property

variable {p : Property} {settings : ConditionSettings} {value value2 : Option String}
  {q : Predicate}

theorem exists_operand_of_built_eq (plain : p.type.enum? = none)
    (h : p.Built settings value value2 .eq q) :
    ∃ low, Operand p.type value low ∧ q = p.clause (equalityTest .eq low) := by
  cases h with
  | eq _ operand => exact ⟨_, operand, rfl⟩
  | label _ type =>
    rw [type] at plain
    cases plain
  | null h => cases h
  | text h => cases h
  | range h => cases h
  | order h => cases h

theorem holds_ne_eq {low : Scalar} {r : Record} :
    (Predicate.any [p.clause (equalityTest .ne low), p.clause .null]).holds r =
      ((equalityTest .ne low).holds (r.read p.path) || (r.read p.path).isNull) := by
  simp [Predicate.holds, Test.holds]

theorem holds_ne_eq_not_holds_eq {low : Scalar} {r : Record} (read : low.ReadsAs p.type)
    (typed : (r.read p.path).HasType p.type) (number : (r.read p.path).isNaN = false) :
    (Predicate.any [p.clause (equalityTest .ne low), p.clause .null]).holds r =
      !(p.clause (equalityTest .eq low)).holds r := by
  rw [holds_ne_eq, holds_clause]
  cases null : (r.read p.path).isNull with
  | true =>
    -- Both comparisons fail on null, which the inequality lets pass by its other test.
    have last : (r.read p.path).sortsLast = true := by simp [Value.sortsLast, null]
    rw [Test.holds_equalityTest_of_sortsLast last, Test.holds_equalityTest_of_sortsLast last]
    rfl
  | false =>
    have last : (r.read p.path).sortsLast = false := by simp [Value.sortsLast, null, number]
    obtain ⟨o, holds⟩ := Test.exists_order_of_hasPlace read ⟨typed, last⟩
    rw [holds, holds, Bool.or_false]
    rfl

theorem holds_eq_and_ne_of_isNaN (low : Scalar) {r : Record}
    (nan : (r.read p.path).isNaN = true) :
    (p.clause (equalityTest .eq low)).holds r = false ∧
      (Predicate.any [p.clause (equalityTest .ne low), p.clause .null]).holds r = false := by
  have last : (r.read p.path).sortsLast = true := by simp [Value.sortsLast, nan]
  have present : (r.read p.path).isNull = false := by
    cases read : r.read p.path with
    | null =>
      rw [read] at nan
      cases nan
    | _ => rfl
  rw [holds_ne_eq, holds_clause, Test.holds_equalityTest_of_sortsLast last,
    Test.holds_equalityTest_of_sortsLast last, present]
  exact ⟨rfl, rfl⟩

end Property

namespace Condition

variable {type : RecordType} {settings : ConditionSettings} {c c' : Condition} {p : Property}
  {q : Predicate}

/-- Where a condition that asks for equality is accepted, so is one that asks for inequality with
the same text. A record of the type satisfies exactly one of them, unless the value that it holds is
not a number: then it satisfies neither. -/
theorem exists_complement_of_compile_eq (found : type.property c.property = .ok p)
    (plain : p.type.enum? = none) (eq : Operator.read? c.operation = some .eq)
    (compiled : c.compile type settings = .ok q) (same : c'.property = c.property)
    (ne : Operator.read? c'.operation = some .ne) (text : c'.value = c.value) :
    ∃ q', c'.compile type settings = .ok q' ∧
      ∀ r : Record, (r.read p.path).HasType p.type →
        (q'.holds r = !q.holds r ↔ (r.read p.path).isNaN = false) ∧
          ((r.read p.path).isNaN = true → q.holds r = false ∧ q'.holds r = false) := by
  rw [compile_eq_build found eq] at compiled
  obtain ⟨low, operand, rfl⟩ :=
    Property.exists_operand_of_built_eq plain (Property.built_of_build compiled)
  refine ⟨.any [p.clause (equalityTest .ne low), p.clause .null], ?_, fun r typed => ?_⟩
  · rw [compile_eq_build (same ▸ found) ne, text]
    exact Property.build_of_equality (.inr rfl) plain operand
  · refine ⟨⟨fun apart => ?_, Property.holds_ne_eq_not_holds_eq operand.readsAs typed⟩,
      Property.holds_eq_and_ne_of_isNaN low⟩
    by_contra nan
    obtain ⟨neither, neither'⟩ :=
      Property.holds_eq_and_ne_of_isNaN low (Bool.eq_true_of_not_eq_false nan)
    rw [neither, neither'] at apart
    cases apart

theorem exists_complement_of_compile_eq_level :
    let type : RecordType := ⟨fun _ => ⟨"Gauge", [⟨"level", .float, true⟩]⟩, 0⟩
    let p : Property := ⟨["level"], .float, true⟩
    let settings : ConditionSettings := ⟨.declared, .caseInsensitive⟩
    let one : Scalar := .number (.float ⟨0x3FF0000000000000⟩)
    let c : Condition := ⟨"level", "eq", some "1", none, none⟩
    let c' : Condition := ⟨"level", "neq", some "1", none, none⟩
    let unset : Record := [("level", .null)]
    let set : Record := [("level", .scalar one)]
    c.compile type settings = .ok (p.clause (.compare .eq one)) ∧
      ∃ q', c'.compile type settings = .ok q' ∧ q'.holds unset = true ∧ q'.holds set = false := by
  intro type p settings one c c' unset set
  have found : type.property c.property = .ok p := by decide +kernel
  have eq : Operator.read? c.operation = some .eq := by decide +kernel
  have ne : Operator.read? c'.operation = some .ne := by decide +kernel
  have read : coerce "1" .float = .ok one := by decide +kernel
  have built : p.build .eq (some "1") none settings = .ok (p.clause (equalityTest .eq one)) :=
    Property.build_of_equality (.inl rfl) rfl ⟨"1", rfl, by decide, read⟩
  have compiled : c.compile type settings = .ok (p.clause (.compare .eq one)) :=
    (compile_eq_build found eq settings).trans built
  have same : c'.property = c.property := rfl
  obtain ⟨q', compiled', holds⟩ :=
    exists_complement_of_compile_eq found rfl eq compiled same ne rfl
  refine ⟨compiled, q', compiled', (holds unset .null).1.2 rfl, ?_⟩
  have number : (set.read p.path).isNaN = false := by decide +kernel
  have equal : (p.clause (.compare .eq one)).holds set = true := by decide +kernel
  rw [(holds set .float).1.2 number, equal]
  rfl

theorem neither_eq_nor_ne_of_nan :
    let type : RecordType := ⟨fun _ => ⟨"Gauge", [⟨"level", .float, true⟩]⟩, 0⟩
    let p : Property := ⟨["level"], .float, true⟩
    let settings : ConditionSettings := ⟨.declared, .caseInsensitive⟩
    let one : Scalar := .number (.float ⟨0x3FF0000000000000⟩)
    let c : Condition := ⟨"level", "eq", some "1", none, none⟩
    let c' : Condition := ⟨"level", "neq", some "1", none, none⟩
    let q := p.clause (.compare .eq one)
    let q' := Predicate.any [p.clause (.compare .ne one), p.clause .null]
    let broken : Record := [("level", .scalar (.number (.float .nan)))]
    type.property c.property = .ok p ∧ p.type.enum? = none ∧
      c.compile type settings = .ok q ∧ c'.compile type settings = .ok q' ∧
      (broken.read p.path).HasType p.type ∧ q.holds broken = false ∧ q'.holds broken = false := by
  intro type p settings one c c' q q' broken
  have found : type.property c.property = .ok p := by decide +kernel
  have eq : Operator.read? c.operation = some .eq := by decide +kernel
  have ne : Operator.read? c'.operation = some .ne := by decide +kernel
  have operand : Property.Operand p.type (some "1") one := ⟨"1", rfl, by decide, by decide +kernel⟩
  have nan : (broken.read p.path).isNaN = true := by decide +kernel
  have same : type.property c'.property = .ok p := found
  refine ⟨found, rfl, ?_, ?_, .float, Property.holds_eq_and_ne_of_isNaN one nan⟩
  · rw [compile_eq_build found eq]
    exact Property.build_of_equality (.inl rfl) rfl operand
  · rw [compile_eq_build same ne]
    exact Property.build_of_equality (.inr rfl) rfl operand

end Condition

end RecordQuery
