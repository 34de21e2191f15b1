import RecordQuery.Proofs.Condition.Operators
import RecordQuery.Proofs.Filter.Usable
import RecordQuery.Proofs.Value.Shown

namespace RecordQuery

theorem Test.holds_equalityTest {v : Value} {c : Scalar} (h : v.order? c = some .eq) :
    (equalityTest .eq c).holds v = true := by
  cases c with
  | dateTime t =>
    obtain ⟨u, rfl, same⟩ := Value.order?_dateTime_eq_some.1 h
    have date : u.date.compare t.date = .eq := (Ordering.then_eq_eq.1 same).1
    exact holds_compareDate_iff.2 ⟨u, rfl, by rw [date]; rfl⟩
  | _ => exact holds_eq_iff.2 h

def Property.Shows (p : Property) (r : Record) (text : String) : Prop :=
  ∃ s, r.read p.path = .scalar s ∧ (Value.scalar s).HasType p.type ∧ s.ShownAs text

inductive Condition.AsksForShown (type : RecordType) (r : Record) (c : Condition) : Prop
  | eq {p text} : type.property c.property = .ok p → p.Shows r text →
      Operator.read? c.operation = some .eq → c.value = some text → AsksForShown type r c
  | between {p text} : type.property c.property = .ok p → p.Shows r text →
      p.type.isOrdered → Operator.read? c.operation = some .between → c.value = some text →
      c.value2 = some text → AsksForShown type r c

theorem Property.Shows.exists_operand {p : Property} {r : Record} {text : String}
    (h : p.Shows r text) : p.type.enum? = none ∧
      ∃ c, Operand p.type (some text) c ∧ (r.read p.path).order? c = some .eq := by
  obtain ⟨s, read, typed, shown⟩ := h
  obtain ⟨c, coerced, order⟩ := shown.exists_coerce typed
  exact ⟨shown.enum?_eq_none typed, c, ⟨text, rfl, shown.ne_empty typed, coerced⟩, read ▸ order⟩

theorem Condition.AsksForShown.exists_compile {type : RecordType} {r : Record} {c : Condition}
    (h : c.AsksForShown type r) (settings : ConditionSettings) :
    ∃ q, c.compile type settings = .ok q ∧ q.holds r = true := by
  cases h with
  | @eq p _ found shows known value =>
    obtain ⟨plain, low, operand, order⟩ := shows.exists_operand
    refine ⟨p.clause (equalityTest .eq low), ?_, Test.holds_equalityTest order⟩
    rw [compile_eq_build found known, value]
    exact Property.build_of_equality (.inl rfl) plain operand
  | between found shows ordered known value value2 =>
    obtain ⟨-, low, operand, order⟩ := shows.exists_operand
    refine ⟨_, ?_, Property.holds_rangePredicate_between.2 ⟨.inr order, .inr order⟩⟩
    rw [compile_eq_build found known, value, value2,
      Property.build_between_eq_ok ordered operand operand]

theorem ConditionGroup.all_predicate?_of_forall {g : ConditionGroup} {r : Record}
    (h : ∀ q ∈ g.predicates, q.holds r = true) : g.predicate?.all (·.holds r) = true := by
  rw [predicate?, Logic.all_combine?_iff]
  cases g.logic with
  | and => exact h
  | or =>
    cases first : g.predicates with
    | nil => exact .inl rfl
    | cons q qs => exact .inr ⟨q, List.mem_cons_self, h q (first ▸ List.mem_cons_self)⟩

namespace Filter

/-- Conditions that ask for values as a record shows them are all accepted, each by itself and all
together, and the record satisfies each of them and their filter. -/
theorem holds_compile_of_shown {type : RecordType} {r : Record} {conditions : List Condition}
    (shown : ∀ c ∈ conditions, c.AsksForShown type r) (settings : ConditionSettings) :
    (∀ c ∈ conditions, ∃ q, c.compile type settings = .ok q ∧ q.holds r = true) ∧
      (compile type settings conditions).skipped = [] ∧
      (compile type settings conditions).holds r = true := by
  have each c (hc : c ∈ conditions) := (shown c hc).exists_compile settings
  refine ⟨each, List.eq_nil_iff_forall_not_mem.2 fun x skipped => ?_, ?_⟩
  · obtain ⟨c, place, -, fails⟩ := mem_skipped_iff.1 skipped
    obtain ⟨q, compiled, -⟩ := each c (List.mem_of_getElem? place)
    rw [compiled] at fails
    cases fails
  · refine (holds_compile_iff_groups r).2 fun name => ?_
    refine ConditionGroup.all_predicate?_of_forall fun q hq => ?_
    obtain ⟨c, hc, -, compiled⟩ := mem_predicates_ofConditions.1 hq
    obtain ⟨q', compiled', holds⟩ := each c hc
    cases compiled.symm.trans compiled'
    exact holds

theorem holds_compile_of_shown_invoice :
    let type : RecordType := ⟨fun _ => ⟨"Invoice", [⟨"amount", .decimal, false⟩,
      ⟨"issued", .dateTime, false⟩, ⟨"number", .int, false⟩]⟩, 0⟩
    let amount : Decimal := ⟨true, 150, 2, by decide, by decide⟩
    let issued : DateTime := ⟨⟨2024, 2, 29, by decide, by decide⟩,
      ⟨23, 59, 60, 500000000, by decide, by decide, by decide, by decide⟩⟩
    let number : UInt64 := 18446744073709551615
    let invoice : Record := [("amount", .scalar (.number (.decimal amount))),
      ("issued", .scalar (.dateTime issued)), ("number", .scalar (.number (.unsigned number)))]
    let conditions : List Condition := [
      ⟨"amount", "between", some "-1.50", some "-1.50", none⟩,
      ⟨"issued", "eq", some "2024-02-29 23:59:60.5", none, none⟩,
      ⟨"number", "eq", some "18446744073709551615", none, none⟩]
    (∀ c ∈ conditions, c.AsksForShown type invoice) ∧
      (compile type ⟨.declared, .caseInsensitive⟩ conditions).skipped = [] ∧
      (compile type ⟨.declared, .caseInsensitive⟩ conditions).holds invoice = true := by
  intro type amount issued number invoice conditions
  have eq : Operator.read? "eq" = some .eq := by decide +kernel
  have between : Operator.read? "between" = some .between := by decide +kernel
  have amounts : (Scalar.number (.decimal amount)).ShownAs "-1.50" := by
    have text : amount.render = "-1.50" := by decide +kernel
    exact text ▸ .decimal
  have issues : (Scalar.dateTime issued).ShownAs "2024-02-29 23:59:60.5" := by
    have half : ShowsFraction 500000000 ['.', '5'] :=
      @ShowsFraction.digits 500000000 1 (by decide) (by decide) (by decide +kernel)
    have text : String.ofList (issued.isoChars ' ' ['.', '5']) = "2024-02-29 23:59:60.5" := by
      decide +kernel
    exact text ▸ .dateTime ⟨by decide, by decide⟩ (.inr rfl) half
  have numbers : (Scalar.number (.unsigned number)).ShownAs "18446744073709551615" := by
    have text : Text.naturalText number.toNat = "18446744073709551615" := by decide +kernel
    exact text ▸ .unsigned
  have shown : ∀ c ∈ conditions, c.AsksForShown type invoice := by
    simp only [conditions, List.forall_mem_cons, List.not_mem_nil, false_implies, implies_true,
      and_true]
    refine ⟨.between rfl ⟨_, rfl, .decimal, amounts⟩ rfl between rfl rfl,
      .eq rfl ⟨_, rfl, .dateTime, issues⟩ eq rfl, .eq rfl ⟨_, rfl, .unsigned, numbers⟩ eq rfl⟩
  obtain ⟨-, skipped, holds⟩ := holds_compile_of_shown shown ⟨.declared, .caseInsensitive⟩
  exact ⟨shown, skipped, holds⟩

end Filter

end RecordQuery
