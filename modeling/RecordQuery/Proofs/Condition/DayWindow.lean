import RecordQuery.Proofs.Calendar.DayNumber
import RecordQuery.Proofs.Calendar.Text
import RecordQuery.Proofs.Condition.Operators

namespace RecordQuery

structure Condition.Asks (c : Condition) (property : String) (op : Operator) (text : String) :
    Prop where
  property : c.property = property
  operation : Operator.read? c.operation = some op
  value : c.value = some text

theorem Condition.Asks.compile_eq {c : Condition} {property text : String} {op : Operator}
    (h : c.Asks property op text) {type : RecordType} {p : Property}
    (found : type.property property = .ok p) (settings : ConditionSettings) :
    c.compile type settings = p.build op (some text) c.value2 settings := by
  rw [compile_eq_build (h.property ▸ found) h.operation, h.value]

theorem coerce_render_date {d : Date} (range : d.InRange) :
    coerce d.render .dateTime = .ok (.dateTime (.startOf d)) := by
  refine coerce_dateTime_of_read? (Text.trim_eq_self ?_) (DateTime.read?_render_date range)
  rw [Date.render, String.toList_ofList]
  exact Text.trimChars_of_forall fun _ => Date.isBlank_of_mem_renderChars

namespace Property

variable {p : Property} {text : String} {t : DateTime} {r : Record}

theorem operand_of_coerce (date : p.type = .dateTime)
    (read : coerce text .dateTime = .ok (.dateTime t)) :
    Operand p.type (some text) (.dateTime t) := by
  refine ⟨text, rfl, ?_, date ▸ read⟩
  rintro rfl
  cases read

theorem holds_eq_iff_within :
    (p.clause (equalityTest .eq (.dateTime t))).holds r ↔
      ∃ u, r.read p.path = .scalar (.dateTime u) ∧ u.Within t.date := by
  simp [equalityTest, Test.holds_compareDate_iff, Operator.holds, Date.compare_eq_iff,
    DateTime.within_iff]

theorem holds_ne_iff_not_within :
    (Predicate.any [p.clause (equalityTest .ne (.dateTime t)), p.clause .null]).holds r ↔
      r.read p.path = .null ∨ ∃ u, r.read p.path = .scalar (.dateTime u) ∧ ¬u.Within t.date := by
  rw [holds_clause_null_or_iff]
  simp [equalityTest, Test.holds_compareDate_iff, Operator.holds, Date.compare_eq_iff,
    DateTime.within_iff]

theorem holds_bounds_iff_within {d : Date} :
    (p.clause (.compare .gte (.dateTime (.startOf d)))).holds r ∧
      (p.clause (.compare .lt (.dateTime (.startOf d.next)))).holds r ↔
      ∃ u, r.read p.path = .scalar (.dateTime u) ∧ u.Within d := by
  simp only [holds_clause, Test.holds_compare_iff, Value.order?_dateTime_eq_some, Operator.holds,
    bne_iff_ne, beq_iff_eq]
  constructor
  · rintro ⟨⟨_, ⟨u, held, rfl⟩, low⟩, _, ⟨u', held', rfl⟩, high⟩
    rw [held] at held'
    cases held'
    exact ⟨u, held, low, high⟩
  · rintro ⟨u, held, low, high⟩
    exact ⟨⟨_, ⟨u, held, rfl⟩, low⟩, _, ⟨u, held, rfl⟩, high⟩

end Property

/-- Equality of a date and time with a text selects the day of the text, from its midnight up to the
midnight after it, and inequality selects null and all other points in time. The two midnights
themselves, by whatever texts they are given, bound the same records; the texts of the two dates
will do. -/
theorem Condition.equality_selects_day {type : RecordType} {settings : ConditionSettings}
    {property text : String} {p : Property} {t : DateTime}
    (found : type.property property = .ok p) (date : p.type = .dateTime)
    (read : coerce text .dateTime = .ok (.dateTime t)) :
    ∃ eq ne : Predicate,
      (∀ c : Condition, c.Asks property .eq text → c.compile type settings = .ok eq) ∧
      (∀ c : Condition, c.Asks property .ne text → c.compile type settings = .ok ne) ∧
      (∀ r, eq.holds r ↔ ∃ u, r.read p.path = .scalar (.dateTime u) ∧ u.Within t.date) ∧
      (∀ r, ne.holds r ↔
        r.read p.path = .null ∨ ∃ u, r.read p.path = .scalar (.dateTime u) ∧ ¬u.Within t.date) ∧
      (∀ first behind, coerce first .dateTime = .ok (.dateTime (.startOf t.date)) →
        coerce behind .dateTime = .ok (.dateTime (.startOf t.date.next)) →
        ∃ gte lt : Predicate,
          (∀ c : Condition, c.Asks property .gte first → c.compile type settings = .ok gte) ∧
          (∀ c : Condition, c.Asks property .lt behind → c.compile type settings = .ok lt) ∧
          ∀ r, eq.holds r ↔ gte.holds r ∧ lt.holds r) ∧
      ∀ d : Date, d.InRange → coerce d.render .dateTime = .ok (.dateTime (.startOf d)) := by
  have plain : p.type.enum? = none := by
    rw [date]
    rfl
  have ordered : p.type.isOrdered := by
    rw [date]
    rfl
  have operand := Property.operand_of_coerce date read
  refine ⟨p.clause (equalityTest .eq (.dateTime t)),
    .any [p.clause (equalityTest .ne (.dateTime t)), p.clause .null], fun c asks => ?_,
    fun c asks => ?_, fun r => Property.holds_eq_iff_within,
    fun r => Property.holds_ne_iff_not_within, fun first behind low high => ?_,
    fun d => coerce_render_date⟩
  · rw [asks.compile_eq found]
    exact Property.build_of_equality (.inl rfl) plain operand
  · rw [asks.compile_eq found]
    exact Property.build_of_equality (.inr rfl) plain operand
  · refine ⟨p.clause (.compare .gte (.dateTime (.startOf t.date))),
      p.clause (.compare .lt (.dateTime (.startOf t.date.next))), fun c asks => ?_,
      fun c asks => ?_, fun r => ?_⟩
    · rw [asks.compile_eq found, Property.build_bound_eq_ok (by decide) (by decide) ordered
        (Property.operand_of_coerce date low)]
    · rw [asks.compile_eq found, Property.build_bound_eq_ok (by decide) (by decide) ordered
        (Property.operand_of_coerce date high)]
    · rw [Property.holds_eq_iff_within, Property.holds_bounds_iff_within]

theorem Condition.equality_selects_day_leap :
    let type : RecordType := ⟨fun _ => ⟨"Visit", [⟨"started", .dateTime, true⟩]⟩, 0⟩
    let p : Property := ⟨["started"], .dateTime, true⟩
    let settings : ConditionSettings := ⟨.declared, .caseInsensitive⟩
    let asks (op text : String) : Condition := ⟨"started", op, some text, none, none⟩
    let evening : DateTime := ⟨⟨2024, 2, 29, by decide, by decide⟩,
      ⟨1, 0, 0, 0, by decide, by decide, by decide, by decide⟩⟩
    let last : DateTime := ⟨⟨2024, 2, 29, by decide, by decide⟩,
      ⟨23, 59, 60, 999999999, by decide, by decide, by decide, by decide⟩⟩
    let visit : Record := [("started", .scalar (.dateTime last))]
    type.property "started" = .ok p ∧
      coerce "2024-02-28T22:30:00-02:30" .dateTime = .ok (.dateTime evening) ∧
      ∃ eq ne gte lt : Predicate,
        (asks "eq" "2024-02-28T22:30:00-02:30").compile type settings = .ok eq ∧
        (asks "neq" "2024-02-28T22:30:00-02:30").compile type settings = .ok ne ∧
        (asks "gte" "2024-02-29").compile type settings = .ok gte ∧
        (asks "lt" "2024-03-01").compile type settings = .ok lt ∧
        eq.holds visit ∧ gte.holds visit ∧ lt.holds visit ∧ ¬ne.holds visit ∧ ne.holds [] := by
  intro type p settings asks evening last visit
  have found : type.property "started" = .ok p := by decide +kernel
  have read : coerce "2024-02-28T22:30:00-02:30" .dateTime = .ok (.dateTime evening) := by
    decide +kernel
  obtain ⟨eq, ne, compilesEq, compilesNe, holdsEq, holdsNe, bounds, dates⟩ :=
    @Condition.equality_selects_day type settings _ _ p evening found rfl read
  have today : evening.date.render = "2024-02-29" := by decide +kernel
  have tomorrow : evening.date.next.render = "2024-03-01" := by decide +kernel
  have first := dates evening.date ⟨by decide, by decide⟩
  have behind := dates evening.date.next ⟨by decide, by decide⟩
  rw [today] at first
  rw [tomorrow] at behind
  obtain ⟨gte, lt, compilesGte, compilesLt, both⟩ := bounds _ _ first behind
  have within : last.Within evening.date := DateTime.within_iff.2 rfl
  have held : eq.holds visit := (holdsEq visit).2 ⟨last, rfl, within⟩
  refine ⟨found, read, eq, ne, gte, lt, compilesEq _ ⟨rfl, by decide +kernel, rfl⟩,
    compilesNe _ ⟨rfl, by decide +kernel, rfl⟩, compilesGte _ ⟨rfl, by decide +kernel, rfl⟩,
    compilesLt _ ⟨rfl, by decide +kernel, rfl⟩, held, ((both visit).1 held).1,
    ((both visit).1 held).2, ?_, (holdsNe []).2 (.inl rfl)⟩
  rw [holdsNe]
  rintro (⟨⟨⟩⟩ | ⟨u, other, apart⟩)
  cases other
  exact apart within

end RecordQuery
