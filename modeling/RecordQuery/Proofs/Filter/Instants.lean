import RecordQuery.Proofs.Calendar.Offset
import RecordQuery.Proofs.Condition.Built
import RecordQuery.Proofs.Filter.Skipped
import RecordQuery.Proofs.Value.Coercion

namespace RecordQuery

theorem DateTime.ShownAt.coerce_eq {t : DateTime} {offset : Int} {text : String}
    (h : t.ShownAt offset text) : coerce text .dateTime = .ok (.dateTime t) :=
  coerce_dateTime_of_read? h.trim_eq h.read?_eq

theorem DateTime.ShownAt.ne_empty {t : DateTime} {offset : Int} {text : String}
    (h : t.ShownAt offset text) : text ≠ "" := by
  rintro rfl
  cases h.read?_eq

inductive SameInstant : Option String → Option String → Prop
  | refl {text} : SameInstant text text
  | shown {t offset offset' text text'} : DateTime.ShownAt t offset text →
      DateTime.ShownAt t offset' text' → SameInstant (some text) (some text')

namespace Property

variable {p : Property} {op : Operator} {settings : ConditionSettings}
  {value value' value2 value2' : Option String}

theorem comparison_eq_of_sameInstant (date : p.type = .dateTime) (low : Scalar)
    (second : SameInstant value2 value2') :
    p.comparison op low value2 = p.comparison op low value2' := by
  cases second with
  | refl => rfl
  | shown h h' =>
    cases op with
    | between | notBetween =>
      simp [comparison, required, h.ne_empty, h'.ne_empty, coerceOrSkip, date, h.coerce_eq,
        h'.coerce_eq]
    | _ => rfl

theorem predicateFor_eq_of_coerce_eq (date : p.type = .dateTime) {s s' : String}
    (first : coerce s .dateTime = coerce s' .dateTime) (second : SameInstant value2 value2') :
    p.predicateFor op s value2 settings = p.predicateFor op s' value2' settings := by
  have unlabelled : ¬op.SearchesLabels p.type := by
    rintro ⟨-, e, enum⟩
    cases date.symm.trans enum
  rw [predicateFor_of_not_searchesLabels unlabelled, predicateFor_of_not_searchesLabels unlabelled]
  simp only [date, FieldType.isString, Bool.false_eq_true, if_false, coerceOrSkip, first,
    comparison_eq_of_sameInstant date _ second]

theorem build_eq_of_sameInstant (date : p.type = .dateTime) (first : SameInstant value value')
    (second : SameInstant value2 value2') :
    p.build op value value2 settings = p.build op value' value2' settings := by
  cases first with
  | refl => simp only [build, predicateFor_eq_of_coerce_eq date rfl second]
  | shown h h' =>
    have same := h.coerce_eq.trans h'.coerce_eq.symm
    simp only [build, required, h.ne_empty, h'.ne_empty, if_false, ok_bind,
      predicateFor_eq_of_coerce_eq date same second]

end Property

namespace Condition

variable {type : RecordType} {settings : ConditionSettings} {c c' : Condition}

structure SameInstants (type : RecordType) (c c' : Condition) : Prop where
  property : c'.property = c.property
  operation : c'.operation = c.operation
  logic : c'.logic = c.logic
  texts : c'.value = c.value ∧ c'.value2 = c.value2 ∨
    ∃ p, type.property c.property = .ok p ∧ p.type = .dateTime ∧
      SameInstant c'.value c.value ∧ SameInstant c'.value2 c.value2

namespace SameInstants

theorem compile_eq (h : SameInstants type c c') (settings : ConditionSettings) :
    c'.compile type settings = c.compile type settings := by
  obtain ⟨value, value2⟩ | ⟨p, found, date, first, second⟩ := h.texts
  · simp only [compile, h.property, h.operation, value, value2]
  · have found' : type.property c'.property = .ok p := by rw [h.property, found]
    cases known : Operator.read? c.operation with
    | none => rw [compile_of_unknown found known,
        compile_of_unknown found' (by rw [h.operation, known]), h.operation]
    | some op => rw [compile_eq_build found known,
        compile_eq_build found' (by rw [h.operation, known]),
        Property.build_eq_of_sameInstant date first second]

theorem groupLogic_eq (h : SameInstants type c c') : c'.groupLogic = c.groupLogic := by
  simp only [groupLogic, h.logic]

end SameInstants

end Condition

namespace Filter

variable {type : RecordType} {settings : ConditionSettings} {cs cs' : List Condition}

theorem foldl_step_eq_of_sameInstants (same : List.Forall₂ (Condition.SameInstants type) cs cs')
    (n : Nat) (s : Progress) :
    (cs'.zipIdx n).foldl (Progress.step (·.compile type settings)) s =
      (cs.zipIdx n).foldl (Progress.step (·.compile type settings)) s := by
  induction same generalizing n s with
  | nil => rfl
  | cons first _ ih =>
    simp only [List.zipIdx_cons, List.foldl_cons, ih]
    rw [Progress.step_eq_of_agree first.property first.groupLogic_eq (first.compile_eq settings)]

theorem compile_eq_of_sameInstants (same : List.Forall₂ (Condition.SameInstants type) cs cs')
    (settings : ConditionSettings) : compile type settings cs' = compile type settings cs := by
  rw [compile, compile, foldl_step_eq_of_sameInstants same]

end Filter

/-- At every offset of less than a day a point in time has its local time and, where the year of
that takes four digits, texts. Each of them is read as the point in time itself, so that it does not
matter at which offset conditions name the instants that they ask for. -/
theorem DateTime.read_alike_at_every_offset (t : DateTime) {offset : Int} (west : -1440 < offset)
    (east : offset < 1440) :
    (∃ u, LaterBy offset t u ∧ (u.HasPlainYear → ∃ text, t.ShownAt offset text)) ∧
      (∀ text, t.ShownAt offset text → coerce text .dateTime = .ok (.dateTime t)) ∧
      ∀ (type : RecordType) (settings : ConditionSettings) (cs cs' : List Condition),
        List.Forall₂ (Condition.SameInstants type) cs cs' →
        Filter.compile type settings cs' = Filter.compile type settings cs := by
  refine ⟨?_, fun text shown => shown.coerce_eq, fun type settings cs cs' same =>
    Filter.compile_eq_of_sameInstants same settings⟩
  obtain ⟨u, later⟩ := exists_laterBy west east t
  exact ⟨u, later, exists_shownAt west east later⟩

theorem DateTime.read_alike_at_every_offset_new_year :
    let type : RecordType := ⟨fun _ => ⟨"Visit", [⟨"started", .dateTime, true⟩]⟩, 0⟩
    let settings : ConditionSettings := ⟨.declared, .caseInsensitive⟩
    let eve : DateTime := ⟨⟨2023, 12, 31, by decide, by decide⟩,
      ⟨23, 30, 0, 250000000, by decide, by decide, by decide, by decide⟩⟩
    let leap : DateTime := ⟨⟨2024, 2, 29, by decide, by decide⟩,
      ⟨23, 30, 59, 0, by decide, by decide, by decide, by decide⟩⟩
    eve.ShownAt 345 "2024-01-01T05:15:00.25+05:45" ∧
      coerce "2024-01-01T05:15:00.25+05:45" .dateTime = .ok (.dateTime eve) ∧
      leap.ShownAt (-1425) "2024-02-28T23:45:59-23:45" ∧
      coerce "2024-02-28T23:45:59-23:45" .dateTime = .ok (.dateTime leap) ∧
      Filter.compile type settings [⟨"started", "between", some "2024-01-01T05:15:00.25+05:45",
        some "2024-02-28T23:45:59-23:45", none⟩] =
      Filter.compile type settings [⟨"started", "between", some "2023-12-31T23:30:00.250Z",
        some "2024-02-29T23:30:59Z", none⟩] := by
  intro type settings eve leap
  let eveLocal : DateTime := ⟨⟨2024, 1, 1, by decide, by decide⟩,
    ⟨5, 15, 0, 250000000, by decide, by decide, by decide, by decide⟩⟩
  let leapLocal : DateTime := ⟨⟨2024, 2, 28, by decide, by decide⟩,
    ⟨23, 45, 59, 0, by decide, by decide, by decide, by decide⟩⟩
  have two : ShowsFraction 250000000 ['.', '2', '5'] :=
    @ShowsFraction.digits 250000000 2 (by decide) (by decide) (by decide +kernel)
  have three : ShowsFraction 250000000 ['.', '2', '5', '0'] :=
    @ShowsFraction.digits 250000000 3 (by decide) (by decide) (by decide +kernel)
  have eveEast : eve.ShownAt 345 "2024-01-01T05:15:00.25+05:45" :=
    @ShownAt.of_eq eve 345 _ eveLocal _ _ ⟨by decide +kernel, rfl, rfl⟩ ⟨by decide, by decide⟩
      (.short two) (@ShowsOffset.east 345 (by decide)) (by decide +kernel)
  have eveUtc : eve.ShownAt 0 "2023-12-31T23:30:00.250Z" :=
    @ShownAt.of_eq eve 0 _ eve _ _ ⟨by decide +kernel, rfl, rfl⟩ ⟨by decide, by decide⟩
      (.short three) .utc (by decide +kernel)
  have leapWest : leap.ShownAt (-1425) "2024-02-28T23:45:59-23:45" :=
    @ShownAt.of_eq leap (-1425) _ leapLocal _ _ ⟨by decide +kernel, rfl, rfl⟩
      ⟨by decide, by decide⟩ (.short (.whole rfl)) (@ShowsOffset.west 1425 (by decide))
      (by decide +kernel)
  have leapUtc : leap.ShownAt 0 "2024-02-29T23:30:59Z" :=
    @ShownAt.of_eq leap 0 _ leap _ _ ⟨by decide +kernel, rfl, rfl⟩ ⟨by decide, by decide⟩
      (.short (.whole rfl)) .utc (by decide +kernel)
  obtain ⟨-, readEve, alike⟩ := @read_alike_at_every_offset eve 345 (by decide) (by decide)
  obtain ⟨-, readLeap, -⟩ := @read_alike_at_every_offset leap (-1425) (by decide) (by decide)
  refine ⟨eveEast, readEve _ eveEast, leapWest, readLeap _ leapWest, alike _ _ _ _ (.cons ?_ .nil)⟩
  exact ⟨rfl, rfl, rfl, .inr ⟨⟨["started"], .dateTime, true⟩, by decide +kernel, rfl,
    .shown eveEast eveUtc, .shown leapWest leapUtc⟩⟩

end RecordQuery
