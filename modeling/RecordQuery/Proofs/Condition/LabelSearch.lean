import RecordQuery.Filter
import RecordQuery.Proofs.Condition.Operators

namespace RecordQuery

inductive Labels.Displays (labels : Labels) (e : EnumType) (v : Variant) : String → Prop
  | label {s} : labels e v.value = some s → Displays labels e v s
  | name : labels e v.value = none → Displays labels e v v.name

def Labels.Finds (labels : Labels) (e : EnumType) (needle : String) (v : Variant) : Prop :=
  ∃ s, labels.Displays e v s ∧ (Text.lower needle).toList <:+: (Text.lower s).toList

namespace Labels

variable {labels : Labels} {e : EnumType} {v : Variant} {needle s : String}

theorem displays_iff : labels.Displays e v s ↔ labels.display e v = s := by
  rw [display]
  constructor
  · intro h
    cases h with
    | label given => rw [given, Option.getD_some]
    | name none => rw [none, Option.getD_none]
  · rintro rfl
    cases given : labels e v.value with
    | some s => exact .label given
    | none => exact .name given

theorem finds_iff :
    labels.Finds e needle v ↔
      Text.contains (Text.lower (labels.display e v)) (Text.lower needle) = true := by
  simp only [Finds, displays_iff, Text.contains_iff, exists_eq_left']

theorem Displays.finds (h : labels.Displays e v needle) : labels.Finds e needle v :=
  ⟨needle, h, List.infix_rfl⟩

end Labels

theorem EnumType.mem_search_iff {e : EnumType} {labels : Labels} {needle : String} {n : Int64} :
    n ∈ e.search labels needle ↔ ∃ v ∈ e.variants, labels.Finds e needle v ∧ v.value = n := by
  simp [search, Labels.finds_iff, and_assoc]

namespace Property

variable {p : Property} {e : EnumType} {settings : ConditionSettings} {needle : String} {r : Record}

theorem holds_labelPredicate_iff :
    (p.labelPredicate e settings.labels needle).holds r ↔
      ∃ v ∈ e.variants, settings.labels.Finds e needle v ∧
        r.read p.path = .scalar (.member v.value) := by
  rw [holds_labelPredicate]
  constructor
  · rintro ⟨n, found, read⟩
    obtain ⟨v, hv, finds, rfl⟩ := EnumType.mem_search_iff.1 found
    exact ⟨v, hv, finds, read⟩
  · rintro ⟨v, hv, finds, read⟩
    exact ⟨v.value, EnumType.mem_search_iff.2 ⟨v, hv, finds, rfl⟩, read⟩

end Property

theorem Filter.compile_singleton {type : RecordType} {settings : ConditionSettings} {c : Condition}
    {q : Predicate} (h : c.compile type settings = .ok q) :
    compile type settings [c] = ⟨q, []⟩ := by
  have read : Progress.start.step (·.compile type settings) (c, 0) =
      ⟨ConditionGroup.add c (some q) [], []⟩ := by
    simp only [Progress.step, h, Progress.start]
  calc
    _ = (Progress.start.step (·.compile type settings) (c, 0)).filter := rfl
    _ = _ := by rw [read]; rfl

namespace Condition

/-- Equality with a text and containment of it are one predicate on a property of an enumeration,
and neither is skipped. It holds of a record that stores the value of a member whose displayed text
contains the needle, and of no other: not of null, of what is stored for no member, nor of any
record where no member is found. A member is found by the whole of its displayed text. -/
theorem compile_finds_by_label {type : RecordType} {path needle : String} {p : Property}
    {e : EnumType} (found : type.property path = .ok p) (enum : p.type = .enum e)
    (filled : needle ≠ "") (settings : ConditionSettings) :
    ∃ q, (∀ c : Condition, c.property = path → c.value = some needle →
        Operator.read? c.operation = some .eq ∨ Operator.read? c.operation = some .contains →
        c.compile type settings = .ok q ∧ Filter.compile type settings [c] = ⟨q, []⟩) ∧
      (∀ r, q.holds r ↔ ∃ v ∈ e.variants, settings.labels.Finds e needle v ∧
        r.read p.path = .scalar (.member v.value)) ∧
      (∀ r, (∀ v ∈ e.variants, r.read p.path ≠ .scalar (.member v.value)) → q.holds r = false) ∧
      ((∀ v ∈ e.variants, ¬settings.labels.Finds e needle v) → ∀ r, q.holds r = false) ∧
      ∀ v ∈ e.variants, settings.labels.Displays e v needle →
        ∀ r, r.read p.path = .scalar (.member v.value) → q.holds r = true := by
  have holds (r : Record) : (p.labelPredicate e settings.labels needle).holds r ↔
      ∃ v ∈ e.variants, settings.labels.Finds e needle v ∧
        r.read p.path = .scalar (.member v.value) := Property.holds_labelPredicate_iff
  refine ⟨p.labelPredicate e settings.labels needle, ?_, holds, fun r undeclared => ?_,
    fun none r => ?_, fun v hv displays r read => ?_⟩
  · rintro c rfl value (known | known) <;>
      have compiled : c.compile type settings =
          .ok (p.labelPredicate e settings.labels needle) := by
        rw [compile_eq_build found known, Property.build_label_eq_ok (by simp) enum ⟨value, filled⟩]
    · exact ⟨compiled, Filter.compile_singleton compiled⟩
    · exact ⟨compiled, Filter.compile_singleton compiled⟩
  · rw [Bool.eq_false_iff, ne_eq, holds]
    rintro ⟨v, hv, -, read⟩
    exact undeclared v hv read
  · rw [Bool.eq_false_iff, ne_eq, holds]
    rintro ⟨v, hv, finds, -⟩
    exact none v hv finds
  · exact (holds r).2 ⟨v, hv, displays.finds, read⟩

theorem compile_finds_by_label_shop :
    let kind : EnumType := ⟨0, "Kind", [⟨"Flat", 0, some "Apartment"⟩,
      ⟨"House", 1, some "Detached house"⟩, ⟨"shop", 2, none⟩]⟩
    let type : RecordType := ⟨fun _ => ⟨"Unit", [⟨"kind", .enum kind, true⟩]⟩, 0⟩
    let p : Property := ⟨["kind"], .enum kind, true⟩
    let settings : ConditionSettings := ⟨.declared, .caseSensitive⟩
    let c : Condition := ⟨"kind", "eq", some "shop", none, none⟩
    let c' : Condition := ⟨"kind", " Contains", some "shop", none, none⟩
    let shop : Record := [("kind", .scalar (.member 2))]
    let vacant : Record := [("kind", .null)]
    type.property "kind" = .ok p ∧ p.type = .enum kind ∧ "shop" ≠ "" ∧
      ∃ q, c.compile type settings = .ok q ∧ c'.compile type settings = .ok q ∧
        q.holds shop = true ∧ q.holds vacant = false := by
  intro kind type p settings c c' shop vacant
  have found : type.property "kind" = .ok p := by decide +kernel
  have filled : "shop" ≠ "" := by decide
  have eq : Operator.read? c.operation = some .eq := by decide +kernel
  have contains : Operator.read? c'.operation = some .contains := by decide +kernel
  obtain ⟨q, compiles, -, undeclared, -, whole⟩ :=
    compile_finds_by_label found rfl filled settings
  have unlabelled : Labels.declared kind 2 = none := by decide
  have displays : Labels.declared.Displays kind ⟨"shop", 2, none⟩ "shop" := .name unlabelled
  have null : vacant.read p.path = .null := rfl
  have stored : shop.read p.path = .scalar (.member 2) := rfl
  refine ⟨found, rfl, filled, q, (compiles c rfl rfl (.inl eq)).1,
    (compiles c' rfl rfl (.inr contains)).1, ?_, ?_⟩
  · exact whole _ (by simp [kind]) displays shop stored
  · exact undeclared vacant fun v _ => by simp [null]

end Condition

end RecordQuery
