import Mathlib.Data.Set.Basic
import RecordQuery.Proofs.Filter.Conservation

namespace RecordQuery

variable {type : RecordType} {settings : ConditionSettings}
  {conditions conditions' : List Condition}

namespace ConditionGroup

theorem all_predicate?_eq {g g' : ConditionGroup} (same : ∀ p, p ∈ g.predicates ↔ p ∈ g'.predicates)
    (logic : g.predicates ≠ [] → g.logic = g'.logic) (r : Record) :
    g.predicate?.all (·.holds r) = g'.predicate?.all (·.holds r) := by
  obtain ⟨_, l, ps⟩ := g
  obtain ⟨_, l', ps'⟩ := g'
  by_cases empty : ps = []
  · have empty' : ps' = [] := List.eq_nil_iff_forall_not_mem.2 fun p => by simp [← same, empty]
    subst empty empty'
    rfl
  · obtain rfl : l = l' := logic empty
    have empty' : ps' ≠ [] := by
      obtain ⟨p, hp⟩ := List.exists_mem_of_ne_nil ps empty
      exact List.ne_nil_of_mem ((same p).1 hp)
    rw [Bool.eq_iff_iff, predicate?, predicate?, Logic.all_combine?_iff, Logic.all_combine?_iff]
    cases l with
    | and => simp [same]
    | or => simp [same, empty, empty']

end ConditionGroup

namespace Filter

theorem holds_compile_iff_groups (r : Record) :
    (compile type settings conditions).holds r = true ↔ ∀ name,
      (ConditionGroup.ofConditions (·.compile type settings) conditions name).predicate?.all
        (·.holds r) = true := by
  rw [compile, Progress.holds_filter_iff, groups_eq, List.forall_mem_map]
  refine ⟨fun h name => ?_, fun h name _ => h name⟩
  by_cases named : name ∈ properties conditions
  · exact h name named
  · have unnamed : conditions.filter (·.property == name) = [] := by
      simpa [properties, List.mem_eraseDups] using named
    simp [ConditionGroup.predicate?, ConditionGroup.ofConditions, unnamed, Logic.combine?]

def usable (type : RecordType) (settings : ConditionSettings) (conditions : List Condition)
    (name : String) : Set (String × Option String × Option String) :=
  {a | ∃ c ∈ conditions, c.property = name ∧ (∃ p, c.compile type settings = .ok p) ∧
    (c.operation, c.value, c.value2) = a}

def logicOf? (conditions : List Condition) (name : String) : Option Logic :=
  (conditions.find? (·.property == name)).map (·.groupLogic)

theorem compile_mk_eq_ok {c : Condition} {p : Predicate} :
    (Condition.mk c.property c.operation c.value c.value2 none).compile type settings = .ok p ↔
      c.compile type settings = .ok p := by
  simp only [Condition.compile]

theorem produced_iff_usable {name : String} {p : Predicate} :
    Produced type settings conditions name p ↔ ∃ a ∈ usable type settings conditions name,
      (Condition.mk name a.1 a.2.1 a.2.2 none).compile type settings = .ok p := by
  constructor
  · rintro ⟨c, hc, rfl, compiled⟩
    exact ⟨_, ⟨c, hc, rfl, ⟨p, compiled⟩, rfl⟩, compile_mk_eq_ok.2 compiled⟩
  · rintro ⟨_, ⟨c, hc, rfl, -, rfl⟩, compiled⟩
    exact ⟨c, hc, rfl, compile_mk_eq_ok.1 compiled⟩

theorem usable_eq_of_mem_iff (h : ∀ c p, c.compile type settings = .ok p →
      (c ∈ conditions ↔ c ∈ conditions')) (name : String) :
    usable type settings conditions name = usable type settings conditions' name := by
  ext a
  refine exists_congr fun c => ?_
  constructor
  · rintro ⟨hc, name, ⟨p, compiled⟩, asks⟩
    exact ⟨(h c p compiled).1 hc, name, ⟨p, compiled⟩, asks⟩
  · rintro ⟨hc, name, ⟨p, compiled⟩, asks⟩
    exact ⟨(h c p compiled).2 hc, name, ⟨p, compiled⟩, asks⟩

/-- Lists of conditions give filters that keep the same records if, property by property, their
usable conditions ask the same and are joined by the same logic. -/
theorem holds_compile_eq_of_usable_eq
    (same : ∀ name, usable type settings conditions name = usable type settings conditions' name)
    (logic : ∀ name, (usable type settings conditions name).Nonempty →
      logicOf? conditions name = logicOf? conditions' name) (r : Record) :
    (compile type settings conditions).holds r = (compile type settings conditions').holds r := by
  rw [Bool.eq_iff_iff, holds_compile_iff_groups, holds_compile_iff_groups]
  refine forall_congr' fun name => ?_
  rw [ConditionGroup.all_predicate?_eq]
  · intro p
    rw [mem_predicates_ofConditions, mem_predicates_ofConditions, produced_iff_usable,
      produced_iff_usable, same]
  · intro filled
    obtain ⟨p, hp⟩ := List.exists_mem_of_ne_nil _ filled
    obtain ⟨a, ha, -⟩ := produced_iff_usable.1 (mem_predicates_ofConditions.1 hp)
    exact congrArg (·.getD .and) (logic name ⟨a, ha⟩)

theorem holds_compile_eq_of_usable_eq_reordered :
    let schema : Schema := ⟨"Item", [⟨"note", .string, true⟩, ⟨"floors", .int, false⟩]⟩
    let type : RecordType := ⟨fun _ => schema, 0⟩
    let settings : ConditionSettings := ⟨.declared, .caseInsensitive⟩
    let note : Condition := ⟨"note", "contains", some "lamp", none, some " OR "⟩
    let empty : Condition := ⟨"note", "isempty", none, none, none⟩
    let floors : Condition := ⟨"floors", "gt", some "2", none, none⟩
    let skipped : Condition := ⟨"note", "gt", some "2", none, some "or"⟩
    let conditions := [note, floors, empty]
    let conditions' := [skipped, floors, empty, note, floors]
    (∀ name, usable type settings conditions name = usable type settings conditions' name) ∧
      (∀ name, (usable type settings conditions name).Nonempty →
        logicOf? conditions name = logicOf? conditions' name) ∧
      ∀ r, (compile type settings conditions).holds r =
        (compile type settings conditions').holds r := by
  intro schema type settings note empty floors skipped conditions conditions'
  have unusable : skipped.compile type settings = .error (.notApplicable "gt" "string") := by
    cbv
  have same : ∀ name,
      usable type settings conditions name = usable type settings conditions' name := by
    refine usable_eq_of_mem_iff fun c p compiled => ?_
    have ne : c ≠ skipped := by
      rintro rfl
      rw [unusable] at compiled
      cases compiled
    simp only [conditions, conditions', List.mem_cons, List.not_mem_nil, or_false, ne, false_or]
    clear compiled ne
    clear_value note floors empty
    tauto
  have logic : ∀ name, (usable type settings conditions name).Nonempty →
      logicOf? conditions name = logicOf? conditions' name := by
    intro name _
    by_cases first : name = "note"
    · subst first
      decide +kernel
    · by_cases second : name = "floors"
      · subst second
        decide +kernel
      · simp [logicOf?, conditions, conditions', note, empty, floors, skipped, Ne.symm first,
          Ne.symm second]
  exact ⟨same, logic, holds_compile_eq_of_usable_eq same logic⟩

end Filter

end RecordQuery
