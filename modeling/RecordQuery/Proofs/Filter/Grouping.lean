import Mathlib.Data.List.Induction
import RecordQuery.Filter

/-!
What a filter made from a list of conditions means. The loop over the conditions keeps one group
for each property named so far, in order of first appearance; a record satisfies the filter exactly
when it satisfies, for each property, the conditions on it that have a predicate.
-/

namespace RecordQuery

theorem eraseDups_concat {α : Type} [BEq α] [LawfulBEq α] (l : List α) (x : α) :
    (l ++ [x]).eraseDups = if x ∈ l.eraseDups then l.eraseDups else l.eraseDups ++ [x] := by
  rw [List.eraseDups_append]
  by_cases known : x ∈ l
  · rw [if_pos (List.mem_eraseDups.2 known)]
    simp [List.removeAll, known]
  · rw [if_neg (mt List.mem_eraseDups.1 known)]
    simp [List.removeAll, known, List.eraseDups_cons]

variable {f : Condition → Except Skip Predicate} {cs : List Condition}

namespace ConditionGroup

def ofConditions (f : Condition → Except Skip Predicate) (cs : List Condition)
    (name : String) : ConditionGroup where
  property := name
  logic := ((cs.find? (·.property == name)).map (·.groupLogic)).getD .and
  predicates := (cs.filter (·.property == name)).filterMap fun c => (f c).toOption

theorem ofConditions_append_of_ne {c : Condition} {name : String} (h : c.property ≠ name) :
    ofConditions f (cs ++ [c]) name = ofConditions f cs name := by
  simp [ofConditions, h]

theorem ofConditions_append_of_mem {c : Condition} (h : c.property ∈ cs.map (·.property)) :
    ofConditions f (cs ++ [c]) c.property =
      (ofConditions f cs c.property).push (f c).toOption := by
  obtain ⟨d, hd, hdc⟩ := List.mem_map.1 h
  have first : (cs.find? (·.property == c.property)).isSome := by
    simpa using ⟨d, hd, hdc⟩
  obtain ⟨e, he⟩ := Option.isSome_iff_exists.1 first
  cases hc : f c <;> simp [ofConditions, push, he, hc, Except.toOption]

theorem ofConditions_append_of_not_mem {c : Condition} (h : c.property ∉ cs.map (·.property)) :
    ofConditions f (cs ++ [c]) c.property = (opened c).push (f c).toOption := by
  have none : ∀ d ∈ cs, d.property ≠ c.property := by
    intro d hd hdc
    exact h (List.mem_map.2 ⟨d, hd, hdc⟩)
  have unnamed : cs.find? (·.property == c.property) = Option.none := by
    simpa using none
  have empty : cs.filter (·.property == c.property) = [] := by
    simpa using none
  cases hc : f c <;> simp [ofConditions, push, opened, unnamed, empty, hc, Except.toOption]

theorem add_eq_of_agree {c c' : Condition} (property : c'.property = c.property)
    (logic : c'.groupLogic = c.groupLogic) (p : Option Predicate) (gs : List ConditionGroup) :
    add c' p gs = add c p gs := by
  induction gs with
  | nil => simp [add, opened, property, logic]
  | cons g gs ih => simp only [add, property, ih]

theorem map_property_add (c : Condition) (p : Option Predicate) (gs : List ConditionGroup) :
    (add c p gs).map (·.property) =
      if c.property ∈ gs.map (·.property) then gs.map (·.property)
      else gs.map (·.property) ++ [c.property] := by
  induction gs with
  | nil => simp [add, push, opened]
  | cons g gs ih =>
    simp only [add]
    by_cases h : g.property = c.property
    · simp [h, push]
    · have h' : c.property ≠ g.property := fun e => h e.symm
      rw [if_neg h, List.map_cons, ih]
      by_cases hm : c.property ∈ gs.map (·.property) <;> simp [h', hm]

theorem nodup_map_property_add {c : Condition} {p : Option Predicate} {gs : List ConditionGroup}
    (nodup : (gs.map (·.property)).Nodup) : ((add c p gs).map (·.property)).Nodup := by
  rw [map_property_add]
  split
  · exact nodup
  · rename_i new
    refine List.nodup_append.2 ⟨nodup, by simp, ?_⟩
    rintro a ha b hb rfl
    exact new (List.mem_singleton.1 hb ▸ ha)

theorem mem_add {c : Condition} {p : Option Predicate} {gs : List ConditionGroup}
    {g : ConditionGroup} (nodup : (gs.map (·.property)).Nodup) (h : g ∈ add c p gs) :
    (g ∈ gs ∧ g.property ≠ c.property) ∨ (∃ g' ∈ gs, g'.property = c.property ∧ g = g'.push p) ∨
      (c.property ∉ gs.map (·.property) ∧ g = (opened c).push p) := by
  induction gs with
  | nil => exact .inr (.inr ⟨by simp, by simpa [add] using h⟩)
  | cons g' gs ih =>
    obtain ⟨fresh, nodup⟩ := List.nodup_cons.1 nodup
    simp only [add] at h
    split at h
    · rename_i here
      obtain rfl | later := List.mem_cons.1 h
      · exact .inr (.inl ⟨g', by simp, here, rfl⟩)
      · refine .inl ⟨by simp [later], fun e => fresh ?_⟩
        exact List.mem_map.2 ⟨g, later, e.trans here.symm⟩
    · rename_i other
      obtain rfl | later := List.mem_cons.1 h
      · exact .inl ⟨by simp, other⟩
      · obtain ⟨old, ne⟩ | ⟨g'', old, same, rfl⟩ | ⟨new, rfl⟩ := ih nodup later
        · exact .inl ⟨by simp [old], ne⟩
        · exact .inr (.inl ⟨g'', by simp [old], same, rfl⟩)
        · refine .inr (.inr ⟨?_, rfl⟩)
          rw [List.map_cons, List.mem_cons]
          rintro (e | old)
          · exact other e.symm
          · exact new old

end ConditionGroup

namespace Filter.Progress

def skip? (f : Condition → Except Skip Predicate) : Condition × Nat → Option SkippedCondition
  | (c, i) =>
    match f c with
    | .ok _ => none
    | .error reason => some ⟨i, c.property, reason⟩

theorem step_eq_of_agree {c c' : Condition} (property : c'.property = c.property)
    (logic : c'.groupLogic = c.groupLogic) (same : f c' = f c) (s : Progress) (i : Nat) :
    step f s (c', i) = step f s (c, i) := by
  simp only [step, same, property, ConditionGroup.add_eq_of_agree property logic]

/-- What holds after the conditions of a list have been read, each with its place. -/
structure HasRead (f : Condition → Except Skip Predicate) (placed : List (Condition × Nat))
    (s : Progress) : Prop where
  names : s.groups.map (·.property) = (placed.map (·.1.property)).eraseDups
  nodup : (s.groups.map (·.property)).Nodup
  groups : ∀ g ∈ s.groups, g = .ofConditions f (placed.map (·.1)) g.property
  skipped : s.skipped = placed.filterMap (skip? f)

theorem groups_step (s : Progress) (c : Condition) (i : Nat) :
    (step f s (c, i)).groups = ConditionGroup.add c (f c).toOption s.groups := by
  cases h : f c <;> simp [step, h, Except.toOption]

theorem skipped_step (s : Progress) (c : Condition) (i : Nat) :
    (step f s (c, i)).skipped = s.skipped ++ (skip? f (c, i)).toList := by
  cases h : f c <;> simp [step, skip?, h]

theorem HasRead.start : HasRead f [] .start := by
  constructor <;> simp [Progress.start]

theorem HasRead.mem_names {placed : List (Condition × Nat)} {s : Progress}
    (h : HasRead f placed s) {name : String} :
    name ∈ s.groups.map (·.property) ↔ name ∈ (placed.map (·.1)).map (·.property) := by
  rw [h.names, List.mem_eraseDups, List.map_map]
  rfl

theorem HasRead.step {placed : List (Condition × Nat)} {s : Progress}
    (h : HasRead f placed s) (c : Condition) (i : Nat) :
    HasRead f (placed ++ [(c, i)]) (step f s (c, i)) where
  names := by
    rw [groups_step, ConditionGroup.map_property_add, List.map_append, List.map_singleton,
      eraseDups_concat, h.names]
  nodup := by
    rw [groups_step]
    exact ConditionGroup.nodup_map_property_add h.nodup
  groups := by
    intro g hg
    rw [groups_step] at hg
    rw [List.map_append, List.map_singleton]
    obtain ⟨old, ne⟩ | ⟨g', old, same, rfl⟩ | ⟨new, rfl⟩ := ConditionGroup.mem_add h.nodup hg
    · rw [ConditionGroup.ofConditions_append_of_ne (Ne.symm ne)]
      exact h.groups g old
    · have named : c.property ∈ (placed.map (·.1)).map (·.property) :=
        h.mem_names.1 (List.mem_map.2 ⟨g', old, same⟩)
      have prop : (g'.push (f c).toOption).property = c.property := same
      -- the first condition on the property is an older one, so the logic stays
      rw [prop, ConditionGroup.ofConditions_append_of_mem named, ← same, ← h.groups g' old]
    · have unnamed : c.property ∉ (placed.map (·.1)).map (·.property) := fun e =>
        new (h.mem_names.2 e)
      exact (ConditionGroup.ofConditions_append_of_not_mem unnamed).symm
  skipped := by
    rw [skipped_step, h.skipped, List.filterMap_append]
    cases hc : skip? f (c, i) <;> simp [hc]

theorem hasRead_foldl (placed : List (Condition × Nat)) :
    HasRead f placed (placed.foldl (Progress.step f) .start) := by
  -- from the end, as the loop carries its groups from left to right
  induction placed using List.reverseRecOn with
  | nil => exact .start
  | append_singleton placed ci ih =>
    obtain ⟨c, i⟩ := ci
    rw [List.foldl_append]
    exact ih.step c i

end Filter.Progress

namespace Logic

theorem all_combine?_iff (logic : Logic) (ps : List Predicate) (r : Record) :
    (logic.combine? ps).all (·.holds r) = true ↔
      match logic with
      | .and => ∀ p ∈ ps, p.holds r = true
      | .or => ps = [] ∨ ∃ p ∈ ps, p.holds r = true := by
  match ps with
  | [] => cases logic <;> simp [combine?]
  | [p] => cases logic <;> simp [combine?]
  | p :: q :: ps => cases logic <;> simp [combine?, Predicate.holds]

end Logic

namespace Filter

theorem Progress.holds_filter_iff (s : Progress) (r : Record) :
    s.filter.holds r = true ↔ ∀ g ∈ s.groups, g.predicate?.all (·.holds r) = true := by
  have joined : s.filter.holds r =
      (Logic.and.combine? (s.groups.filterMap (·.predicate?))).all (·.holds r) := by
    simp only [Progress.filter, Filter.holds]
    cases Logic.and.combine? (s.groups.filterMap (·.predicate?)) <;> simp [Predicate.holds]
  rw [joined, Logic.all_combine?_iff]
  simp only [List.mem_filterMap, Option.all_eq_true]
  exact ⟨fun h g hg p hp => h p ⟨g, hg, hp⟩, fun h p ⟨g, hg, hp⟩ => h g hg p hp⟩

def Produced (type : RecordType) (settings : ConditionSettings) (conditions : List Condition)
    (name : String) (p : Predicate) : Prop :=
  ∃ c ∈ conditions, c.property = name ∧ c.compile type settings = .ok p

/-- What the conditions on a property ask of a record: nothing if none of them has a predicate, else
as much as the logic of the first of them says, which may itself have none. -/
def PropertyHolds (type : RecordType) (settings : ConditionSettings) (conditions : List Condition)
    (r : Record) (name : String) : Prop :=
  (¬∃ p, Produced type settings conditions name p) ∨
    ∃ first, conditions.find? (·.property == name) = some first ∧
      match first.groupLogic with
      | .or => ∃ p, Produced type settings conditions name p ∧ p.holds r = true
      | .and => ∀ p, Produced type settings conditions name p → p.holds r = true

theorem mem_predicates_ofConditions {type : RecordType} {settings : ConditionSettings}
    {conditions : List Condition} {name : String} {p : Predicate} :
    p ∈ (ConditionGroup.ofConditions (·.compile type settings) conditions name).predicates ↔
      Produced type settings conditions name p := by
  simp only [ConditionGroup.ofConditions, List.mem_filterMap, List.mem_filter, beq_iff_eq, Produced]
  constructor
  · rintro ⟨c, ⟨hc, name_eq⟩, hp⟩
    refine ⟨c, hc, name_eq, ?_⟩
    cases h : c.compile type settings <;> simp_all [Except.toOption]
  · rintro ⟨c, hc, name_eq, hp⟩
    exact ⟨c, ⟨hc, name_eq⟩, by simp [hp, Except.toOption]⟩

theorem all_predicate?_ofConditions {type : RecordType} {settings : ConditionSettings}
    {conditions : List Condition} {name : String} (r : Record)
    (h : name ∈ conditions.map (·.property)) :
    (ConditionGroup.ofConditions (·.compile type settings) conditions name).predicate?.all
        (·.holds r) = true ↔ PropertyHolds type settings conditions r name := by
  obtain ⟨c, hc, rfl⟩ := List.mem_map.1 h
  have named : (conditions.find? (·.property == c.property)).isSome := by
    simpa using ⟨c, hc, rfl⟩
  obtain ⟨first, hfirst⟩ := Option.isSome_iff_exists.1 named
  generalize hg : ConditionGroup.ofConditions (·.compile type settings) conditions c.property = g
  have logic : g.logic = first.groupLogic := by simp [← hg, ConditionGroup.ofConditions, hfirst]
  have members : ∀ p, Produced type settings conditions c.property p ↔ p ∈ g.predicates :=
    fun p => by rw [← hg, mem_predicates_ofConditions]
  simp only [PropertyHolds, members, hfirst, Option.some.injEq, exists_eq_left',
    ConditionGroup.predicate?, logic, Logic.all_combine?_iff]
  cases first.groupLogic with
  | and => exact ⟨.inr, fun h => h.elim (fun none p hp => absurd ⟨p, hp⟩ none) id⟩
  | or => rw [List.eq_nil_iff_forall_not_mem, not_exists]

/-- A record satisfies a compiled filter exactly when it satisfies what the conditions ask on each
property that they name. -/
theorem holds_compile_iff (type : RecordType) (settings : ConditionSettings)
    (conditions : List Condition) (r : Record) :
    (compile type settings conditions).holds r = true ↔
      ∀ name ∈ conditions.map (·.property), PropertyHolds type settings conditions r name := by
  have read := Progress.hasRead_foldl (f := (·.compile type settings)) conditions.zipIdx
  have placed : conditions.zipIdx.map (·.1) = conditions := List.zipIdx_map_fst 0 conditions
  rw [Filter.compile, Progress.holds_filter_iff]
  constructor
  · intro h name hname
    obtain ⟨g, hg, rfl⟩ := List.mem_map.1 (read.mem_names.2 (by rwa [placed]))
    rw [← all_predicate?_ofConditions r hname]
    have eq := read.groups g hg
    rw [placed] at eq
    exact eq ▸ h g hg
  · intro h g hg
    have hname : g.property ∈ conditions.map (·.property) := by
      simpa [placed] using read.mem_names.1 (List.mem_map.2 ⟨g, hg, rfl⟩)
    rw [read.groups g hg, placed]
    exact (all_predicate?_ofConditions r hname).2 (h _ hname)

end Filter

end RecordQuery
