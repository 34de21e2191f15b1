import RecordQuery.Proofs.Filter.WellFormed

namespace RecordQuery

namespace Logic

inductive Joins : Logic → List Predicate → Predicate → Prop
  | one {logic p} : Joins logic [p] p
  | all {ps} : 2 ≤ ps.length → Joins .and ps (.all ps)
  | any {ps} : 2 ≤ ps.length → Joins .or ps (.any ps)

variable {logic : Logic} {ps : List Predicate} {q : Predicate}

theorem joins_iff_combine? : logic.Joins ps q ↔ logic.combine? ps = some q := by
  constructor
  · intro h
    cases h with
    | one => rfl
    | @all ps two | @any ps two =>
      match ps with
      | _ :: _ :: _ => rfl
  · intro h
    match ps with
    | [_] =>
      cases h
      exact .one
    | _ :: _ :: _ =>
      cases logic <;> cases h
      · exact .all (by simp)
      · exact .any (by simp)

theorem isSome_combine? (logic : Logic) (ps : List Predicate) :
    (logic.combine? ps).isSome = !ps.isEmpty := by
  match ps with
  | [] | [_] | _ :: _ :: _ => rfl

theorem Joins.clauseCount_eq (h : logic.Joins ps q) :
    q.clauseCount = (ps.map Predicate.clauseCount).sum := by
  cases h with
  | one => simp
  | all | any => rw [Predicate.clauseCount, Predicate.clauseCountAll_eq, List.sum_eq_foldr]

end Logic

theorem Predicate.Proper.ne_always {ok : List String → Test → Prop} {q : Predicate}
    (h : q.Proper ok) : q ≠ .always := by
  cases h <;> simp

theorem Predicate.isAlways_iff_eq {q : Predicate} : q.isAlways ↔ q = .always := by
  cases q <;> simp [isAlways]

theorem flatMap_filter_perm {α κ : Type} [DecidableEq κ] (key : α → κ) {ks : List κ}
    (nodup : ks.Nodup) (l : List α) :
    (ks.flatMap fun k => l.filter (key · == k)).Perm (l.filter (key · ∈ ks)) := by
  induction ks with
  | nil => simp
  | cons k ks ih =>
    obtain ⟨new, nodup⟩ := List.nodup_cons.1 nodup
    have here : (l.filter (key · ∈ k :: ks)).filter (key · == k) = l.filter (key · == k) := by
      rw [List.filter_filter]
      congr 1
      funext x
      by_cases h : key x = k <;> simp [h]
    have later : (l.filter (key · ∈ k :: ks)).filter (!key · == k) = l.filter (key · ∈ ks) := by
      rw [List.filter_filter]
      congr 1
      funext x
      by_cases h : key x = k <;> simp [h, new]
    have split := List.filter_append_perm (key · == k) (l.filter (key · ∈ k :: ks))
    rw [here, later] at split
    exact ((ih nodup).append_left _).trans split

theorem forall₂_filter_filterMap {α β : Type} (f : α → Option β) (l : List α) :
    List.Forall₂ (fun a b => f a = some b) (l.filter fun a => (f a).isSome) (l.filterMap f) := by
  induction l with
  | nil => exact .nil
  | cons a l ih => cases h : f a <;> simp [h, ih]

namespace Filter

def properties (conditions : List Condition) : List String :=
  (conditions.map (·.property)).eraseDups

def built (type : RecordType) (settings : ConditionSettings) (conditions : List Condition) :
    List Predicate :=
  conditions.filterMap fun c => (c.compile type settings).toOption

def builtOn (type : RecordType) (settings : ConditionSettings) (conditions : List Condition)
    (name : String) : List Predicate :=
  built type settings (conditions.filter (·.property == name))

def groupNames (type : RecordType) (settings : ConditionSettings) (conditions : List Condition) :
    List String :=
  (properties conditions).filter fun name => !(builtOn type settings conditions name).isEmpty

variable {type : RecordType} {settings : ConditionSettings} {conditions : List Condition}

theorem map_property_groups (f : Condition → Except Skip Predicate) (conditions : List Condition) :
    (conditions.zipIdx.foldl (Progress.step f) .start).groups.map (·.property) =
      properties conditions := by
  have names : conditions.zipIdx.map (·.1.property) = conditions.map (·.property) := calc
    _ = (conditions.zipIdx.map (·.1)).map (·.property) := by rw [List.map_map]; rfl
    _ = conditions.map (·.property) := by rw [List.zipIdx_map_fst]
  rw [(Progress.hasRead_foldl conditions.zipIdx).names, names, properties]

theorem nodup_properties (conditions : List Condition) : (properties conditions).Nodup := by
  rw [← map_property_groups fun _ => .error .missingValue]
  exact (Progress.hasRead_foldl conditions.zipIdx).nodup

theorem groups_eq (f : Condition → Except Skip Predicate) (conditions : List Condition) :
    (conditions.zipIdx.foldl (Progress.step f) .start).groups =
      (properties conditions).map (.ofConditions f conditions) := by
  rw [← map_property_groups f, List.map_map]
  refine (List.map_id _).symm.trans (List.map_congr_left fun g hg => ?_)
  simpa [List.zipIdx_map_fst] using (Progress.hasRead_foldl conditions.zipIdx).groups g hg

theorem predicate_compile (type : RecordType) (settings : ConditionSettings)
    (conditions : List Condition) :
    (compile type settings conditions).predicate =
      (Logic.and.combine? ((properties conditions).filterMap fun name =>
        (ConditionGroup.ofConditions (·.compile type settings) conditions name).predicate?)).getD
          .always := by
  rw [compile, Progress.filter, groups_eq, List.filterMap_map]
  rfl

theorem skipped_compile (type : RecordType) (settings : ConditionSettings)
    (conditions : List Condition) :
    (compile type settings conditions).skipped =
      conditions.zipIdx.filterMap (Progress.skip? (·.compile type settings)) :=
  (Progress.hasRead_foldl (f := (·.compile type settings)) conditions.zipIdx).skipped

theorem flatMap_builtOn_perm (type : RecordType) (settings : ConditionSettings)
    (conditions : List Condition) :
    ((groupNames type settings conditions).flatMap (builtOn type settings conditions)).Perm
      (built type settings conditions) := by
  have all : conditions.filter (·.property ∈ properties conditions) = conditions := by
    rw [List.filter_eq_self]
    intro c hc
    simpa [properties, List.mem_eraseDups] using ⟨c, hc, rfl⟩
  have split := flatMap_filter_perm (·.property) (nodup_properties conditions) conditions
  rw [all] at split
  have perm := split.filterMap fun c => (c.compile type settings).toOption
  rw [List.filterMap_flatMap] at perm
  calc
    _ = (((properties conditions).map (builtOn type settings conditions)).filter
        (!·.isEmpty)).flatten := by
      rw [List.filter_map, List.flatMap_def]
      rfl
    _ = (properties conditions).flatMap (builtOn type settings conditions) := by
      rw [List.flatten_filter_not_isEmpty, List.flatMap_def]
    List.Perm _ (built type settings conditions) := perm

theorem length_skipped_add_length_built (type : RecordType) (settings : ConditionSettings)
    (conditions : List Condition) :
    (compile type settings conditions).skipped.length +
      (built type settings conditions).length = conditions.length := by
  let compiles (c : Condition) : Bool := (c.compile type settings).toOption.isSome
  have skipped : (compile type settings conditions).skipped.length =
      conditions.countP (!compiles ·) := by
    have fails : (fun ci => (Progress.skip? (·.compile type settings) ci).isSome) =
        (!compiles ·) ∘ Prod.fst := by
      funext ⟨c, i⟩
      cases h : c.compile type settings <;> simp [Progress.skip?, compiles, h, Except.toOption]
    rw [skipped_compile, List.length_filterMap_eq_countP, fails, ← List.countP_map,
      List.zipIdx_map_fst]
  have kept : (built type settings conditions).length = conditions.countP compiles :=
    List.length_filterMap_eq_countP
  have all := List.length_eq_countP_add_countP compiles (l := conditions)
  simp only [Bool.not_eq_true] at all
  rw [skipped, kept, all]
  simp [Nat.add_comm]

theorem skip?_eq_some {f : Condition → Except Skip Predicate} {c : Condition} {i : Nat}
    {x : SkippedCondition} :
    Progress.skip? f (c, i) = some x ↔
      i = x.index ∧ c.property = x.property ∧ f c = .error x.reason := by
  obtain ⟨index, property, reason⟩ := x
  cases h : f c <;> simp [Progress.skip?, h]

theorem pairwise_skipped (type : RecordType) (settings : ConditionSettings)
    (conditions : List Condition) :
    (compile type settings conditions).skipped.Pairwise fun x y => x.index < y.index := by
  have places : conditions.zipIdx.Pairwise fun ci dj => ci.2 < dj.2 := by
    rw [← List.pairwise_map (f := Prod.snd), List.zipIdx_map_snd]
    exact List.pairwise_lt_range'
  rw [skipped_compile, List.pairwise_filterMap]
  refine places.imp fun before x hx y hy => ?_
  rwa [← (skip?_eq_some.1 hx).1, ← (skip?_eq_some.1 hy).1]

theorem mem_skipped_iff {x : SkippedCondition} :
    x ∈ (compile type settings conditions).skipped ↔
      ∃ c, conditions[x.index]? = some c ∧ c.property = x.property ∧
        c.compile type settings = .error x.reason := by
  rw [skipped_compile, List.mem_filterMap]
  constructor
  · rintro ⟨⟨c, i⟩, place, skip⟩
    obtain ⟨rfl, name, fails⟩ := skip?_eq_some.1 skip
    exact ⟨c, List.mem_zipIdx_iff_getElem?.1 place, name, fails⟩
  · rintro ⟨c, place, name, fails⟩
    exact ⟨(c, x.index), List.mem_zipIdx_iff_getElem?.2 place, skip?_eq_some.2 ⟨rfl, name, fails⟩⟩

/-- The predicates of the conditions on a property, joined by the logic of the first of these, which
may have no predicate itself. -/
def IsGroup (type : RecordType) (settings : ConditionSettings) (conditions : List Condition)
    (name : String) (g : Predicate) : Prop :=
  ∃ first, conditions.find? (·.property == name) = some first ∧
    first.groupLogic.Joins (builtOn type settings conditions name) g

/-- The tree of a list of conditions: a group for each property that has predicates, in the order in
which the properties first appear. -/
inductive Joined (type : RecordType) (settings : ConditionSettings) (conditions : List Condition) :
    Predicate → Prop
  | always : built type settings conditions = [] → Joined type settings conditions .always
  | groups {gs q} : List.Forall₂ (IsGroup type settings conditions)
        (groupNames type settings conditions) gs →
      Logic.and.Joins gs q → Joined type settings conditions q

theorem isGroup_of_predicate? {name : String} {g : Predicate}
    (h : (ConditionGroup.ofConditions (·.compile type settings) conditions name).predicate? =
      some g) : IsGroup type settings conditions name g := by
  cases found : conditions.find? (·.property == name) with
  | none =>
    have unnamed : conditions.filter (·.property == name) = [] := by
      rw [List.filter_eq_nil_iff]
      exact List.find?_eq_none.1 found
    simp [ConditionGroup.predicate?, ConditionGroup.ofConditions, unnamed, Logic.combine?] at h
  | some first =>
    refine ⟨first, found, Logic.joins_iff_combine?.2 ?_⟩
    simpa [ConditionGroup.predicate?, ConditionGroup.ofConditions, found, builtOn, built] using h

theorem isSome_predicate? (name : String) :
    (ConditionGroup.ofConditions (·.compile type settings) conditions name).predicate?.isSome =
      !(builtOn type settings conditions name).isEmpty :=
  Logic.isSome_combine? _ _

theorem groupNames_eq_nil_iff :
    groupNames type settings conditions = [] ↔ built type settings conditions = [] := by
  have perm := flatMap_builtOn_perm type settings conditions
  constructor
  · intro none
    rw [none] at perm
    exact perm.nil_eq.symm
  · intro none
    rw [none] at perm
    have empty := List.flatMap_eq_nil_iff.1 perm.eq_nil
    refine List.filter_eq_nil_iff.2 fun name hname filled => ?_
    have : name ∈ groupNames type settings conditions := List.mem_filter.2 ⟨hname, filled⟩
    simp [empty name this] at filled

theorem joined_compile (type : RecordType) (settings : ConditionSettings)
    (conditions : List Condition) :
    Joined type settings conditions (compile type settings conditions).predicate := by
  rw [predicate_compile]
  have groups := forall₂_filter_filterMap (fun name => (ConditionGroup.ofConditions
    (·.compile type settings) conditions name).predicate?) (properties conditions)
  simp only [isSome_predicate?] at groups
  generalize (properties conditions).filterMap _ = gs at groups ⊢
  have filled := Logic.isSome_combine? .and gs
  cases joined : Logic.and.combine? gs with
  | some q =>
    exact .groups (groups.imp fun _ _ => isGroup_of_predicate?) (Logic.joins_iff_combine?.2 joined)
  | none =>
    rw [joined] at filled
    have none : gs = [] := by simpa using filled
    rw [none] at groups
    exact .always (groupNames_eq_nil_iff.1 (List.forall₂_nil_right_iff.1 groups))

theorem mem_built {p : Predicate} :
    p ∈ built type settings conditions ↔ ∃ c ∈ conditions, c.compile type settings = .ok p := by
  rw [built, List.mem_filterMap]
  refine exists_congr fun c => and_congr_right fun _ => ?_
  cases c.compile type settings <;> simp [Except.toOption]

theorem IsGroup.proper {name : String} {g : Predicate}
    (h : IsGroup type settings conditions name g) : g.Proper type.Clause := by
  obtain ⟨first, -, joins⟩ := h
  refine Predicate.proper_combine? ?_ (Logic.joins_iff_combine?.1 joins)
  intro p hp
  obtain ⟨c, -, compiled⟩ := mem_built.1 hp
  exact Condition.proper_of_compile compiled

namespace Joined

variable {q : Predicate}

theorem clauseCount_eq (h : Joined type settings conditions q) :
    q.clauseCount = ((built type settings conditions).map Predicate.clauseCount).sum := by
  cases h with
  | always none => simp [none, Predicate.clauseCount]
  | @groups gs _ groups joins =>
    have counts : gs.map Predicate.clauseCount = (groupNames type settings conditions).map
        fun name => ((builtOn type settings conditions name).map Predicate.clauseCount).sum := by
      rw [← List.forall₂_eq_eq_eq, List.forall₂_map_left_iff, List.forall₂_map_right_iff]
      refine (groups.imp ?_).flip
      rintro name g ⟨first, -, group⟩
      exact group.clauseCount_eq
    have perm := (flatMap_builtOn_perm type settings conditions).map Predicate.clauseCount
    rw [joins.clauseCount_eq, counts, ← perm.sum_nat, List.map_flatMap, List.flatMap_def,
      List.sum_flatten, List.map_map]
    rfl

theorem isAlways_iff (h : Joined type settings conditions q) :
    q.isAlways ↔ built type settings conditions = [] := by
  rw [Predicate.isAlways_iff_eq]
  cases h with
  | always none => exact iff_of_true rfl none
  | @groups gs _ groups joins =>
    have filled : groupNames type settings conditions ≠ [] := by
      intro none
      rw [none, List.forall₂_nil_left_iff] at groups
      subst groups
      cases joins
      contradiction
    refine iff_of_false ?_ (mt groupNames_eq_nil_iff.2 filled)
    cases joins with
    | one =>
      obtain ⟨name, -, group, -⟩ := List.forall₂_cons_right_iff.1 groups
      exact group.proper.ne_always
    | all => exact Predicate.noConfusion

end Joined

/-- No condition is lost, and none counts twice. Those without a predicate are listed in order, each
once, with its place, its property and its reason; the predicate of each other one stands once in
the tree, among those on its property. The tree is `always` only if there is no predicate. -/
theorem compile_keeps_each_condition (type : RecordType) (settings : ConditionSettings)
    (conditions : List Condition) :
    let filter := compile type settings conditions
    (filter.skipped.Pairwise fun x y => x.index < y.index) ∧
    (∀ x, x ∈ filter.skipped ↔ ∃ c, conditions[x.index]? = some c ∧ c.property = x.property ∧
      c.compile type settings = .error x.reason) ∧
    Joined type settings conditions filter.predicate ∧
    ((groupNames type settings conditions).flatMap (builtOn type settings conditions)).Perm
      (built type settings conditions) ∧
    filter.predicate.clauseCount =
      ((built type settings conditions).map Predicate.clauseCount).sum ∧
    (filter.predicate.isAlways ↔ ∀ c ∈ conditions, ∃ reason,
      c.compile type settings = .error reason) ∧
    (filter.predicate.isAlways ↔ filter.skipped.length = conditions.length) := by
  intro filter
  have joined : Joined type settings conditions filter.predicate := joined_compile _ _ _
  have total : filter.skipped.length + (built type settings conditions).length =
      conditions.length := length_skipped_add_length_built type settings conditions
  refine ⟨pairwise_skipped type settings conditions, fun x => mem_skipped_iff, joined,
    flatMap_builtOn_perm type settings conditions, joined.clauseCount_eq, ?_, ?_⟩
  · rw [joined.isAlways_iff, List.eq_nil_iff_forall_not_mem]
    constructor
    · intro none c hc
      cases compiled : c.compile type settings with
      | ok p => exact (none p (mem_built.2 ⟨c, hc, compiled⟩)).elim
      | error reason => exact ⟨reason, rfl⟩
    · intro fails p hp
      obtain ⟨c, hc, compiled⟩ := mem_built.1 hp
      obtain ⟨reason, failed⟩ := fails c hc
      rw [failed] at compiled
      cases compiled
  · rw [joined.isAlways_iff, ← List.length_eq_zero_iff]
    omega

end Filter

end RecordQuery
