import Mathlib.Logic.Relation
import RecordQuery.Proofs.Schema.Path

namespace RecordQuery

theorem not_mem_of_mem_splitOn {separator : Char} {cs piece : List Char}
    (h : piece ∈ cs.splitOn separator) : separator ∉ piece := by
  induction cs generalizing piece with
  | nil =>
    rw [List.mem_singleton.1 h]
    exact List.not_mem_nil
  | cons c cs ih =>
    rw [List.splitOn, List.splitOnP_cons_eq_if_modifyHead, ← List.splitOn] at h
    obtain ⟨first, rest, pieces⟩ := List.exists_cons_of_ne_nil (List.splitOn_ne_nil separator cs)
    rw [pieces] at h ih
    split at h
    next =>
      obtain rfl | h := List.mem_cons.1 h
      · exact List.not_mem_nil
      · exact ih h
    next other =>
      obtain rfl | h := List.mem_cons.1 h
      · have found := ih List.mem_cons_self
        simp only [beq_iff_eq] at other
        simp [found, Ne.symm other]
      · exact ih (List.mem_cons_of_mem first h)

structure IsSplit (path : String) (names : List String) : Prop where
  ne_nil : names ≠ []
  no_point : ∀ name ∈ names, '.' ∉ name.toList
  joined : joinPath names = path

theorem isSplit_iff {path : String} {names : List String} :
    IsSplit path names ↔ splitPath path = names := by
  constructor
  · rintro ⟨some, points, rfl⟩
    have pieces : ∀ piece ∈ names.map String.toList, '.' ∉ piece := by simpa using points
    simp [splitPath, joinPath, List.splitOn_intercalate '.' pieces (by simpa using some)]
  · rintro rfl
    refine ⟨by simp [splitPath, List.splitOn_ne_nil], fun name h => ?_, joinPath_splitPath path⟩
    obtain ⟨piece, cut, rfl⟩ := List.mem_map.1 h
    simpa using not_mem_of_mem_splitOn cut

theorem IsSplit.unique {path : String} {names names' : List String} (h : IsSplit path names)
    (h' : IsSplit path names') : names = names' :=
  (isSplit_iff.1 h).symm.trans (isSplit_iff.1 h')

theorem isSplit_empty : IsSplit "" [""] := isSplit_iff.2 (by simp [splitPath])

def Schema.Declares (s : Schema) (name : String) (f : Field) : Prop :=
  f.name = name ∧ ∃ before after, s.fields = before ++ f :: after ∧ ∀ g ∈ before, g.name ≠ name

theorem Schema.field?_eq_some {s : Schema} {name : String} {f : Field} :
    s.field? name = some f ↔ s.Declares name f := by
  simp [field?, Declares, List.find?_eq_some_iff_append]

theorem Schema.Declares.mem {s : Schema} {name : String} {f : Field} (h : s.Declares name f) :
    f ∈ s.fields := by
  obtain ⟨-, before, after, fields, -⟩ := h
  simp [fields]

def Catalog.Refers (catalog : Catalog) (s next : Schema) : Prop :=
  ∃ f ∈ s.fields, ∃ id, f.type = .record id ∧ catalog id = next

inductive Catalog.Passes (catalog : Catalog) : Schema → List String → List Field → Prop
  | last {s name f} : s.Declares name f → Passes catalog s [name] [f]
  | step {s name f next names fields} : s.Declares name f → f.type = .record next →
      Passes catalog (catalog next) names fields →
      Passes catalog s (name :: names) (f :: fields)

structure Property.EndsAt (p : Property) (fields : List Field) : Prop where
  path : p.path = fields.map (·.name)
  type : fields.getLast?.map (·.type) = some p.type
  nullable : p.nullable = fields.any (·.nullable)

namespace Property

variable {p : Property} {f : Field} {fields : List Field}

theorem endsAt_singleton : p.EndsAt [f] ↔ p = ⟨[f.name], f.type, f.nullable⟩ := by
  constructor
  · intro ⟨path, type, nullable⟩
    cases p
    simp_all
  · rintro rfl
    exact ⟨rfl, rfl, by simp⟩

theorem endsAt_cons (h : fields ≠ []) :
    p.EndsAt (f :: fields) ↔ ∃ q : Property, q.EndsAt fields ∧
      p = ⟨f.name :: q.path, q.type, f.nullable || q.nullable⟩ := by
  constructor
  · intro ⟨path, type, nullable⟩
    refine ⟨⟨fields.map (·.name), p.type, fields.any (·.nullable)⟩, ⟨rfl, ?_, rfl⟩, ?_⟩
    · rwa [List.getLast?_cons_of_ne_nil h] at type
    · cases p
      simp_all
  · rintro ⟨q, ⟨path, type, nullable⟩, rfl⟩
    refine ⟨by simp [path], ?_, by simp [nullable]⟩
    rwa [List.getLast?_cons_of_ne_nil h]

theorem exists_endsAt (h : fields ≠ []) : ∃ p : Property, p.EndsAt fields :=
  ⟨⟨fields.map (·.name), (fields.getLast h).type, fields.any (·.nullable)⟩, rfl,
    by simp [List.getLast?_eq_some_getLast h], rfl⟩

end Property

namespace Catalog

variable {catalog : Catalog} {s : Schema} {names : List String} {fields : List Field} {p : Property}

theorem Passes.ne_nil (h : catalog.Passes s names fields) : fields ≠ [] := by
  cases h <;> simp

theorem Passes.map_name (h : catalog.Passes s names fields) : fields.map (·.name) = names := by
  induction h with
  | last declared => simp [declared.1]
  | step declared _ _ ih => simp [declared.1, ih]

theorem Passes.declared (h : catalog.Passes s names fields) {f : Field} (passed : f ∈ fields) :
    ∃ schema, Relation.ReflTransGen catalog.Refers s schema ∧ f ∈ schema.fields := by
  induction h with
  | last declared => exact ⟨_, .refl, List.mem_singleton.1 passed ▸ declared.mem⟩
  | step declared type _ ih =>
    obtain rfl | passed := List.mem_cons.1 passed
    · exact ⟨_, .refl, declared.mem⟩
    · obtain ⟨schema, refers, declares⟩ := ih passed
      exact ⟨schema, .head ⟨_, declared.mem, _, type, rfl⟩ refers, declares⟩

theorem Leads.exists_passes (h : catalog.Leads s names p) :
    ∃ fields, catalog.Passes s names fields ∧ p.EndsAt fields := by
  induction h with
  | last found => exact ⟨_, .last (Schema.field?_eq_some.1 found), Property.endsAt_singleton.2 rfl⟩
  | step found type _ ih =>
    obtain ⟨fields, passes, ends⟩ := ih
    exact ⟨_, .step (Schema.field?_eq_some.1 found) type passes,
      (Property.endsAt_cons passes.ne_nil).2 ⟨_, ends, rfl⟩⟩

theorem Passes.find?_eq_some (h : catalog.Passes s names fields) (ends : p.EndsAt fields) :
    catalog.find? s names = some p := by
  induction h generalizing p with
  | last declared =>
    rw [Property.endsAt_singleton.1 ends, Catalog.find?, Schema.field?_eq_some.2 declared,
      Option.map_some]
  | @step s name f next names fields declared type rest ih =>
    obtain ⟨q, further, rfl⟩ := (Property.endsAt_cons rest.ne_nil).1 ends
    have found := ih further
    obtain ⟨_, names, rfl⟩ := List.exists_cons_of_ne_nil (leads_of_find? found).ne_nil
    simp [Catalog.find?, Schema.field?_eq_some.2 declared, type, FieldType.record?, found]

theorem find?_eq_some_iff :
    catalog.find? s names = some p ↔ ∃ fields, catalog.Passes s names fields ∧ p.EndsAt fields :=
  ⟨fun h => (leads_of_find? h).exists_passes, fun ⟨_, passes, ends⟩ => passes.find?_eq_some ends⟩

theorem find?_eq_none_iff :
    catalog.find? s names = none ↔ ¬ ∃ fields, catalog.Passes s names fields := by
  rw [← not_iff_not, not_not, ← ne_eq, Option.ne_none_iff_exists']
  constructor
  · rintro ⟨p, found⟩
    obtain ⟨fields, passes, -⟩ := find?_eq_some_iff.1 found
    exact ⟨fields, passes⟩
  · rintro ⟨fields, passes⟩
    obtain ⟨p, ends⟩ := Property.exists_endsAt passes.ne_nil
    exact ⟨p, passes.find?_eq_some ends⟩

end Catalog

namespace RecordType

variable {t : RecordType} {path : String} {p : Property}

theorem property_eq_ok_iff :
    t.property path = .ok p ↔
      ∃ names fields, IsSplit path names ∧ t.catalog.Passes t.schema names fields ∧
        p.EndsAt fields := by
  simp [property_eq_ok, Catalog.find?_eq_some_iff, isSplit_iff]

theorem property_eq_error_iff {e : PropertyError} :
    t.property path = .error e ↔
      (¬ ∃ names fields, IsSplit path names ∧ t.catalog.Passes t.schema names fields) ∧
        e = .unknown path t.schema.name := by
  rw [property_eq_error, Catalog.find?_eq_none_iff]
  simp [isSplit_iff]

/-- The property of a path is where its names lead. If they lead nowhere, the path is unknown to the
record type, whichever schema it was lost in. So a path with an empty name, such as the empty path,
is unknown unless a field has that name. -/
theorem property_follows_schema (t : RecordType) (path : String) :
    (∀ p, t.property path = .ok p ↔
      ∃ names fields, IsSplit path names ∧ t.catalog.Passes t.schema names fields ∧
        p.EndsAt fields) ∧
    (∀ p, t.property path = .ok p → p.dotted = path) ∧
    (∀ e, t.property path = .error e ↔
      (¬ ∃ names fields, IsSplit path names ∧ t.catalog.Passes t.schema names fields) ∧
        e = .unknown path t.schema.name) ∧
    (path = "" → (∀ f ∈ t.schema.fields, f.name ≠ "") →
      t.property path = .error (.unknown path t.schema.name)) ∧
    (∀ names, IsSplit path names → "" ∈ names →
      (∀ s, Relation.ReflTransGen t.catalog.Refers t.schema s → ∀ f ∈ s.fields, f.name ≠ "") →
        t.property path = .error (.unknown path t.schema.name)) := by
  refine ⟨fun _ => property_eq_ok_iff, fun _ => dotted_of_property, fun _ => property_eq_error_iff,
    ?_, fun names split empty unnamed => property_eq_error_iff.2 ⟨?_, rfl⟩⟩
  · rintro rfl unnamed
    refine property_eq_error_iff.2 ⟨?_, rfl⟩
    rintro ⟨names, fields, split, passes⟩
    obtain rfl : names = [""] := split.unique isSplit_empty
    cases passes with
    | last declared => exact unnamed _ declared.mem declared.1
    | step _ _ rest => nomatch rest
  · rintro ⟨_, fields, split', passes⟩
    obtain rfl := split.unique split'
    rw [← passes.map_name] at empty
    obtain ⟨f, passed, name⟩ := List.mem_map.1 empty
    obtain ⟨s, refers, declares⟩ := passes.declared passed
    exact unnamed s refers f declares name

theorem property_follows_schema_node :
    let schema : Schema := ⟨"Node",
      [⟨"label", .string, false⟩, ⟨"next", .record 0, true⟩, ⟨"label", .int, false⟩]⟩
    let type : RecordType := ⟨fun _ => schema, 0⟩
    type.property "next.next.label" = .ok ⟨["next", "next", "label"], .string, true⟩ ∧
      type.property "next..label" = .error (.unknown "next..label" "Node") := by
  intro schema type
  have label : schema.Declares "label" ⟨"label", .string, false⟩ := Schema.field?_eq_some.1 rfl
  have next : schema.Declares "next" ⟨"next", .record 0, true⟩ := Schema.field?_eq_some.1 rfl
  constructor
  · exact ((property_follows_schema type "next.next.label").1 _).2
      ⟨_, _, isSplit_iff.2 rfl, .step next rfl (.step next rfl (.last label)), rfl, rfl, rfl⟩
  · refine (property_follows_schema type "next..label").2.2.2.2 ["next", "", "label"]
      (isSplit_iff.2 rfl) (by simp) fun s refers => ?_
    have same : s = schema := by
      cases refers with
      | refl => rfl
      | tail _ last =>
        obtain ⟨_, _, _, _, rfl⟩ := last
        rfl
    simp [same, schema]

end RecordType

end RecordQuery
