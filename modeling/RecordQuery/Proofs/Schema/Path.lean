import RecordQuery.Proofs.Value.Order
import RecordQuery.Schema.Path

namespace RecordQuery

@[simp] theorem joinPath_splitPath (path : String) : joinPath (splitPath path) = path := by
  apply String.toList_inj.1
  simp [joinPath, splitPath, List.map_map, Function.comp_def]

theorem splitPath_eq_singleton {path name : String} :
    splitPath path = [name] ↔ name = path ∧ '.' ∉ path.toList := by
  constructor
  · intro h
    have whole : name = path := by
      rw [← joinPath_splitPath path, h]
      simp [joinPath]
    refine ⟨whole, fun point => ?_⟩
    -- A point has a piece on either side, even if there is nothing in it.
    obtain ⟨front, back, cut, -⟩ := List.eq_append_cons_of_mem point
    have length := congrArg List.length h
    rw [splitPath, cut, List.splitOn_append_cons_self] at length
    have first := List.length_pos_iff.2 (List.splitOn_ne_nil '.' front)
    have second := List.length_pos_iff.2 (List.splitOn_ne_nil '.' back)
    simp only [List.length_map, List.length_append, List.length_singleton] at length
    omega
  · rintro ⟨rfl, point⟩
    simp [splitPath, List.splitOn_eq_singleton point]

theorem Schema.name_of_field? {s : Schema} {name : String} {f : Field}
    (h : s.field? name = some f) : f.name = name := by
  simpa using List.find?_some h

theorem Schema.eq_of_field?_singleton {record name : String} {f g : Field}
    (h : Schema.field? ⟨record, [g]⟩ name = some f) : name = g.name ∧ f = g := by
  have only := List.mem_singleton.1 (List.mem_of_find?_eq_some h)
  exact ⟨only ▸ (name_of_field? h).symm, only⟩

theorem FieldType.record?_eq_some {type : FieldType} {next : SchemaId} :
    type.record? = some next ↔ type = .record next := by
  cases type <;> simp [record?]

theorem Record.read_append_of_null {r : Record} {names : List String} (rest : List String)
    (some : names ≠ []) (null : r.read names = .null) : r.read (names ++ rest) = .null := by
  induction names generalizing r with
  | nil => exact absurd rfl some
  | cons name names ih =>
    cases names with
    | nil =>
      have unset : r.get name = .null := null
      cases rest with
      | nil => exact null
      | cons => simp [read, unset]
    | cons next names =>
      simp only [read, List.cons_append] at null ⊢
      cases inner : r.get name with
      | record =>
        rw [inner] at null
        exact ih (by simp) null
      | _ => rfl

inductive Catalog.Leads (catalog : Catalog) : Schema → List String → Property → Prop
  | last {s name f} : s.field? name = some f →
      Leads catalog s [name] ⟨[f.name], f.type, f.nullable⟩
  | step {s name names f next p} : s.field? name = some f → f.type = .record next →
      Leads catalog (catalog next) names p →
      Leads catalog s (name :: names) ⟨f.name :: p.path, p.type, f.nullable || p.nullable⟩

inductive Catalog.Conforms (catalog : Catalog) : Schema → Record → Prop
  | mk {s r} : (∀ name f, s.field? name = some f → (r.get name).HasType f.type) →
      (∀ name f next inner, s.field? name = some f → f.type = .record next →
        r.get name = .record inner → Conforms catalog (catalog next) inner) →
      Conforms catalog s r

namespace Catalog

variable {catalog : Catalog} {s : Schema} {names : List String} {p : Property} {r : Record}

theorem leads_of_find? (h : catalog.find? s names = some p) : catalog.Leads s names p := by
  induction names generalizing s p with
  | nil => cases h
  | cons name names ih =>
    cases names with
    | nil =>
      obtain ⟨f, found, rfl⟩ := Option.map_eq_some_iff.1 h
      exact .last found
    | cons _ _ =>
      obtain ⟨f, found, h⟩ := Option.bind_eq_some_iff.1 h
      obtain ⟨next, type, h⟩ := Option.bind_eq_some_iff.1 h
      obtain ⟨p, rest, rfl⟩ := Option.map_eq_some_iff.1 h
      exact .step found (FieldType.record?_eq_some.1 type) (ih rest)

theorem Leads.path_eq (h : catalog.Leads s names p) : p.path = names := by
  induction h with
  | last found => rw [Schema.name_of_field? found]
  | step found _ _ ih => rw [Schema.name_of_field? found, ih]

theorem Leads.ne_nil (h : catalog.Leads s names p) : names ≠ [] := by
  cases h <;> simp

theorem Leads.hasType_read (h : catalog.Leads s names p) (conforms : catalog.Conforms s r) :
    (r.read names).HasType p.type := by
  induction h generalizing r with
  | last found =>
    cases conforms with
    | mk types => exact types _ _ found
  | @step s name names f next p found type rest ih =>
    cases conforms with
    | mk _ records =>
      obtain ⟨_, names, rfl⟩ := List.exists_cons_of_ne_nil rest.ne_nil
      simp only [Record.read]
      cases inner : r.get name with
      | record => exact ih (records _ _ _ _ found type inner)
      | _ => exact .null

end Catalog

namespace RecordType

variable {t : RecordType} {path : String} {p : Property}

def Conforms (t : RecordType) (r : Record) : Prop := t.catalog.Conforms t.schema r

theorem property_eq_ok :
    t.property path = .ok p ↔ t.catalog.find? t.schema (splitPath path) = some p := by
  simp only [property]
  cases t.catalog.find? t.schema (splitPath path) <;> simp

theorem property_eq_error {e : PropertyError} :
    t.property path = .error e ↔
      t.catalog.find? t.schema (splitPath path) = none ∧ e = .unknown path t.schema.name := by
  simp only [property]
  cases t.catalog.find? t.schema (splitPath path) <;> simp [eq_comm]

theorem leads_of_property (h : t.property path = .ok p) :
    t.catalog.Leads t.schema (splitPath path) p :=
  Catalog.leads_of_find? (property_eq_ok.1 h)

theorem dotted_of_property (h : t.property path = .ok p) : joinPath p.path = path := by
  rw [(leads_of_property h).path_eq, joinPath_splitPath]

theorem path_ne_nil_of_property (h : t.property path = .ok p) : p.path ≠ [] := by
  rw [(leads_of_property h).path_eq]
  exact (leads_of_property h).ne_nil

theorem hasType_of_property {r : Record} (h : t.property path = .ok p) (conforms : t.Conforms r) :
    (r.read p.path).HasType p.type := by
  rw [(leads_of_property h).path_eq]
  exact (leads_of_property h).hasType_read conforms

end RecordType

end RecordQuery
