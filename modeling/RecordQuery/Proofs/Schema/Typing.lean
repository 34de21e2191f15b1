import RecordQuery.Proofs.Schema.Path

namespace RecordQuery

inductive Catalog.Filled (catalog : Catalog) : Schema → Record → Prop
  | mk {s r} : (∀ name f, s.field? name = some f → r.get name = .null → f.nullable = true) →
      (∀ name f next inner, s.field? name = some f → f.type = .record next →
        r.get name = .record inner → Filled catalog (catalog next) inner) →
      Filled catalog s r

/-- The values that a property may read: null if it is nullable, or else a value of its type, where
a record in turn is one of its schema. -/
inductive Catalog.Admits (catalog : Catalog) (p : Property) : Value → Prop
  | null : p.nullable = true → Admits catalog p .null
  | scalar {s} : (Value.scalar s).HasType p.type → Admits catalog p (.scalar s)
  | record {next inner} : p.type = .record next → catalog.Conforms (catalog next) inner →
      catalog.Filled (catalog next) inner → Admits catalog p (.record inner)

theorem Value.exists_schema_of_hasType {inner : Record} {type : FieldType}
    (h : (Value.record inner).HasType type) : ∃ next, type = .record next := by
  cases h
  exact ⟨_, rfl⟩

namespace Catalog

variable {catalog : Catalog} {s : Schema} {names : List String} {p : Property} {r : Record}

theorem Admits.null_or_hasType {v : Value} (h : catalog.Admits p v) :
    v = .null ∧ p.nullable = true ∨ v ≠ .null ∧ v.HasType p.type := by
  cases h with
  | null nullable => exact .inl ⟨rfl, nullable⟩
  | scalar typed => exact .inr ⟨by simp, typed⟩
  | record type => exact .inr ⟨by simp, type ▸ .record⟩

theorem Admits.behind {v : Value} (h : catalog.Admits p v) (f : Field) :
    catalog.Admits ⟨f.name :: p.path, p.type, f.nullable || p.nullable⟩ v := by
  cases h with
  | null nullable => exact .null (by simp [nullable])
  | scalar typed => exact .scalar typed
  | record type conforms filled => exact .record type conforms filled

theorem admits_get {name : String} {f : Field} (found : s.field? name = some f)
    (conforms : catalog.Conforms s r) (filled : catalog.Filled s r) :
    catalog.Admits ⟨[f.name], f.type, f.nullable⟩ (r.get name) := by
  obtain ⟨types, records⟩ := conforms
  obtain ⟨nulls, records'⟩ := filled
  have typed := types name f found
  cases read : r.get name with
  | null => exact .null (nulls name f found read)
  | scalar => exact .scalar (read ▸ typed)
  | record inner =>
    obtain ⟨next, type⟩ := Value.exists_schema_of_hasType (read ▸ typed)
    exact .record type (records name f next inner found type read)
      (records' name f next inner found type read)

theorem Leads.admits_read (h : catalog.Leads s names p) (conforms : catalog.Conforms s r)
    (filled : catalog.Filled s r) : catalog.Admits p (r.read names) := by
  induction h generalizing r with
  | last found => exact admits_get found conforms filled
  | @step s name names f next p found type rest ih =>
    obtain ⟨_, names, rfl⟩ := List.exists_cons_of_ne_nil rest.ne_nil
    have first := admits_get found conforms filled
    simp only [Record.read]
    generalize r.get name = v at first
    cases first with
    | null nullable =>
      have nullable : f.nullable = true := nullable
      exact .null (by simp [nullable])
    | scalar typed =>
      -- a field that leads on is a record or null
      rw [type] at typed
      cases typed
    | record type' conforms filled =>
      cases type.symm.trans type'
      exact (ih conforms filled).behind f

end Catalog

namespace RecordType

def Filled (t : RecordType) (r : Record) : Prop := t.catalog.Filled t.schema r

/-- A path that is found in a record type reads, from every record of the type, a value of the type
found, or null if the path is nullable; and null wherever something on the way to it is null. -/
theorem read_property_admits {t : RecordType} {path : String} {p : Property} {r : Record}
    (found : t.property path = .ok p) (conforms : t.Conforms r) (filled : t.Filled r) :
    t.catalog.Admits p (r.read p.path) ∧
      (r.read p.path = .null ∧ p.nullable = true ∨
        r.read p.path ≠ .null ∧ (r.read p.path).HasType p.type) ∧
      ∀ names rest, names ≠ [] → p.path = names ++ rest → r.read names = .null →
        r.read p.path = .null := by
  have leads := leads_of_property found
  have admits : t.catalog.Admits p (r.read p.path) := by
    rw [leads.path_eq]
    exact leads.admits_read conforms filled
  refine ⟨admits, admits.null_or_hasType, ?_⟩
  intro names rest some path null
  rw [path]
  exact Record.read_append_of_null rest some null

theorem read_property_admits_chain :
    let schema : Schema := ⟨"Node", [⟨"label", .string, false⟩, ⟨"next", .record 0, true⟩]⟩
    let type : RecordType := ⟨fun _ => schema, 0⟩
    let node (label : String) (next : Value) : Record :=
      [("label", .scalar (.text label)), ("next", next)]
    let chain := node "first" (.record (node "last" .null))
    let p : Property := ⟨["next", "next", "label"], .string, true⟩
    type.property "next.next.label" = .ok p ∧ type.Conforms chain ∧ type.Filled chain ∧
      type.catalog.Admits p (chain.read p.path) ∧ chain.read p.path = .null := by
  intro schema type node chain p
  have fields : ∀ name f, schema.field? name = some f →
      name = "label" ∧ f = ⟨"label", .string, false⟩ ∨
        name = "next" ∧ f = ⟨"next", .record 0, true⟩ := by
    intro name f found
    have known := Schema.name_of_field? found
    have mem := List.mem_of_find?_eq_some found
    simp only [schema, List.mem_cons, List.not_mem_nil, or_false] at mem
    rcases mem with rfl | rfl
    · exact .inl ⟨known.symm, rfl⟩
    · exact .inr ⟨known.symm, rfl⟩
  have fits (label : String) {next : Value} (typed : next.HasType (.record 0))
      (inner : ∀ r, next = .record r → type.Conforms r ∧ type.Filled r) :
      type.Conforms (node label next) ∧ type.Filled (node label next) := by
    refine ⟨.mk (fun name f found => ?_) fun name f next r found type read => ?_,
      .mk (fun name f found null => ?_) fun name f next r found type read => ?_⟩ <;>
      rcases fields name f found with ⟨rfl, rfl⟩ | ⟨rfl, rfl⟩
    · exact .text
    · exact typed
    · cases type
    · exact (inner r read).1
    · cases null
    · rfl
    · cases type
    · exact (inner r read).2
  have last := fits "last" .null (by simp)
  have first := fits "first" .record fun r read => by
    cases read
    exact last
  have found : type.property "next.next.label" = .ok p := rfl
  obtain ⟨admits, -, null⟩ := read_property_admits found first.1 first.2
  exact ⟨found, first.1, first.2, admits, null ["next", "next"] ["label"] (by simp) rfl rfl⟩

end RecordType

end RecordQuery
