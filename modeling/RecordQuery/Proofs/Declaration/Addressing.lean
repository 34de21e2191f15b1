import RecordQuery.Proofs.Declaration.Agreement
import RecordQuery.Proofs.Filter.Skipped
import RecordQuery.Proofs.Order.Keys
import RecordQuery.Proofs.Schema.Path

namespace RecordQuery

theorem find?_key_of_nodup {α κ : Type} [BEq κ] [LawfulBEq κ] (key : α → κ) {items : List α} {x : α}
    (distinct : (items.map key).Nodup) (mem : x ∈ items) :
    items.find? (key · == key x) = some x := by
  induction items with
  | nil => cases mem
  | cons y items ih =>
    rw [List.map_cons, List.nodup_cons] at distinct
    obtain rfl | mem := List.mem_cons.1 mem
    · simp
    · have apart : key y ≠ key x := fun same => distinct.1 (same ▸ List.mem_map_of_mem mem)
      rw [List.find?_cons_of_neg (by simpa using apart)]
      exact ih distinct.2 mem

theorem Catalog.find?_singleton {catalog : Catalog} {s : Schema} {name : String} {f : Field}
    (found : s.field? name = some f) :
    catalog.find? s [name] = some ⟨[name], f.type, f.nullable⟩ := by
  simp [find?, found, Schema.name_of_field? found]

namespace RecordType

variable {t : RecordType} {path name : String} {p : Property} {f : Field}

theorem path_eq_singleton_of_property (h : t.property path = .ok p) (single : p.path = [name]) :
    name = path ∧ '.' ∉ path.toList :=
  splitPath_eq_singleton.1 ((leads_of_property h).path_eq ▸ single)

theorem property_of_field? (found : t.schema.field? name = some f) (point : '.' ∉ name.toList) :
    t.property name = .ok ⟨[name], f.type, f.nullable⟩ := by
  rw [property_eq_ok, splitPath_eq_singleton.2 ⟨rfl, point⟩, Catalog.find?_singleton found]

theorem reason_ne_unknownProperty (found : t.property name = .ok p) {settings : ConditionSettings}
    {conditions : List Condition} {x : SkippedCondition}
    (skipped : x ∈ (Filter.compile t settings conditions).skipped) (own : x.property = name)
    (path : String) : x.reason ≠ .unknownProperty path := by
  obtain ⟨c, -, same, fails⟩ := Filter.mem_skipped_iff.1 skipped
  intro unknown
  rw [unknown] at fails
  obtain ⟨-, e, missing⟩ := Condition.compile_eq_unknownProperty.1 fails
  rw [same, own, found] at missing
  cases missing

theorem path_ne_of_compile_eq_unknown (found : t.property name = .ok p) {c : Collation}
    {specs : List SortSpec} {record : String}
    (refused : Order.compile t c specs = .error (.unknown path record)) : path ≠ name := by
  obtain refused | ⟨_, _, h⟩ := bind_eq_error.1 refused
  · obtain ⟨s, -, fails⟩ := exists_of_mapM_eq_error refused
    have missing := Order.key_eq_unknown.1 fails
    obtain ⟨-, unknown⟩ := property_eq_error.1 missing
    cases unknown
    rintro rfl
    rw [found] at missing
    cases missing
  · cases h

end RecordType

namespace Declaration.DerivedRecord

variable {i : Item} {r : DerivedRecord} {types : TypeMeaning} {t : RecordType} {n : Nat}
  {c : Constant}

/-- Where the properties of a derived record are distinct, a constant leads as a path to the field
that it was made for if and only if there is no point in it. Then neither conditions nor sort keys
on it are turned away as ones on an unknown property; otherwise no path at all leads to the
field. -/
theorem constant_leads_to_field_iff (h : ofItem i = .ok r)
    (distinct : (r.constants.map (·.property)).Nodup) (derived : t.schema = types.schema r)
    (place : r.constants[n]? = some c) :
    ∃ d, r.fields[n]? = some d ∧ d.property = c.property ∧
      (t.property c.property = .ok ⟨[c.property], types.fieldType d.type, d.nullable⟩ ↔
        '.' ∉ c.property.toList) ∧
      ('.' ∉ c.property.toList →
        (∀ settings conditions, ∀ x ∈ (Filter.compile t settings conditions).skipped,
          x.property = c.property → ∀ path, x.reason ≠ .unknownProperty path) ∧
        ∀ collation specs path record,
          Order.compile t collation specs = .error (.unknown path record) → path ≠ c.property) ∧
      ('.' ∈ c.property.toList → ∀ path p, t.property path = .ok p → p.path ≠ [c.property]) := by
  obtain ⟨fields, -, inStep⟩ := inStep_of_ofItem h
  obtain ⟨f, d, a, -, field, -, gives⟩ := inStep.getElem? place
  have same : d.property = c.property := by rw [gives.field, gives.constant]
  have found : t.schema.field? c.property = some (types.field d) := by
    rw [derived, types.field?_schema, ← same,
      find?_key_of_nodup DerivedField.property (inStep.map_property ▸ distinct)
        (List.mem_of_getElem? field), Option.map_some]
  have leads : '.' ∉ c.property.toList →
      t.property c.property = .ok ⟨[c.property], types.fieldType d.type, d.nullable⟩ :=
    RecordType.property_of_field? found
  -- Also a path that is not the constant's own would have to be cut into this one name.
  have alone : ∀ path p, t.property path = .ok p → p.path = [c.property] →
      '.' ∉ c.property.toList := by
    intro path p h single
    obtain ⟨rfl, point⟩ := RecordType.path_eq_singleton_of_property h single
    exact point
  refine ⟨d, field, same, ⟨fun h => alone _ _ h rfl, leads⟩, fun point => ⟨?_, ?_⟩, ?_⟩
  · intro settings conditions x skipped own
    exact RecordType.reason_ne_unknownProperty (leads point) skipped own
  · intro collation specs path record refused
    exact RecordType.path_ne_of_compile_eq_unknown (leads point) refused
  · intro point path p h single
    exact alone path p h single point

theorem constant_leads_to_field_iff_unit :
    let filter (args : List AttributeArgument) : List Attribute :=
      [⟨⟨false, ["filter"]⟩, some args⟩]
    let word (w : String) : AttributeArgument := .path ⟨false, [w]⟩
    let rent : AttributeArgument := .set ⟨false, ["rename"]⟩ (.text "monthly-rent")
    let optional : TypeExpr := .path [] "Option" (some ⟨false, [.type [.word "Use"]], false⟩)
    let i : Item := ⟨"Unit", [], .named [⟨"amount", .path [] "u32" none, filter [word "Int", rent]⟩,
      ⟨"use", optional, filter [word "Enum"]⟩]⟩
    let r : DerivedRecord := ⟨"Unit", [⟨"MONTHLY_RENT", "monthly-rent"⟩, ⟨"USE", "use"⟩],
      [⟨"monthly-rent", .int, false⟩, ⟨"use", .enum [.word "Use"], true⟩],
      [⟨"monthly-rent", "amount", .converted⟩, ⟨"use", "use", .enum true⟩]⟩
    let use : EnumType := ⟨0, "Use", []⟩
    let types : TypeMeaning := ⟨fun _ => use, fun _ => 0⟩
    let t : RecordType := ⟨fun _ => types.schema r, 0⟩
    ofItem i = .ok r ∧ t.property "monthly-rent" = .ok ⟨["monthly-rent"], .int, false⟩ ∧
      t.property "use" = .ok ⟨["use"], .enum use, true⟩ := by
  intro filter word rent optional i r use types t
  have derived : ofItem i = .ok r := by decide +kernel
  have distinct : (r.constants.map (·.property)).Nodup := by decide
  have schema : t.schema = types.schema r := rfl
  obtain ⟨d, field, -, first, -⟩ :=
    constant_leads_to_field_iff (n := 0) derived distinct schema rfl
  obtain ⟨e, field', -, second, -⟩ :=
    constant_leads_to_field_iff (n := 1) derived distinct schema rfl
  cases field
  cases field'
  exact ⟨derived, first.2 (by decide), second.2 (by decide)⟩

theorem constant_leads_nowhere_of_point :
    let filter : Attribute := ⟨⟨false, ["filter"]⟩,
      some [.path ⟨false, ["String"]⟩, .set ⟨false, ["rename"]⟩ (.text "unit.title")]⟩
    let i : Item := ⟨"Lease", [], .named [⟨"title", .path [] "String" none, [filter]⟩]⟩
    let r : DerivedRecord := ⟨"Lease", [⟨"UNIT_TITLE", "unit.title"⟩],
      [⟨"unit.title", .string, false⟩], [⟨"unit.title", "title", .converted⟩]⟩
    let types : TypeMeaning := ⟨fun _ => ⟨0, "", []⟩, fun _ => 0⟩
    let t : RecordType := ⟨fun _ => types.schema r, 0⟩
    ofItem i = .ok r ∧ (r.constants.map (·.property)).Nodup ∧
      t.property "unit.title" = .error (.unknown "unit.title" "Lease") := by
  intro filter i r types t
  exact ⟨by decide +kernel, by decide, by decide +kernel⟩

end Declaration.DerivedRecord

end RecordQuery
