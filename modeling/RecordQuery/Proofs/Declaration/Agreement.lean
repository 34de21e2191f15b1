import RecordQuery.Declaration.Record
import RecordQuery.Proofs.Declaration.Marks

namespace RecordQuery.Declaration

inductive TypeExpr.Optional : TypeExpr → List Token → Prop
  | mk {qualifier joined inner commaAtEnd} :
      Optional (.path qualifier "Option" (some ⟨joined, [.type inner], commaAtEnd⟩)) inner

theorem TypeExpr.optional?_eq_some {e : TypeExpr} {inner : List Token} :
    e.optional? = some inner ↔ e.Optional inner := by
  constructor
  · intro h
    unfold optional? at h
    split at h
    · cases h
      exact .mk
    · cases h
  · rintro ⟨⟩
    rfl

theorem TypeExpr.isSome_optional? {e : TypeExpr} :
    e.optional?.isSome ↔ ∃ inner, e.Optional inner := by
  simp only [Option.isSome_iff_exists, optional?_eq_some]

namespace TypeTag

def kind : TypeTag → FieldKind
  | .bool => .bool
  | .int => .int
  | .float => .float
  | .decimal => .decimal
  | .guid => .guid
  | .dateTime => .dateTime
  | .string => .string
  | .enum _ => .enum
  | .record _ => .record

def type? : TypeTag → Option (List Token)
  | .enum type => some type
  | .record type => some type
  | _ => none

@[simp] theorem kind_ofKind (k : FieldKind) (type : List Token) : (ofKind k type).kind = k := by
  cases k <;> rfl

theorem eq_of_type?_ofKind {k : FieldKind} {type type' : List Token}
    (h : (ofKind k type).type? = some type') : type' = type := by
  cases k <;> simp_all [ofKind, type?]

end TypeTag

namespace FieldItem

def marks (f : FieldItem) : FieldMarks := .ofArguments (Attribute.given f.attributes)

def kind? (f : FieldItem) : Option FieldKind := if f.marks.skipped then none else f.marks.kind

def property (f : FieldItem) : String := f.marks.rename.getD f.name

structure Gives (f : FieldItem) (c : Constant) (d : DerivedField) (a : Accessor) : Prop where
  constant : c = ⟨constantName f.property, f.property⟩
  field : d.property = f.property
  accessor : a.property = f.property
  source : a.field = f.name
  kind : f.kind? = some d.type.kind
  nullable : d.nullable ↔ ∃ inner, f.type.Optional inner
  type_of_optional : ∀ inner type, f.type.Optional inner → d.type.type? = some type → type = inner
  type_of_plain : ∀ type, d.nullable = false → d.type.type? = some type → type = f.type.tokens
  reading : a.reading = .ofKind d.type.kind d.nullable

variable {f : FieldItem} {kind : FieldKind} {o : Option Contribution}

def outputs (f : FieldItem) (kind : FieldKind) : Contribution where
  constant := ⟨constantName f.property, f.property⟩
  field := ⟨f.property, .ofKind kind (f.type.optional?.getD f.type.tokens), f.type.optional?.isSome⟩
  accessor := ⟨f.property, f.name, .ofKind kind f.type.optional?.isSome⟩

theorem gives_outputs (h : f.kind? = some kind) :
    f.Gives (f.outputs kind).constant (f.outputs kind).field (f.outputs kind).accessor where
  constant := rfl
  field := rfl
  accessor := rfl
  source := rfl
  kind := by simp [outputs, h]
  nullable := TypeExpr.isSome_optional?
  type_of_optional inner type optional tagged := by
    rw [TypeTag.eq_of_type?_ofKind tagged, TypeExpr.optional?_eq_some.2 optional, Option.getD_some]
  type_of_plain type plain tagged := by
    have none : f.type.optional? = none := by simpa [outputs] using plain
    rw [TypeTag.eq_of_type?_ofKind tagged, none, Option.getD_none]
  reading := by simp [outputs]

theorem contribution_of_read {m : FieldMarks} (read : FieldMarks.read f.attributes = .ok m) :
    f.contribution = match f.kind? with
      | none => .ok none
      | some kind =>
        if isIdentifier (constantName f.property) then .ok (some (f.outputs kind))
        else .error (.unnamable f.property) := by
  obtain rfl : m = f.marks := FieldMarks.read_eq_ok read
  rw [contribution, read]
  cases skipped : f.marks.skipped with
  | true => simp [kind?, skipped]
  | false =>
    cases given : f.marks.kind with
    | none => simp [kind?, given]
    | some kind =>
      simp only [kind?, skipped, given]
      rfl

theorem contribution_of_unread {fault : AttributeFault}
    (unread : FieldMarks.read f.attributes = .error fault) :
    f.contribution = .error (.reported (.attribute fault)) := by
  rw [contribution, unread]

theorem contribution_eq_ok (h : f.contribution = .ok o) : o = f.kind?.map f.outputs := by
  cases read : FieldMarks.read f.attributes with
  | error fault =>
    rw [contribution_of_unread read] at h
    cases h
  | ok m =>
    rw [contribution_of_read read] at h
    split at h
    · rename_i none
      cases h
      rw [none, Option.map_none]
    · rename_i kind given
      split at h
      · cases h
        rw [given, Option.map_some]
      · cases h

end FieldItem

inductive InStep :
    List FieldItem → List Constant → List DerivedField → List Accessor → Prop
  | nil : InStep [] [] [] []
  | cons {f c d a fs cs ds as} : f.Gives c d a → InStep fs cs ds as →
      InStep (f :: fs) (c :: cs) (d :: ds) (a :: as)

namespace InStep

variable {fields : List FieldItem} {os : List (Option Contribution)} {cs : List Constant}
  {ds : List DerivedField} {as : List Accessor}

theorem of_contributions
    (h : List.Forall₂ (fun (f : FieldItem) o => f.contribution = .ok o) fields os) :
    InStep (fields.filter (·.kind?.isSome)) ((os.filterMap id).map (·.constant))
      ((os.filterMap id).map (·.field)) ((os.filterMap id).map (·.accessor)) := by
  induction h with
  | nil => exact .nil
  | @cons f o fields os contributed _ ih =>
    obtain rfl := FieldItem.contribution_eq_ok contributed
    cases marked : f.kind? with
    | none => simpa [marked] using ih
    | some kind => simpa [marked] using ih.cons (FieldItem.gives_outputs marked)

theorem getElem? (h : InStep fields cs ds as) {n : Nat} {c : Constant} (place : cs[n]? = some c) :
    ∃ (f : FieldItem) (d : DerivedField) (a : Accessor),
      fields[n]? = some f ∧ ds[n]? = some d ∧ as[n]? = some a ∧ f.Gives c d a := by
  induction h generalizing n with
  | nil => simp at place
  | @cons f c' d a _ _ _ _ gives _ ih =>
    cases n with
    | zero =>
      obtain rfl : c' = c := by simpa using place
      exact ⟨f, d, a, rfl, rfl, rfl, gives⟩
    | succ n => exact ih place

theorem map_property (h : InStep fields cs ds as) :
    ds.map (·.property) = cs.map (·.property) := by
  induction h with
  | nil => rfl
  | cons gives _ ih => simp [ih, gives.constant, gives.field]

theorem find? (h : InStep fields cs ds as) (name : String) :
    (∃ (n : Nat) (f : FieldItem) (d : DerivedField) (a : Accessor),
      fields[n]? = some f ∧ ds[n]? = some d ∧ as[n]? = some a ∧ f.property = name ∧
        (∀ g ∈ fields.take n, g.property ≠ name) ∧ a.field = f.name ∧
        ds.find? (·.property == name) = some d ∧ as.find? (·.property == name) = some a) ∨
      (∀ g ∈ fields, g.property ≠ name) ∧
        ds.find? (·.property == name) = none ∧ as.find? (·.property == name) = none := by
  induction h with
  | nil => exact .inr ⟨by simp, rfl, rfl⟩
  | @cons f c d a fields cs ds as gives _ ih =>
    by_cases own : f.property = name
    · refine .inl ⟨0, f, d, a, rfl, rfl, rfl, own, by simp, gives.source, ?_, ?_⟩
      · simp [gives.field, own]
      · simp [gives.accessor, own]
    · -- The three lists are passed over together, so what is found behind is one place further on.
      have field : (d :: ds).find? (·.property == name) = ds.find? (·.property == name) :=
        List.find?_cons_of_neg (by simpa [gives.field] using own)
      have accessor : (a :: as).find? (·.property == name) = as.find? (·.property == name) :=
        List.find?_cons_of_neg (by simpa [gives.accessor] using own)
      rw [field, accessor]
      obtain ⟨n, f', d', a', atFields, atSchema, atAccessors, named, first, rest⟩ |
        ⟨others, rest⟩ := ih
      · refine .inl ⟨n + 1, f', d', a', atFields, atSchema, atAccessors, named, ?_, rest⟩
        simpa using ⟨own, first⟩
      · exact .inr ⟨by simpa using ⟨own, others⟩, rest⟩

end InStep

theorem TypeMeaning.field?_schema (types : TypeMeaning) (r : DerivedRecord) (name : String) :
    (types.schema r).field? name = (r.fields.find? (·.property == name)).map types.field := by
  simp only [Schema.field?, schema, List.find?_map]
  rfl

theorem DerivedRecord.ofItem_of_named {i : Item} {fields : List FieldItem}
    (plain : i.isGeneric = false) (named : i.body = .named fields) :
    ofItem i = (fields.mapM FieldItem.contribution).map fun os =>
      ofContributions i.name (os.filterMap id) := by
  rw [ofItem, plain, named]
  cases made : fields.mapM FieldItem.contribution <;> simp only [made] <;> rfl

theorem DerivedRecord.ofItem_reported_or_named (i : Item) :
    (∃ fault, ofItem i = .error (.reported fault)) ∨
      i.isGeneric = false ∧ ∃ fields, i.body = .named fields := by
  unfold ofItem
  split
  · exact .inl ⟨_, rfl⟩
  · rename_i plain
    cases body : i.body with
    | named fields => exact .inr ⟨Bool.eq_false_iff.2 plain, fields, rfl⟩
    | tuple | unit | enum | union => exact .inl ⟨_, rfl⟩

theorem DerivedRecord.inStep_of_ofItem {i : Item} {r : DerivedRecord} (h : ofItem i = .ok r) :
    ∃ fields, i.body = .named fields ∧
      InStep (fields.filter (·.kind?.isSome)) r.constants r.fields r.accessors := by
  obtain ⟨fault, ends⟩ | ⟨plain, fields, named⟩ := ofItem_reported_or_named i
  · cases ends.symm.trans h
  · rw [ofItem_of_named plain named, map_eq_ok] at h
    obtain ⟨os, contributed, rfl⟩ := h
    exact ⟨fields, named, .of_contributions (mapM_eq_ok.1 contributed)⟩

/-- What a name comes to: the schema and the accessors have it at one place, that of the first
declared field with it, or neither of them has it. -/
inductive DerivedRecord.Lookup (r : DerivedRecord) (declared : List FieldItem) (name : String) :
    Prop
  | found {n : Nat} {f : FieldItem} {d : DerivedField} {a : Accessor} :
      declared[n]? = some f → r.fields[n]? = some d → r.accessors[n]? = some a →
      f.property = name → (∀ g ∈ declared.take n, g.property ≠ name) →
      (∀ types : TypeMeaning, (types.schema r).field? name = some (types.field d)) →
      (∀ held, r.read held name = held f.name a.reading) → Lookup r declared name
  | missing : (∀ g ∈ declared, g.property ≠ name) →
      (∀ types : TypeMeaning, (types.schema r).field? name = none) →
      (∀ held, r.read held name = .null) → Lookup r declared name

theorem DerivedRecord.lookup_of_inStep {r : DerivedRecord} {declared : List FieldItem}
    (h : InStep declared r.constants r.fields r.accessors) (name : String) :
    r.Lookup declared name := by
  obtain ⟨n, f, d, a, atFields, atSchema, atAccessors, own, first, source, field, accessor⟩ |
    ⟨others, field, accessor⟩ := h.find? name
  · refine .found atFields atSchema atAccessors own first (fun types => ?_) (fun held => ?_)
    · rw [types.field?_schema, field, Option.map_some]
    · simp only [read, accessor?, accessor, source]
  · refine .missing others (fun types => ?_) (fun held => ?_)
    · rw [types.field?_schema, field, Option.map_none]
    · simp only [read, accessor?, accessor]

/-- Constants, schema and accessors of a derived record come in step from the fields of the struct
that have a kind and are not skipped. So one field of the struct answers for a name, whether it is
looked up in the schema or read. -/
theorem DerivedRecord.outputs_agree_of_ofItem {i : Item} {r : DerivedRecord}
    (h : ofItem i = .ok r) :
    ∃ fields, i.body = .named fields ∧
      InStep (fields.filter (·.kind?.isSome)) r.constants r.fields r.accessors ∧
      ∀ name, r.Lookup (fields.filter (·.kind?.isSome)) name := by
  obtain ⟨fields, named, inStep⟩ := inStep_of_ofItem h
  exact ⟨fields, named, inStep, lookup_of_inStep inStep⟩

theorem DerivedRecord.outputs_agree_of_ofItem_lease :
    let filter (args : List AttributeArgument) : List Attribute :=
      [⟨⟨false, ["filter"]⟩, some args⟩]
    let word (w : String) : AttributeArgument := .path ⟨false, [w]⟩
    let rent : AttributeArgument := .set ⟨false, ["rename"]⟩ (.text "rent")
    let use : TypeExpr := .path [] "Option" (some ⟨false, [.type [.word "Use"]], false⟩)
    let fields : List FieldItem := [⟨"use", use, filter [word "Enum"]⟩,
      ⟨"amount", .path [] "u32" none, filter [word "Int", rent]⟩,
      ⟨"ledger", .path [] "u32" none, filter [word "Int", word "skip"]⟩,
      ⟨"deposit", .path [] "Decimal" none, filter [rent, word "Decimal"]⟩]
    let r : DerivedRecord := ⟨"Lease", [⟨"USE", "use"⟩, ⟨"RENT", "rent"⟩, ⟨"RENT", "rent"⟩],
      [⟨"use", .enum [.word "Use"], true⟩, ⟨"rent", .int, false⟩, ⟨"rent", .decimal, false⟩],
      [⟨"use", "use", .enum true⟩, ⟨"rent", "amount", .converted⟩, ⟨"rent", "deposit", .converted⟩]⟩
    ofItem ⟨"Lease", [], .named fields⟩ = .ok r ∧
      (fields.filter (·.kind?.isSome)).map (·.name) = ["use", "amount", "deposit"] ∧
      InStep (fields.filter (·.kind?.isSome)) r.constants r.fields r.accessors ∧
      r.Lookup (fields.filter (·.kind?.isSome)) "rent" := by
  intro filter word rent use fields r
  have derived : ofItem ⟨"Lease", [], .named fields⟩ = .ok r := by decide +kernel
  obtain ⟨_, named, inStep, lookup⟩ := outputs_agree_of_ofItem derived
  cases named
  exact ⟨derived, by decide +kernel, inStep, lookup "rent"⟩

end RecordQuery.Declaration
