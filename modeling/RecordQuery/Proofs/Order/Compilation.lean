import RecordQuery.Proofs.Order.Keys
import RecordQuery.Proofs.Schema.Path
import RecordQuery.Settings

namespace RecordQuery

theorem FieldType.isSortable_eq_true {type : FieldType} :
    type.isSortable = true ↔ ∀ next, type ≠ .record next := by
  cases type <;> simp [isSortable]

theorem FieldType.isSortable_eq_false {type : FieldType} :
    type.isSortable = false ↔ ∃ next, type = .record next := by
  cases type <;> simp [isSortable]

structure SortKey.SortsBy (k : SortKey) (p : Property) (direction : Direction) : Prop where
  path : k.path = p.path
  type : k.type = p.type
  nullsLast : k.nullsLast = p.nullable
  direction : k.direction = direction

namespace SortSpec

variable {type : RecordType} {s : SortSpec} {k : SortKey} {e : PropertyError}

structure Names (type : RecordType) (s : SortSpec) (p : Property) : Prop where
  found : type.property s.property = .ok p
  plain : ∀ next, p.type ≠ .record next

def HasKey (type : RecordType) (s : SortSpec) (k : SortKey) : Prop :=
  ∃ p, s.Names type p ∧ k.SortsBy p s.direction

inductive Fails (type : RecordType) (s : SortSpec) : PropertyError → Prop
  | unknown : (∀ p, type.property s.property ≠ .ok p) →
      Fails type s (.unknown s.property type.schema.name)
  | notSortable {p next} : type.property s.property = .ok p → p.type = .record next →
      Fails type s (.notSortable s.property "record")

theorem hasKey_iff : s.HasKey type k ↔ Order.key type s.property s.descending = .ok k := by
  rw [Order.key_eq_ok]
  constructor
  · rintro ⟨p, ⟨found, plain⟩, sorts⟩
    refine ⟨p, FieldType.isSortable_eq_true.2 plain, found, ?_⟩
    obtain ⟨path, direction, nullsLast, kind, sortable⟩ := k
    obtain ⟨rfl, rfl, rfl, rfl⟩ := sorts
    rfl
  · rintro ⟨p, sortable, found, rfl⟩
    exact ⟨p, ⟨found, FieldType.isSortable_eq_true.1 sortable⟩, ⟨rfl, rfl, rfl, rfl⟩⟩

theorem exists_hasKey_iff : (∃ k, s.HasKey type k) ↔ ∃ p, s.Names type p := by
  constructor
  · rintro ⟨k, p, names, -⟩
    exact ⟨p, names⟩
  · rintro ⟨p, names⟩
    have sortable := FieldType.isSortable_eq_true.2 names.plain
    exact ⟨⟨p.path, s.direction, p.nullable, p.type, sortable⟩, p, names, rfl, rfl, rfl, rfl⟩

theorem fails_iff : s.Fails type e ↔ Order.key type s.property s.descending = .error e := by
  rw [Order.key_eq_error]
  constructor
  · intro fails
    cases fails with
    | unknown none =>
      cases found : type.property s.property with
      | ok p => exact absurd found (none p)
      | error e => exact .inl (congrArg _ (RecordType.property_eq_error.1 found).2)
    | @notSortable p next found record =>
      exact .inr ⟨p, found, FieldType.isSortable_eq_false.2 ⟨next, record⟩, by rw [record]; rfl⟩
  · rintro (missing | ⟨p, found, unsortable, rfl⟩)
    · rw [(RecordType.property_eq_error.1 missing).2]
      exact .unknown fun p found => by cases found.symm.trans missing
    · obtain ⟨next, record⟩ := FieldType.isSortable_eq_false.1 unsortable
      rw [record]
      exact .notSortable found record

end SortSpec

namespace Order

theorem foldlM_thenBy (type : RecordType) (specs : List SortSpec) (o : Order) :
    specs.foldlM (fun (o : Order) s => o.thenBy type s.property s.descending) o =
      (specs.mapM fun s => key type s.property s.descending).map
        fun keys => { o with keys := o.keys ++ keys } := by
  induction specs generalizing o with
  | nil => simp [pure, Except.pure, Except.map]
  | cons s specs ih =>
    rw [List.foldlM_cons, List.mapM_cons, thenBy]
    cases key type s.property s.descending with
    | error => rfl
    | ok k =>
      simp only [ok_bind, pure, Except.pure, ih]
      cases specs.mapM fun s => key type s.property s.descending with
      | error => rfl
      | ok keys => simp [Except.map]

theorem compile_eq_foldlM (type : RecordType) (c : Collation) (specs : List SortSpec) :
    compile type c specs =
      specs.foldlM (fun o s => o.thenBy type s.property s.descending) (empty c) := by
  rw [foldlM_thenBy, compile]
  cases specs.mapM fun s => key type s.property s.descending <;> rfl

theorem compile_eq_error {type : RecordType} {c : Collation} {specs : List SortSpec}
    {e : PropertyError} :
    compile type c specs = .error e ↔
      (specs.mapM fun s => key type s.property s.descending) = .error e := by
  rw [compile, bind_eq_error, or_iff_left]
  rintro ⟨keys, -, h⟩
  cases h

end Order

namespace Settings

/-- Sort specs come to an order only together. Its keys then are theirs, one for each and in their
order, as if they had been added one at a time. Otherwise the first spec that names nothing, or a
record, says what is wrong, whatever stands behind it. -/
theorem compileOrder_all_or_nothing (s : Settings) (type : RecordType) (specs : List SortSpec) :
    ((∃ o, s.compileOrder type specs = .ok o) ↔ ∀ spec ∈ specs, ∃ p, spec.Names type p) ∧
    (∀ o, s.compileOrder type specs = .ok o ↔
      List.Forall₂ (SortSpec.HasKey type) specs o.keys ∧ o.collation = s.collation) ∧
    (∀ e, s.compileOrder type specs = .error e ↔ ∃ before spec after,
      specs = before ++ spec :: after ∧ (∀ spec' ∈ before, ∃ p, spec'.Names type p) ∧
        spec.Fails type e) ∧
    s.compileOrder type specs =
      specs.foldlM (fun o spec => o.thenBy type spec.property spec.descending)
        (.empty s.collation) := by
  refine ⟨?_, fun o => ?_, fun e => ?_, Order.compile_eq_foldlM type s.collation specs⟩
  · simp only [← SortSpec.exists_hasKey_iff, SortSpec.hasKey_iff, ← exists_mapM_eq_ok]
    exact exists_bind_pure_eq_ok
  · have made : SortSpec.HasKey type =
        fun spec k => Order.key type spec.property spec.descending = .ok k := by
      funext spec k
      exact propext SortSpec.hasKey_iff
    rw [compileOrder, Order.compile_eq_ok, made]
  · rw [compileOrder, Order.compile_eq_error, mapM_eq_error]
    simp only [← SortSpec.exists_hasKey_iff, SortSpec.hasKey_iff, SortSpec.fails_iff]

example (s : Settings) :
    let type : RecordType := ⟨fun _ => ⟨"Pet", [⟨"owner", .record 0, false⟩]⟩, 0⟩
    s.compileOrder type [⟨"owner", false⟩, ⟨"name", true⟩] =
      .error (.notSortable "owner" "record") := by
  rfl

end Settings

end RecordQuery
