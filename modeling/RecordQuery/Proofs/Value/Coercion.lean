import RecordQuery.Coercion
import RecordQuery.Labels
import RecordQuery.Predicate
import RecordQuery.Proofs.Value.Order

namespace RecordQuery

inductive Scalar.ReadsAs : Scalar → FieldType → Prop
  | flag {b} : ReadsAs (.flag b) .bool
  | signed {i} : ReadsAs (.number (.signed i)) .int
  | unsigned {n} : ReadsAs (.number (.unsigned n)) .int
  | float {x} : x.isFinite → ReadsAs (.number (.float x)) .float
  | decimal {d} : ReadsAs (.number (.decimal d)) .decimal
  | guid {g} : ReadsAs (.guid g) .guid
  | dateTime {t} : ReadsAs (.dateTime t) .dateTime
  | text {s} : ReadsAs (.text s) .string
  | member {e v} : v ∈ e.variants → ReadsAs (.member v.value) (.enum e)

namespace EnumType

theorem exists_mem_of_read? {e : EnumType} {s : String} {n : Int64} (h : e.read? s = some n) :
    ∃ v ∈ e.variants, v.value = n := by
  simp only [read?, variant?] at h
  split at h
  · obtain ⟨v, found, rfl⟩ := Option.map_eq_some_iff.1 h
    exact ⟨v, List.mem_of_find?_eq_some found, rfl⟩
  · obtain ⟨v, found, rfl⟩ := Option.map_eq_some_iff.1 h
    rcases Option.or_eq_some_iff.1 found with found | ⟨-, found⟩
    · exact ⟨v, List.mem_of_find?_eq_some found, rfl⟩
    · exact ⟨v, List.mem_of_find?_eq_some found, rfl⟩

theorem exists_mem_of_mem_search {e : EnumType} {labels : Labels} {needle : String} {n : Int64}
    (h : n ∈ e.search labels needle) : ∃ v ∈ e.variants, v.value = n := by
  obtain ⟨v, hv, rfl⟩ := List.mem_map.1 h
  exact ⟨v, (List.mem_filter.1 hv).1, rfl⟩

end EnumType

theorem readsAs_of_read? {s : String} {type : FieldType} {c : Scalar} (h : type.read? s = some c) :
    c.ReadsAs type := by
  cases type with
  | string | record => cases h
  | bool | decimal | guid | dateTime =>
    obtain ⟨_, -, rfl⟩ := Option.map_eq_some_iff.1 h
    constructor
  | int =>
    obtain ⟨n, read, rfl⟩ := Option.map_eq_some_iff.1 h
    simp only [Number.readInteger?] at read
    rcases Option.or_eq_some_iff.1 read with read | ⟨-, read⟩
    · obtain ⟨i, -, rfl⟩ := Option.map_eq_some_iff.1 read
      exact .signed
    · obtain ⟨n, -, rfl⟩ := Option.map_eq_some_iff.1 read
      exact .unsigned
  | float =>
    obtain ⟨x, read, rfl⟩ := Option.map_eq_some_iff.1 h
    exact .float (Option.filter_eq_some_iff.1 read).2
  | enum e =>
    obtain ⟨n, read, rfl⟩ := Option.map_eq_some_iff.1 h
    obtain ⟨v, hv, rfl⟩ := EnumType.exists_mem_of_read? read
    exact .member hv

theorem readsAs_of_coerce {s : String} {type : FieldType} {c : Scalar}
    (h : coerce s type = .ok c) : c.ReadsAs type := by
  cases type with
  | string =>
    cases h
    exact .text
  | record =>
    simp only [coerce] at h
    split at h <;> cases h
  | _ =>
    simp only [coerce] at h
    split at h
    · cases h
    · split at h
      · cases h
        exact readsAs_of_read? ‹_›
      · cases h

theorem coerce_dateTime_of_read? {text : String} {t : DateTime} (trimmed : Text.trim text = text)
    (read : DateTime.read? text = some t) : coerce text .dateTime = .ok (.dateTime t) := by
  have some : text ≠ "" := by
    rintro rfl
    cases read
  simp [coerce, trimmed, some, FieldType.read?, read]

namespace Value

def order? (v : Value) (c : Scalar) : Option Ordering := v.compareBy compare (.scalar c)

theorem satisfies_iff {c : Scalar} {op : Operator} {v : Value} :
    c.satisfies op v ↔ ∃ o, v.order? c = some o ∧ op.holds o := by
  cases v <;> simp [Scalar.satisfies, order?, compareBy, Scalar.compare, Option.any_eq_true]

theorem order?_dateTime_eq_some {v : Value} {t : DateTime} {o : Ordering} :
    v.order? (.dateTime t) = some o ↔ ∃ u, v = .scalar (.dateTime u) ∧ u.compare t = o := by
  cases v with
  | scalar s => cases s <;> simp [order?, compareBy, Scalar.compareBy]
  | _ => simp [order?, compareBy]

theorem hasPlace_of_readsAs {c : Scalar} {t : FieldType} (h : c.ReadsAs t) :
    (Value.scalar c).HasPlace t := by
  cases h with
  | float finite =>
    refine ⟨.float, ?_⟩
    simp only [Double.isFinite, decide_eq_true_eq] at finite
    simpa [sortsLast, isNull, isNaN, Number.isNaN, Double.isNaN] using Nat.le_of_lt finite
  | _ => exact ⟨by constructor, rfl⟩

theorem isSortable_of_readsAs {c : Scalar} {t : FieldType} (h : c.ReadsAs t) : t.isSortable := by
  cases h <;> rfl

theorem sortsLast_of_order?_eq_none {v : Value} {c : Scalar} {t : FieldType} (hv : v.HasType t)
    (hc : c.ReadsAs t) (none : v.order? c = none) : v.sortsLast := by
  cases last : v.sortsLast with
  | true => rfl
  | false =>
    obtain ⟨o, ho⟩ := exists_inOrder compare (isSortable_of_readsAs hc) ⟨hv, last⟩
      (hasPlace_of_readsAs hc)
    rw [order?, ho.compareBy_eq] at none
    cases none

theorem order?_eq_none_of_sortsLast {v : Value} (last : v.sortsLast = true) (c : Scalar) :
    v.order? c = none := by
  cases v with
  | null => rfl
  | record => cases last
  | scalar s =>
    cases s with
    | number n =>
      cases n with
      | float x =>
        have nan : x.isNaN = true := last
        cases c with
        | number m =>
          cases m <;> simp [order?, compareBy, Scalar.compareBy, Number.compare, Number.toDouble,
            Double.compare, nan]
        | _ => rfl
      | _ => cases last
    | _ => cases last

end Value

end RecordQuery
