import RecordQuery.Inspect
import RecordQuery.Proofs.Calendar.Text
import RecordQuery.Proofs.Guid
import RecordQuery.Proofs.Number.Text
import RecordQuery.Proofs.Value.Coercion

namespace RecordQuery

open Text

namespace Scalar

inductive ShownAs : Scalar → String → Prop
  | text {s} : s ≠ "" → ShownAs (.text s) s
  | signed {i} : ShownAs (.number (.signed i)) (integerText i.toInt)
  | unsigned {n} : ShownAs (.number (.unsigned n)) (naturalText n.toNat)
  | decimal {d} : ShownAs (.number (.decimal d)) d.render
  | guid {g} : ShownAs (.guid g) g.render
  | flag {b} : ShownAs (.flag b) (Inspect.truth b)
  | dateTime {t separator fraction} : t.HasPlainYear → separator = 'T' ∨ separator = ' ' →
      ShowsFraction t.clock.nano fraction →
      ShownAs (.dateTime t) (String.ofList (t.isoChars separator fraction))

end Scalar

theorem Value.order?_number_of_rational {m n : Number} {x : ℚ} (hm : m.rational? = some x)
    (hn : n.rational? = some x) :
    (Value.scalar (.number m)).order? (.number n) = some .eq := by
  have order : m.compare n = some (compare x x) := Number.compare_eq_of_rational? hm hn
  rwa [compare_eq_iff_eq.2 rfl] at order

def FieldType.ReadsBack (type : FieldType) (s : Scalar) (text : String) : Prop :=
  trim text = text ∧ ∃ c, type.read? text = some c ∧ (Value.scalar s).order? c = some .eq

theorem FieldType.ReadsBack.of_visible {type : FieldType} {s c : Scalar} {text : String}
    (visible : ∀ ch ∈ text.toList, isBlank ch = false) (read : type.read? text = some c)
    (order : (Value.scalar s).order? c = some .eq) : type.ReadsBack s text :=
  ⟨trim_eq_self (trimChars_of_forall visible), c, read, order⟩

theorem readsBack_signed (i : Int64) :
    FieldType.int.ReadsBack (.number (.signed i)) (integerText i.toInt) := by
  have read : FieldType.int.read? (integerText i.toInt) = some (.number (.signed i)) := by
    rw [FieldType.read?, Number.readInteger?_integerText]
    rfl
  exact .of_visible (fun _ => isBlank_of_mem_integerText) read
    (Value.order?_number_of_rational rfl rfl)

theorem readsBack_unsigned (n : UInt64) :
    FieldType.int.ReadsBack (.number (.unsigned n)) (naturalText n.toNat) := by
  obtain ⟨m, found, value⟩ := Number.exists_readInteger?_naturalText n
  have read : FieldType.int.read? (naturalText n.toNat) = some (.number m) := by
    rw [FieldType.read?, found]
    rfl
  exact .of_visible (fun _ => isBlank_of_mem_naturalText) read
    (Value.order?_number_of_rational rfl value)

theorem readsBack_decimal (d : Decimal) :
    FieldType.decimal.ReadsBack (.number (.decimal d)) d.render := by
  obtain ⟨e, found, value⟩ := d.exists_read?_render
  have read : FieldType.decimal.read? d.render = some (.number (.decimal e)) := by
    rw [FieldType.read?, found]
    rfl
  exact .of_visible (fun _ => Decimal.isBlank_of_mem_render) read
    (Value.order?_number_of_rational rfl (congrArg some value))

theorem readsBack_guid (g : Guid) : FieldType.guid.ReadsBack (.guid g) g.render := by
  have read : FieldType.guid.read? g.render = some (.guid g) := by
    rw [FieldType.read?, Guid.read?_render]
    rfl
  exact .of_visible (fun _ => Guid.isBlank_of_mem_render) read
    (congrArg some (Std.ReflCmp.compare_self : g.compare g = .eq))

theorem readsBack_flag : ∀ b, FieldType.bool.ReadsBack (.flag b) (Inspect.truth b)
  | true => ⟨by decide, .flag true, by decide, rfl⟩
  | false => ⟨by decide, .flag false, by decide, rfl⟩

theorem readsBack_dateTime {t : DateTime} {separator : Char} {fraction : List Char}
    (plain : t.HasPlainYear) (separates : separator = 'T' ∨ separator = ' ')
    (shows : ShowsFraction t.clock.nano fraction) : FieldType.dateTime.ReadsBack (.dateTime t)
      (String.ofList (t.isoChars separator fraction)) := by
  refine ⟨trim_eq_self ?_, .dateTime t, ?_,
    congrArg some (Std.ReflCmp.compare_self : t.compare t = .eq)⟩
  · rw [String.toList_ofList]
    exact DateTime.trimChars_isoChars plain fun _ => isBlank_of_mem_fraction shows
  · rw [FieldType.read?, DateTime.read?_isoChars plain separates shows]
    rfl

theorem FieldType.read?_empty {type : FieldType} (plain : type.enum? = none) :
    type.read? "" = none := by
  cases type with
  | enum => cases plain
  | _ => rfl

namespace Scalar.ShownAs

variable {s : Scalar} {text : String} {type : FieldType}

theorem enum?_eq_none (shown : s.ShownAs text) (typed : (Value.scalar s).HasType type) :
    type.enum? = none := by
  cases shown <;> cases typed <;> rfl

theorem readsBack (shown : s.ShownAs text) (typed : (Value.scalar s).HasType type)
    (other : type ≠ .string) : type.ReadsBack s text := by
  cases shown with
  | text =>
    cases typed
    exact absurd rfl other
  | signed =>
    cases typed
    exact readsBack_signed _
  | unsigned =>
    cases typed
    exact readsBack_unsigned _
  | decimal =>
    cases typed
    exact readsBack_decimal _
  | guid =>
    cases typed
    exact readsBack_guid _
  | flag =>
    cases typed
    exact readsBack_flag _
  | dateTime plain separates shows =>
    cases typed
    exact readsBack_dateTime plain separates shows

theorem ne_empty (shown : s.ShownAs text) (typed : (Value.scalar s).HasType type) :
    text ≠ "" := by
  by_cases string : type = .string
  · subst string
    cases typed
    cases shown
    assumption
  · rintro rfl
    obtain ⟨-, c, read, -⟩ := shown.readsBack typed string
    rw [FieldType.read?_empty (shown.enum?_eq_none typed)] at read
    cases read

theorem exists_coerce (shown : s.ShownAs text) (typed : (Value.scalar s).HasType type) :
    ∃ c, coerce text type = .ok c ∧ (Value.scalar s).order? c = some .eq := by
  by_cases string : type = .string
  · subst string
    cases typed
    cases shown
    exact ⟨.text _, rfl, congrArg some (Std.ReflOrd.compare_self : Ord.compare text text = .eq)⟩
  · have some := shown.ne_empty typed
    obtain ⟨trimmed, c, read, order⟩ := shown.readsBack typed string
    refine ⟨c, ?_, order⟩
    cases type with
    | string | record => cases read
    | _ => simp [coerce, trimmed, some, read]

end Scalar.ShownAs

end RecordQuery
