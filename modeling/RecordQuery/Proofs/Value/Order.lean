import RecordQuery.Proofs.Number.Exact
import RecordQuery.Proofs.Order.Preorder

namespace RecordQuery

inductive Value.HasType : Value → FieldType → Prop
  | null {t} : HasType .null t
  | flag {b} : HasType (.scalar (.flag b)) .bool
  | signed {i} : HasType (.scalar (.number (.signed i))) .int
  | unsigned {n} : HasType (.scalar (.number (.unsigned n))) .int
  | float {x} : HasType (.scalar (.number (.float x))) .float
  | decimal {d} : HasType (.scalar (.number (.decimal d))) .decimal
  | guid {g} : HasType (.scalar (.guid g)) .guid
  | dateTime {t} : HasType (.scalar (.dateTime t)) .dateTime
  | text {s} : HasType (.scalar (.text s)) .string
  | member {v e} : HasType (.scalar (.member v)) (.enum e)
  | record {r s} : HasType (.record r) (.record s)

instance : Std.TransCmp Date.compare :=
  inferInstanceAs (Std.TransCmp (compareLex (compareOn Date.year)
    (compareLex (compareOn Date.month) (compareOn Date.day))))

theorem Date.compare_eq_iff {a b : Date} : a.compare b = .eq ↔ a = b := by
  cases a
  cases b
  simp [compare, Ordering.then_eq_eq]

instance : Std.TransCmp Clock.compare :=
  inferInstanceAs (Std.TransCmp (compareLex (compareOn Clock.hour)
    (compareLex (compareOn Clock.minute) (compareLex (compareOn Clock.second)
      (compareOn Clock.nano)))))

instance : Std.TransCmp DateTime.compare :=
  inferInstanceAs (Std.TransCmp (compareLex (Ordering.byKey DateTime.date Date.compare)
    (Ordering.byKey DateTime.clock Clock.compare)))

instance : Std.TransCmp Guid.compare :=
  inferInstanceAs (Std.TransCmp (compareOn fun g : Guid => g.value.toNat))

theorem Number.transCmp_rational :
    Std.TransCmp fun m n : {n : Number // n.rational?.isSome} => (m.1.compare n.1).getD .eq := by
  have values : (fun m n : {n : Number // n.rational?.isSome} => (m.1.compare n.1).getD .eq) =
      compareOn fun n => n.1.rational?.get n.2 := by
    funext m n
    rw [compare_eq_of_rational? (Option.some_get m.2).symm (Option.some_get n.2).symm]
    rfl
  rw [values]
  infer_instance

theorem Double.transCmp_place :
    Std.TransCmp fun x y : {x : Double // x.isNaN = false} => (x.1.compare y.1).getD .eq := by
  have places : (fun x y : {x : Double // x.isNaN = false} => (x.1.compare y.1).getD .eq) =
      compareOn fun x => x.1.place := by
    funext x y
    simp [Double.compare, x.2, y.2, compareOn]
  rw [places]
  infer_instance

namespace Value

def HasPlace (t : FieldType) (v : Value) : Prop := v.HasType t ∧ v.sortsLast = false

theorem preorderOn_of_scalars {β : Type} {t : FieldType} {texts : String → String → Ordering}
    (sortable : t.isSortable) (scalar : β → Scalar)
    (h : Std.TransCmp fun x y =>
      ((Value.scalar (scalar x)).compareBy texts (.scalar (scalar y))).getD .eq)
    (onto : ∀ s, HasPlace t (.scalar s) → ∃ y, scalar y = s := by
      rintro _ ⟨⟨⟩, -⟩
      exact ⟨_, rfl⟩) :
    PreorderOn (HasPlace t) fun a b => (a.compareBy texts b).getD .eq := by
  refine .of_range (f := fun y => .scalar (scalar y)) ?_ h
  rintro v ⟨typed, last⟩
  cases v with
  | null => cases last
  | scalar s =>
    obtain ⟨y, rfl⟩ := onto s ⟨typed, last⟩
    exact ⟨y, rfl⟩
  | record =>
    cases typed
    cases sortable

theorem preorderOn_of_numbers {t : FieldType} (texts : String → String → Ordering)
    (sortable : t.isSortable)
    (onto : ∀ s, HasPlace t (.scalar s) → ∃ n : Number, n.rational?.isSome ∧ .number n = s) :
    PreorderOn (HasPlace t) fun a b => (a.compareBy texts b).getD .eq := by
  refine preorderOn_of_scalars sortable
    (fun n : {n : Number // n.rational?.isSome} => .number n.1) Number.transCmp_rational ?_
  intro s place
  obtain ⟨n, value, rfl⟩ := onto s place
  exact ⟨⟨n, value⟩, rfl⟩

theorem preorderOn_hasPlace (texts : String → String → Ordering) (h : Std.TransCmp texts)
    (t : FieldType) : PreorderOn (HasPlace t) fun a b => (a.compareBy texts b).getD .eq := by
  cases t with
  | bool =>
    exact preorderOn_of_scalars rfl .flag (inferInstanceAs (Std.TransCmp (compareOn Bool.toNat)))
  | int =>
    refine preorderOn_of_numbers texts rfl ?_
    rintro _ ⟨_ | _, -⟩
    · exact ⟨.signed _, rfl, rfl⟩
    · exact ⟨.unsigned _, rfl, rfl⟩
  | float =>
    refine preorderOn_of_scalars rfl
      (fun x : {x : Double // x.isNaN = false} => .number (.float x.1)) Double.transCmp_place ?_
    rintro _ ⟨⟨⟩, last⟩
    exact ⟨⟨_, last⟩, rfl⟩
  | decimal =>
    refine preorderOn_of_numbers texts rfl ?_
    rintro _ ⟨⟨⟩, -⟩
    exact ⟨.decimal _, rfl, rfl⟩
  | guid => exact preorderOn_of_scalars rfl .guid (inferInstanceAs (Std.TransCmp Guid.compare))
  | dateTime =>
    exact preorderOn_of_scalars rfl .dateTime (inferInstanceAs (Std.TransCmp DateTime.compare))
  | string => exact preorderOn_of_scalars rfl .text h
  | enum e =>
    exact preorderOn_of_scalars rfl .member
      (inferInstanceAs (Std.TransCmp (compareOn Int64.toInt)))
  | record s =>
    have equal : Std.TransCmp fun _ _ : Record => Ordering.eq :=
      { eq_swap := rfl, isLE_trans := fun _ _ => rfl }
    refine .of_range (f := .record) ?_ equal
    rintro v ⟨_ | _, last⟩
    · cases last
    · exact ⟨_, rfl⟩

inductive InOrder (texts : String → String → Ordering) : Value → Value → Ordering → Prop
  | flag {a b} : InOrder texts (.scalar (.flag a)) (.scalar (.flag b)) (compare a.toNat b.toNat)
  | rational {m n x y} : m.rational? = some x → n.rational? = some y →
      InOrder texts (.scalar (.number m)) (.scalar (.number n)) (compare x y)
  | float {x y} : x.isNaN = false → y.isNaN = false →
      InOrder texts (.scalar (.number (.float x))) (.scalar (.number (.float y)))
        (compare x.place y.place)
  | guid {a b} : InOrder texts (.scalar (.guid a)) (.scalar (.guid b))
      (compare a.value.toNat b.value.toNat)
  | dateTime {a b} : InOrder texts (.scalar (.dateTime a)) (.scalar (.dateTime b)) (a.compare b)
  | text {a b} : InOrder texts (.scalar (.text a)) (.scalar (.text b)) (texts a b)
  | member {a b} : InOrder texts (.scalar (.member a)) (.scalar (.member b))
      (compare a.toInt b.toInt)

variable {texts : String → String → Ordering} {t : FieldType} {a b : Value}

theorem InOrder.compareBy_eq {o : Ordering} (h : InOrder texts a b o) :
    a.compareBy texts b = some o := by
  cases h with
  | rational hm hn => exact Number.compare_eq_of_rational? hm hn
  | float hx hy =>
    simp [compareBy, Scalar.compareBy, Number.compare, Number.toDouble, Double.compare, hx, hy]
  | _ => rfl

theorem exists_inOrder (texts : String → String → Ordering) (sortable : t.isSortable)
    (ha : a.HasPlace t) (hb : b.HasPlace t) : ∃ o, InOrder texts a b o := by
  obtain ⟨ha, la⟩ := ha
  obtain ⟨hb, lb⟩ := hb
  cases ha with
  | null => cases la
  | float =>
    cases hb with
    | null => cases lb
    | float => exact ⟨_, .float la lb⟩
  | record => cases sortable
  | signed | unsigned | decimal =>
    cases hb with
    | null => cases lb
    | _ => exact ⟨_, .rational rfl rfl⟩
  | flag | guid | dateTime | text | member =>
    cases hb with
    | null => cases lb
    | _ => exact ⟨_, by constructor⟩

end Value

end RecordQuery
