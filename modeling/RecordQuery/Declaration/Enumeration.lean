import RecordQuery.Declaration.Item
import RecordQuery.Schema.Basic

namespace RecordQuery.Declaration

structure VariantValue where
  variant : String
  value : Int64
  deriving DecidableEq

structure DerivedEnum where
  name : String
  variants : List Variant
  values : List VariantValue
  deriving DecidableEq

def VariantItem.derive (v : VariantItem) (next : Int64) : Except Fault Variant :=
  if v.hasFields then .error .variantWithFields
  else
    match v.discriminant.elim (.ok next) Discriminant.value with
    | .error fault => .error (.discriminant fault)
    | .ok value =>
      match VariantMarks.read v.attributes with
      | .error fault => .error (.attribute fault)
      | .ok marks => .ok ⟨marks.rename.getD v.name, value, marks.label⟩

/-- Values go on from one variant to the next and wrap around behind the greatest. -/
def deriveVariants (next : Int64) : List VariantItem → Except Fault (List Variant)
  | [] => .ok []
  | v :: vs => do
    let variant ← v.derive next
    return variant :: (← deriveVariants (variant.value + 1) vs)

namespace DerivedEnum

def ofItem (i : Item) : Except Fault DerivedEnum :=
  if i.isGeneric then .error (.generic .enumeration)
  else match i.body with
    | .enum items => do
      let variants ← deriveVariants 0 items
      return ⟨i.name, variants, items.zipWith (fun v x => ⟨v.name, x.value⟩) variants⟩
    | _ => .error .notEnum

def value? (e : DerivedEnum) (variant : String) : Option Int64 :=
  (e.values.find? (·.variant == variant)).map (·.value)

def enumType (e : DerivedEnum) (id : Nat) : EnumType := ⟨id, e.name, e.variants⟩

end DerivedEnum

end RecordQuery.Declaration
