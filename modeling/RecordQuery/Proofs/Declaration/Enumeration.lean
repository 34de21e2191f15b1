import Mathlib.Data.List.Nodup
import RecordQuery.Declaration.Enumeration
import RecordQuery.Proofs.Declaration.Addressing
import RecordQuery.Proofs.Declaration.Discriminant

namespace RecordQuery

theorem EnumType.variant?_value {e : EnumType} (values : (e.variants.map (·.value)).Nodup)
    {v : Variant} (mem : v ∈ e.variants) : e.variant? v.value = some v :=
  find?_key_of_nodup Variant.value values mem

namespace Declaration

def IsWord (z : Int) : Prop := Int64.minValue.toInt ≤ z ∧ z ≤ Int64.maxValue.toInt

instance : DecidablePred IsWord := fun z =>
  inferInstanceAs (Decidable (Int64.minValue.toInt ≤ z ∧ z ≤ Int64.maxValue.toInt))

theorem IsWord.toInt_ofInt {z : Int} (h : IsWord z) : (Int64.ofInt z).toInt = z :=
  Int64.toInt_ofInt_of_le h.1 (Int.lt_of_le_of_lt h.2 (by decide))

theorem nodup_map_ofInt {zs : List Int} (words : ∀ z ∈ zs, IsWord z) (distinct : zs.Nodup) :
    (zs.map Int64.ofInt).Nodup := by
  refine List.Nodup.map_on (fun y hy z hz same => ?_) distinct
  rw [← (words y hy).toInt_ofInt, same, (words z hz).toInt_ofInt]

namespace VariantItem

def marks (v : VariantItem) : VariantMarks := .ofArguments (Attribute.given v.attributes)

def symbol (v : VariantItem) : String := v.marks.rename.getD v.name

def member (v : VariantItem) (value : Int64) : Variant := ⟨v.symbol, value, v.marks.label⟩

structure WellFormed (v : VariantItem) : Prop where
  fieldless : v.hasFields = false
  describe : Attribute.Describe v.attributes

def IsGiven (v : VariantItem) (z : Int) : Prop := ∃ d, v.discriminant = some d ∧ d.Denotes z

variable {v : VariantItem} {w : Variant} {next : Int64} {y z : Int}

theorem IsGiven.unique (h : v.IsGiven y) (h' : v.IsGiven z) : y = z := by
  obtain ⟨d, given, denotes⟩ := h
  obtain ⟨d', given', denotes'⟩ := h'
  cases given.symm.trans given'
  exact denotes.unique denotes'

theorem derive_of_wellFormed (formed : v.WellFormed) (next : Int64) :
    v.derive next = ((v.discriminant.elim (.ok next) Discriminant.value).mapError
      Fault.discriminant).map v.member := by
  rw [derive, formed.fieldless, VariantMarks.read_eq_ok_iff.2 ⟨formed.describe, rfl⟩]
  cases v.discriminant.elim (.ok next) Discriminant.value <;> rfl

theorem derive_eq_ok (h : v.derive next = .ok w) : v.WellFormed ∧ w = v.member w.value := by
  unfold derive at h
  split at h
  · cases h
  · rename_i fieldless
    split at h
    · cases h
    · split at h
      · cases h
      · rename_i marks read
        obtain ⟨describe, rfl⟩ := VariantMarks.read_eq_ok_iff.1 read
        cases h
        exact ⟨⟨Bool.eq_false_iff.2 fieldless, describe⟩, rfl⟩

/-- The number of a variant, where `next` is the one behind that of the variant before it. -/
inductive Takes (v : VariantItem) (next : Int) : Int → Prop
  | given {z : Int} : v.IsGiven z → Takes v next z
  | counted : v.discriminant = none → Takes v next next

theorem derive_of_takes {next : Int} (formed : v.WellFormed) (takes : v.Takes next z)
    (word : IsWord z) (fits : ¬v.IsGiven Int64.minValue.toInt) :
    v.derive (.ofInt next) = .ok (v.member (.ofInt z)) := by
  rw [derive_of_wellFormed formed]
  cases takes with
  | given given =>
    have low : Int64.minValue.toInt < z :=
      lt_of_le_of_ne word.1 fun least => fits (least ▸ given)
    obtain ⟨d, written, denotes⟩ := given
    rw [written, Option.elim_some, denotes.value_eq_ok low word.2]
    rfl
  | counted none =>
    rw [none]
    rfl

theorem derive_of_isGiven_least (formed : v.WellFormed) (given : v.IsGiven Int64.minValue.toInt)
    (next : Int64) : v.derive next = .error (.discriminant .tooLarge) := by
  obtain ⟨d, written, denotes⟩ := given
  rw [derive_of_wellFormed formed, written, Option.elim_some, denotes.value_eq_error]
  rfl

end VariantItem

section Step

variable {v : VariantItem} {w : Variant} {next : Int64} {fault : Fault}

theorem deriveVariants_cons (derived : v.derive next = .ok w) (vs : List VariantItem) :
    deriveVariants next (v :: vs) = (deriveVariants (w.value + 1) vs).map (w :: ·) := by
  rw [deriveVariants, derived, ok_bind]
  cases deriveVariants (w.value + 1) vs <;> rfl

theorem deriveVariants_cons_of_error (fails : v.derive next = .error fault)
    (vs : List VariantItem) : deriveVariants next (v :: vs) = .error fault := by
  rw [deriveVariants, fails]
  rfl

theorem deriveVariants_cons_of_takes {next z : Int} (formed : v.WellFormed)
    (takes : v.Takes next z) (word : IsWord z) (fit : ¬v.IsGiven Int64.minValue.toInt)
    (vs : List VariantItem) : deriveVariants (.ofInt next) (v :: vs) =
      (deriveVariants (.ofInt (z + 1)) vs).map (v.member (.ofInt z) :: ·) := by
  rw [deriveVariants_cons (VariantItem.derive_of_takes formed takes word fit), Int64.ofInt_add]
  rfl

theorem deriveVariants_eq_ok {items : List VariantItem} {ws : List Variant}
    (h : deriveVariants next items = .ok ws) :
    List.Forall₂ (fun (v : VariantItem) w => v.WellFormed ∧ w = v.member w.value) items ws := by
  induction items generalizing next ws with
  | nil =>
    cases h
    exact .nil
  | cons v vs ih =>
    cases derived : v.derive next with
    | error =>
      rw [deriveVariants_cons_of_error derived] at h
      cases h
    | ok w =>
      rw [deriveVariants_cons derived, map_eq_ok] at h
      obtain ⟨ws, rest, rfl⟩ := h
      exact .cons (VariantItem.derive_eq_ok derived) (ih rest)

end Step

/-- The numbers of variants, from `next` on, as integers of any size. -/
inductive Numbered : Int → List VariantItem → List Int → Prop
  | nil {next : Int} : Numbered next [] []
  | cons {next z : Int} {v : VariantItem} {vs : List VariantItem} {zs : List Int} :
      v.Takes next z → Numbered (z + 1) vs zs → Numbered next (v :: vs) (z :: zs)

def numberedMembers (items : List VariantItem) (zs : List Int) : List Variant :=
  items.zipWith (fun v z => v.member (.ofInt z)) zs

namespace Numbered

variable {next : Int} {items : List VariantItem} {zs : List Int}

theorem deriveVariants_eq_ok (h : Numbered next items zs) (formed : ∀ v ∈ items, v.WellFormed)
    (words : ∀ z ∈ zs, IsWord z) (fits : ∀ v ∈ items, ¬v.IsGiven Int64.minValue.toInt) :
    deriveVariants (.ofInt next) items = .ok (numberedMembers items zs) := by
  induction h with
  | nil => rfl
  | @cons _ z v _ _ takes _ ih =>
    obtain ⟨first, others⟩ := List.forall_mem_cons.1 formed
    obtain ⟨word, words⟩ := List.forall_mem_cons.1 words
    obtain ⟨fit, fits⟩ := List.forall_mem_cons.1 fits
    rw [deriveVariants_cons_of_takes first takes word fit, ih others words fits]
    rfl

theorem deriveVariants_eq_error (h : Numbered next items zs) (formed : ∀ v ∈ items, v.WellFormed)
    (words : ∀ z ∈ zs, IsWord z) (least : ∃ v ∈ items, v.IsGiven Int64.minValue.toInt) :
    deriveVariants (.ofInt next) items = .error (.discriminant .tooLarge) := by
  induction h with
  | nil => simp at least
  | @cons _ z v _ _ takes _ ih =>
    obtain ⟨first, others⟩ := List.forall_mem_cons.1 formed
    obtain ⟨word, words⟩ := List.forall_mem_cons.1 words
    by_cases fit : v.IsGiven Int64.minValue.toInt
    · exact deriveVariants_cons_of_error (VariantItem.derive_of_isGiven_least first fit _) _
    · have rest := ((List.exists_mem_cons_iff ..).1 least).resolve_left fit
      rw [deriveVariants_cons_of_takes first takes word fit, ih others words rest]
      rfl

theorem map_value (h : Numbered next items zs) :
    (numberedMembers items zs).map (·.value) = zs.map Int64.ofInt := by
  induction h with
  | nil => rfl
  | cons _ _ ih => exact congrArg _ ih

theorem length_eq (h : Numbered next items zs) : items.length = zs.length := by
  induction h with
  | nil => rfl
  | cons _ _ ih => rw [List.length_cons, List.length_cons, ih]

end Numbered

namespace DerivedEnum

variable {i : Item} {e : DerivedEnum} {items : List VariantItem}

theorem ofItem_of_enum (plain : i.isGeneric = false) (declared : i.body = .enum items) :
    ofItem i = (deriveVariants 0 items).map fun ws =>
      ⟨i.name, ws, items.zipWith (fun v w => ⟨v.name, w.value⟩) ws⟩ := by
  rw [ofItem, plain, declared]
  cases derived : deriveVariants 0 items <;> simp only [derived] <;> rfl

structure StandsFor (e : DerivedEnum) (items : List VariantItem) : Prop where
  members : List.Forall₂ (fun (v : VariantItem) w => v.WellFormed ∧ w = v.member w.value) items
    e.variants
  values : e.values = items.zipWith (fun v w => ⟨v.name, w.value⟩) e.variants

theorem standsFor_of_ofItem (h : ofItem i = .ok e) :
    ∃ items, i.body = .enum items ∧ e.StandsFor items := by
  cases generic : i.isGeneric with
  | true =>
    rw [ofItem, if_pos generic] at h
    cases h
  | false =>
    cases body : i.body with
    | enum items =>
      rw [ofItem_of_enum generic body, map_eq_ok] at h
      obtain ⟨ws, derived, rfl⟩ := h
      exact ⟨items, rfl, deriveVariants_eq_ok derived, rfl⟩
    | named | tuple | unit | union =>
      simp only [ofItem, generic, body] at h
      cases h

theorem StandsFor.map_name (h : e.StandsFor items) :
    e.variants.map (·.name) = items.map (·.symbol) := by
  have members := h.members
  clear h
  generalize e.variants = ws at members
  induction members with
  | nil => rfl
  | cons own _ ih =>
    rw [List.map_cons, List.map_cons, ih, own.2]
    rfl

theorem map_variant_zipWith {R : VariantItem → Variant → Prop} {ws : List Variant}
    (h : List.Forall₂ R items ws) :
    (items.zipWith (fun v w => (⟨v.name, w.value⟩ : VariantValue)) ws).map (·.variant) =
      items.map (·.name) := by
  induction h with
  | nil => rfl
  | cons _ _ ih => exact congrArg _ ih

theorem StandsFor.value?_eq (h : e.StandsFor items) (names : (items.map (·.name)).Nodup) {n : Nat}
    {v : VariantItem} {w : Variant} (here : items[n]? = some v) (there : e.variants[n]? = some w) :
    e.value? v.name = some w.value := by
  have own : e.values.map (·.variant) = items.map (·.name) :=
    h.values ▸ map_variant_zipWith h.members
  have mem : ⟨v.name, w.value⟩ ∈ e.values := by
    rw [h.values, List.mem_iff_getElem?]
    exact ⟨n, by rw [List.getElem?_zipWith, here, there]⟩
  rw [value?, find?_key_of_nodup VariantValue.variant (own ▸ names) mem]
  rfl

theorem ofItem_eq_ok_or_error {zs : List Int} (plain : i.isGeneric = false)
    (declared : i.body = .enum items) (formed : ∀ v ∈ items, v.WellFormed)
    (numbered : Numbered 0 items zs) (words : ∀ z ∈ zs, IsWord z) :
    ofItem i = .ok ⟨i.name, numberedMembers items zs,
      items.zipWith (fun v w => ⟨v.name, w.value⟩) (numberedMembers items zs)⟩ ∧
        (∀ v ∈ items, ¬v.IsGiven Int64.minValue.toInt) ∨
      ofItem i = .error (.discriminant .tooLarge) ∧
        ¬∀ v ∈ items, ¬v.IsGiven Int64.minValue.toInt := by
  have start : deriveVariants 0 items = deriveVariants (.ofInt 0) items := rfl
  rw [ofItem_of_enum plain declared, start]
  by_cases fits : ∀ v ∈ items, ¬v.IsGiven Int64.minValue.toInt
  · rw [numbered.deriveVariants_eq_ok formed words fits]
    exact .inl ⟨rfl, fits⟩
  · rw [numbered.deriveVariants_eq_error formed words (by simpa using fits)]
    exact .inr ⟨rfl, fits⟩

/-- The variants of an enumeration have the numbers that they are given, and others go on from the
one before. That comes to an enumeration exactly if none of them is given the least signed word,
whose literal is too large without its sign. The value of a variant is then its number, and leads to
its own member. -/
theorem ofItem_numbers_variants {zs : List Int} (plain : i.isGeneric = false)
    (declared : i.body = .enum items) (formed : ∀ v ∈ items, v.WellFormed)
    (names : (items.map (·.name)).Nodup) (numbered : Numbered 0 items zs)
    (words : ∀ z ∈ zs, IsWord z) (distinct : zs.Nodup) :
    (∀ ts z, Discriminant.Spells ts z → (Discriminant.ofTokens ts).Denotes z) ∧
      ((∃ e, ofItem i = .ok e) ↔ ∀ v ∈ items, ¬v.IsGiven Int64.minValue.toInt) ∧
      (∀ fault, ofItem i = .error fault → fault = .discriminant .tooLarge) ∧
      ∀ e, ofItem i = .ok e → e.variants.length = items.length ∧
        ∀ (n : Nat) v, items[n]? = some v → ∃ z w, zs[n]? = some z ∧ e.variants[n]? = some w ∧
          w.name = v.symbol ∧ w.label = v.marks.label ∧ w.value.toInt = z ∧
          e.value? v.name = some w.value ∧ ∀ id, (e.enumType id).variant? w.value = some w := by
  have ends := ofItem_eq_ok_or_error plain declared formed numbered words
  refine ⟨fun ts z => Discriminant.denotes_ofTokens, ?_, fun fault fails => ?_, fun e made => ?_⟩
  · obtain ⟨made, fits⟩ | ⟨fails, least⟩ := ends
    · exact iff_of_true ⟨_, made⟩ fits
    · refine iff_of_false ?_ least
      rw [fails]
      simp
  · obtain ⟨made, -⟩ | ⟨fails', -⟩ := ends
    · cases made.symm.trans fails
    · exact Except.error.inj (fails.symm.trans fails')
  · obtain ⟨items', declared', stands⟩ := standsFor_of_ofItem made
    cases declared.symm.trans declared'
    obtain ⟨known, -⟩ | ⟨fails, -⟩ := ends
    · cases made.symm.trans known
      refine ⟨stands.members.length_eq.symm, fun n v here => ?_⟩
      obtain ⟨bound, -⟩ := List.getElem?_eq_some_iff.1 here
      obtain ⟨z, place⟩ : ∃ z, zs[n]? = some z :=
        ⟨_, List.getElem?_eq_getElem (numbered.length_eq ▸ bound)⟩
      have there : (numberedMembers items zs)[n]? = some (v.member (.ofInt z)) := by
        rw [numberedMembers, List.getElem?_zipWith, here, place]
      have values := numbered.map_value ▸ nodup_map_ofInt words distinct
      exact ⟨z, v.member (.ofInt z), place, there, rfl, rfl,
        (words z (List.mem_of_getElem? place)).toInt_ofInt, stands.value?_eq names here there,
        fun _ => EnumType.variant?_value values (List.mem_of_getElem? there)⟩
    · cases made.symm.trans fails

theorem ofItem_numbers_variants_level :
    let next : AttributeArgument := .set ⟨false, ["rename"]⟩ (.text "next")
    let items : List VariantItem :=
      [⟨"Lowest", false, some (.negated (.enclosed (.literal 9223372036854775807))), []⟩,
        ⟨"Second", false, none, [⟨⟨false, ["filter"]⟩, some [next]⟩]⟩,
        ⟨"Highest", false, some (.literal 9223372036854775807), []⟩]
    let zs : List Int := [-9223372036854775807, -9223372036854775806, 9223372036854775807]
    Numbered 0 items zs ∧ (∀ z ∈ zs, IsWord z) ∧ zs.Nodup ∧ (∀ v ∈ items, v.WellFormed) ∧
      (items.map (·.name)).Nodup ∧ ∃ e, ofItem ⟨"Level", [], .enum items⟩ = .ok e ∧
        ∃ w, e.variants[1]? = some w ∧ w.name = "next" ∧ w.value.toInt = -9223372036854775806 ∧
          e.value? "Second" = some w.value ∧ (e.enumType 0).variant? w.value = some w := by
  intro next items zs
  have numbered : Numbered 0 items zs :=
    .cons (.given ⟨_, rfl, .negated (.enclosed .literal)⟩)
      (.cons (.counted rfl) (.cons (.given ⟨_, rfl, .literal⟩) .nil))
  have words : ∀ z ∈ zs, IsWord z := by decide
  have formed : ∀ v ∈ items, v.WellFormed := by
    simp only [items, List.forall_mem_cons, List.not_mem_nil, false_implies, implies_true, and_true]
    refine ⟨⟨rfl, ?_⟩, ⟨rfl, ?_⟩, ⟨rfl, ?_⟩⟩
    · intro a h
      cases h
    · rintro a ⟨⟩
      exact ⟨_, rfl, List.forall_mem_singleton.2 .rename⟩
    · intro a h
      cases h
  have fits : ∀ v ∈ items, ¬v.IsGiven Int64.minValue.toInt := by
    simp only [items, List.forall_mem_cons, List.not_mem_nil, false_implies, implies_true, and_true]
    refine ⟨fun least => ?_, fun least => ?_, fun least => ?_⟩
    · exact absurd (least.unique ⟨_, rfl, .negated (.enclosed .literal)⟩) (by decide)
    · obtain ⟨_, given, -⟩ := least
      cases given
    · exact absurd (least.unique ⟨_, rfl, .literal⟩) (by decide)
  obtain ⟨-, ends, -, numbers⟩ :=
    @ofItem_numbers_variants ⟨"Level", [], .enum items⟩ items zs rfl rfl formed (by decide) numbered
      words (by decide)
  obtain ⟨e, made⟩ := ends.2 fits
  obtain ⟨z, w, place, there, name, -, value, own, leads⟩ := (numbers e made).2 1 _ rfl
  cases place
  exact ⟨numbered, words, by decide, formed, by decide, e, made, w, there, name, value, own,
    leads 0⟩

theorem ofItem_refuses_least_word :
    let least : List Token := [.sign '-', .literal "9223372036854775808"]
    let items : List VariantItem := [⟨"Lowest", false, some (.ofTokens least), []⟩]
    Discriminant.Spells least Int64.minValue.toInt ∧ Numbered 0 items [Int64.minValue.toInt] ∧
      IsWord Int64.minValue.toInt ∧ (∀ v ∈ items, v.WellFormed) ∧ (items.map (·.name)).Nodup ∧
      ofItem ⟨"Level", [], .enum items⟩ = .error (.discriminant .tooLarge) := by
  intro least items
  have digits : "223372036854775808".toList.all Text.isDigit = true := by decide
  have literal : WholeNumber.Spells "9223372036854775808".toList 9223372036854775808 :=
    @WholeNumber.Spells.mk '9' "223372036854775808".toList [] rfl
      (fun c mem => .inl (List.all_eq_true.1 digits c mem)) (.inl rfl)
  have spells : Discriminant.Spells least Int64.minValue.toInt := .negated (.literal literal)
  have given : VariantItem.IsGiven ⟨"Lowest", false, some (.ofTokens least), []⟩
      Int64.minValue.toInt := ⟨_, rfl, Discriminant.denotes_ofTokens spells⟩
  have numbered : Numbered 0 items [Int64.minValue.toInt] := .cons (.given given) .nil
  have formed : ∀ v ∈ items, v.WellFormed := by
    refine List.forall_mem_singleton.2 ⟨rfl, fun a h => ?_⟩
    cases h
  have word : ∀ z ∈ [Int64.minValue.toInt], IsWord z := by decide
  refine ⟨spells, numbered, by decide, formed, by decide, ?_⟩
  obtain ⟨-, fits⟩ | ⟨fails, -⟩ :=
    @ofItem_eq_ok_or_error ⟨"Level", [], .enum items⟩ items _ rfl rfl formed numbered word
  · exact absurd given (fits _ List.mem_cons_self)
  · exact fails

end DerivedEnum

end Declaration

end RecordQuery
