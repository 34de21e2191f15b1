import RecordQuery.Proofs.Declaration.Agreement

/-!
Which properties give their constants a name. What ends a derivation is the first field that does
not pass: one with a fault, which is reported, or one whose property gives no name.
-/

namespace RecordQuery.Declaration

open Text

theorem apply_upperAscii {p : Char → Bool}
    (alike : ∀ n < 26, p (Char.ofNat (65 + n)) = p (Char.ofNat (97 + n))) (c : Char) :
    p (upperAscii c) = p c := by
  unfold upperAscii
  split
  · rename_i letter
    have bounds : 97 ≤ c.toNat ∧ c.toNat ≤ 122 := letter
    obtain ⟨n, place⟩ := Nat.exists_eq_add_of_le bounds.1
    have back : 97 + n - 32 = 65 + n := by omega
    rw [place, back, alike n (by omega), ← place, c.ofNat_toNat]
  · rfl

theorem isIdentifierContinue_upperAscii (c : Char) :
    isIdentifierContinue (upperAscii c) = isIdentifierContinue c :=
  apply_upperAscii (by decide +kernel) c

def startsName (c : Char) : Bool := isIdentifierStart c || c == '_'

theorem startsName_upperAscii (c : Char) : startsName (upperAscii c) = startsName c :=
  apply_upperAscii (by decide +kernel) c

def separators : List Char := ['_', '-', '.']

theorem not_mem_separators_of_isUppercase {c : Char} (h : isUppercase c = true) :
    c ∉ separators := by
  have none : separators.any isUppercase = false := by decide +kernel
  exact fun mem => List.any_eq_false.1 none c mem h

theorem all_isIdentifierContinue_capitalized (afterSmall : Bool) (cs : List Char) :
    (capitalized afterSmall cs).all isIdentifierContinue = true ↔
      ∀ c ∈ cs, isIdentifierContinue c = true ∨ c ∈ separators := by
  have underscore : isIdentifierContinue '_' = true := by decide +kernel
  induction cs generalizing afterSmall with
  | nil => simp [capitalized]
  | cons c cs ih =>
    rw [capitalized]
    split
    · rename_i capital
      have letter := not_mem_separators_of_isUppercase capital
      cases afterSmall <;> simp [underscore, letter, ih]
    · split
      · rename_i separator
        have mem : c ∈ separators := by simpa [separators] using separator
        simp [underscore, mem, ih]
      · rename_i other
        have letter : c ∉ separators := by simpa [separators] using other
        simp [isIdentifierContinue_upperAscii, letter, ih]

theorem exists_capitalized_cons (c : Char) (cs : List Char) :
    ∃ first afterSmall, capitalized false (c :: cs) = first :: capitalized afterSmall cs ∧
      (startsName first = true ↔ isIdentifierStart c = true ∨ c ∈ separators) := by
  have underscore : '_' ∈ separators := by decide
  rw [capitalized]
  split
  · rename_i capital
    have letter := not_mem_separators_of_isUppercase capital
    have other : c ≠ '_' := fun same => letter (same ▸ underscore)
    exact ⟨c, false, rfl, by simp [startsName, letter, other]⟩
  · split
    · rename_i separator
      have mem : c ∈ separators := by simpa [separators] using separator
      exact ⟨'_', false, rfl, by simp [startsName, mem]⟩
    · rename_i letter
      have letter : c ∉ separators := by simpa [separators] using letter
      have other : c ≠ '_' := fun same => letter (same ▸ underscore)
      refine ⟨upperAscii c, _, rfl, ?_⟩
      rw [startsName_upperAscii]
      simp [startsName, letter, other]

/-- The property is an identifier, but that separators may stand anywhere in it. -/
def GivesName (property : String) : Prop :=
  ∃ c cs, property.toList = c :: cs ∧ (isIdentifierStart c = true ∨ c ∈ separators) ∧
    ∀ d ∈ cs, isIdentifierContinue d = true ∨ d ∈ separators

theorem isIdentifier_constantName {property : String} :
    isIdentifier (constantName property) = true ↔ GivesName property := by
  rw [isIdentifier, constantName, String.toList_ofList, GivesName]
  cases property.toList with
  | nil => simp [capitalized]
  | cons c cs =>
    obtain ⟨first, afterSmall, capitals, start⟩ := exists_capitalized_cons c cs
    rw [capitals]
    change (startsName first && (capitalized afterSmall cs).all isIdentifierContinue) = true ↔ _
    rw [Bool.and_eq_true, start, all_isIdentifierContinue_capitalized]
    constructor
    · exact fun h => ⟨c, cs, rfl, h⟩
    · rintro ⟨_, _, ⟨⟩, h⟩
      exact h

theorem givesName_of_isIdentifier {property : String} (h : isIdentifier property = true) :
    GivesName property := by
  unfold isIdentifier at h
  split at h
  · cases h
  · rename_i c cs chars
    obtain ⟨start, rest⟩ := Bool.and_eq_true_iff.1 h
    refine ⟨c, cs, chars, ?_, fun d mem => .inl (List.all_eq_true.1 rest d mem)⟩
    obtain start | underscore := Bool.or_eq_true_iff.1 start
    · exact .inl start
    · rw [beq_iff_eq.1 underscore]
      exact .inr (by decide)

namespace FieldItem

variable {f : FieldItem} {property : String}

structure Unnamable (f : FieldItem) (property : String) : Prop where
  read : ∃ m, FieldMarks.read f.attributes = .ok m
  kind : f.kind?.isSome
  asked : f.property = property
  unnamed : ¬GivesName property

structure Passes (f : FieldItem) : Prop where
  read : ∃ m, FieldMarks.read f.attributes = .ok m
  named : f.kind?.isSome → GivesName f.property

theorem contribution_eq_unnamable :
    f.contribution = .error (.unnamable property) ↔ f.Unnamable property := by
  constructor
  · intro h
    cases read : FieldMarks.read f.attributes with
    | error fault =>
      rw [contribution_of_unread read] at h
      cases h
    | ok m =>
      rw [contribution_of_read read] at h
      split at h
      · cases h
      · rename_i kind given
        split at h
        · cases h
        · rename_i unnamed
          cases h
          exact ⟨⟨m, read⟩, given ▸ rfl, rfl, mt isIdentifier_constantName.2 unnamed⟩
  · rintro ⟨⟨m, read⟩, marked, rfl, unnamed⟩
    obtain ⟨kind, given⟩ := Option.isSome_iff_exists.1 marked
    rw [contribution_of_read read, given]
    exact if_neg (mt isIdentifier_constantName.1 unnamed)

theorem exists_contribution_eq_ok : (∃ o, f.contribution = .ok o) ↔ f.Passes := by
  constructor
  · rintro ⟨o, h⟩
    cases read : FieldMarks.read f.attributes with
    | error fault =>
      rw [contribution_of_unread read] at h
      cases h
    | ok m =>
      refine ⟨⟨m, read⟩, fun marked => ?_⟩
      by_contra unnamed
      rw [contribution_eq_unnamable.2 ⟨⟨m, read⟩, marked, rfl, unnamed⟩] at h
      cases h
  · rintro ⟨⟨m, read⟩, named⟩
    rw [contribution_of_read read]
    cases given : f.kind? with
    | none => exact ⟨none, rfl⟩
    | some kind => exact ⟨_, if_pos (isIdentifier_constantName.2 (named (given ▸ rfl)))⟩

theorem contribution_eq_ok_iff {o : Option Contribution} :
    f.contribution = .ok o ↔ f.Passes ∧ f.kind?.map f.outputs = o := by
  constructor
  · exact fun h => ⟨exists_contribution_eq_ok.1 ⟨o, h⟩, (contribution_eq_ok h).symm⟩
  · rintro ⟨passes, rfl⟩
    obtain ⟨o, h⟩ := exists_contribution_eq_ok.2 passes
    rw [h, contribution_eq_ok h]

theorem mapM_contribution_eq_ok {fields : List FieldItem} {os : List (Option Contribution)} :
    fields.mapM contribution = .ok os ↔
      (∀ f ∈ fields, f.Passes) ∧ fields.map (fun f => f.kind?.map f.outputs) = os := by
  simp only [mapM_eq_ok, contribution_eq_ok_iff]
  rw [List.forall₂_and_left, ← List.forall₂_map_left_iff, List.forall₂_eq_eq_eq]

end FieldItem

inductive Item.Unnamable (i : Item) (property : String) : Prop
  | mk {before f after} : i.isGeneric = false → i.body = .named (before ++ f :: after) →
      (∀ g ∈ before, g.Passes) → f.Unnamable property → Unnamable i property

namespace DerivedRecord

variable {i : Item} {r : DerivedRecord} {property : String}

theorem ofItem_eq_ok : ofItem i = .ok r ↔ i.isGeneric = false ∧ ∃ fields, i.body = .named fields ∧
    (∀ f ∈ fields, f.Passes) ∧
    ofContributions i.name (fields.filterMap fun f => f.kind?.map f.outputs) = r := by
  constructor
  · intro h
    obtain ⟨fault, ends⟩ | ⟨plain, fields, named⟩ := ofItem_reported_or_named i
    · cases ends.symm.trans h
    · rw [ofItem_of_named plain named, map_eq_ok] at h
      obtain ⟨os, contributed, rfl⟩ := h
      obtain ⟨passes, rfl⟩ := FieldItem.mapM_contribution_eq_ok.1 contributed
      refine ⟨plain, fields, named, passes, ?_⟩
      rw [List.filterMap_map]
      rfl
  · rintro ⟨plain, fields, named, passes, rfl⟩
    rw [ofItem_of_named plain named, FieldItem.mapM_contribution_eq_ok.2 ⟨passes, rfl⟩, Except.map,
      List.filterMap_map]
    rfl

theorem ofItem_eq_unnamable :
    ofItem i = .error (.unnamable property) ↔ i.Unnamable property := by
  constructor
  · intro h
    obtain ⟨fault, ends⟩ | ⟨plain, fields, named⟩ := ofItem_reported_or_named i
    · cases ends.symm.trans h
    · rw [ofItem_of_named plain named, map_eq_error] at h
      obtain ⟨before, f, after, rfl, passes, fails⟩ := mapM_eq_error.1 h
      exact .mk plain named (fun g mem => FieldItem.exists_contribution_eq_ok.1 (passes g mem))
        (FieldItem.contribution_eq_unnamable.1 fails)
  · rintro @⟨before, f, after, plain, named, passes, unnamable⟩
    rw [ofItem_of_named plain named, map_eq_error]
    exact mapM_eq_error.2 ⟨before, f, after, rfl,
      fun g mem => FieldItem.exists_contribution_eq_ok.2 (passes g mem),
      FieldItem.contribution_eq_unnamable.2 unnamable⟩

/-- A derivation ends in a record or in a fault that is reported, unless a field asks for a property
that gives its constant no name. None does where all properties are identifiers. -/
theorem ofItem_ends_properly_iff (i : Item) :
    (∀ property, ofItem i = .error (.unnamable property) ↔ i.Unnamable property) ∧
      (((∃ r, ofItem i = .ok r) ∨ ∃ fault, ofItem i = .error (.reported fault)) ↔
        ∀ property, ¬i.Unnamable property) ∧
      ∀ fields, i.body = .named fields → (∀ f ∈ fields, isIdentifier f.property = true) →
        ∀ property, ¬i.Unnamable property := by
  refine ⟨fun property => ofItem_eq_unnamable, ?_, ?_⟩
  · simp only [← ofItem_eq_unnamable]
    cases ends : ofItem i with
    | ok r => simp
    | error failure => cases failure <;> simp
  · rintro fields named plain property ⟨-, named', -, unnamable⟩
    cases named.symm.trans named'
    have own := plain _ (List.mem_append_right _ List.mem_cons_self)
    exact unnamable.unnamed (givesName_of_isIdentifier (unnamable.asked ▸ own))

theorem ofItem_ends_without_fault :
    let filter (args : List AttributeArgument) : List Attribute :=
      [⟨⟨false, ["filter"]⟩, some args⟩]
    let int : AttributeArgument := .path ⟨false, ["Int"]⟩
    let rent : AttributeArgument := .set ⟨false, ["rename"]⟩ (.text "monthly rent")
    ofItem ⟨"Unit", [], .named [⟨"rent", .path [] "u32" none, filter [int, rent]⟩]⟩ =
        .error (.unnamable "monthly rent") ∧
      ofItem ⟨"Unit", [], .named [⟨"r#type", .path [] "u32" none, filter [int]⟩]⟩ =
        .error (.unnamable "r#type") := by
  decide +kernel

end DerivedRecord

end RecordQuery.Declaration
