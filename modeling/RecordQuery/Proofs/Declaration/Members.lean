import RecordQuery.Proofs.Condition.Operators
import RecordQuery.Proofs.Declaration.Enumeration
import RecordQuery.Proofs.Value.Integer

namespace RecordQuery

open Text

namespace EnumType

variable {e : EnumType} {s : String} {n : Int64} {v : Variant}

theorem read?_of_denotesInteger (number : DenotesInteger (trimChars s.toList) n.toInt) :
    e.read? s = (e.variant? n).map (·.value) := by
  simp only [read?, toList_trim, Number.readInt64?_eq_some_iff.2 number]

theorem read?_of_not_number (name : ∀ n : Int64, ¬DenotesInteger (trimChars s.toList) n.toInt) :
    e.read? s = ((e.variants.find? (·.name == trim s)).or
      (e.variants.find? (equalsIgnoringAsciiCase ·.name (trim s)))).map (·.value) := by
  simp only [read?, toList_trim, Number.readInt64?_eq_none_iff.2 name]

theorem map_value_variant? :
    (e.variant? n).map (·.value) = if n ∈ e.variants.map (·.value) then some n else none := by
  cases found : e.variant? n with
  | none =>
    have absent : n ∉ e.variants.map (·.value) := by simpa [variant?] using found
    rw [if_neg absent]
    rfl
  | some v =>
    have value : v.value = n := by simpa using List.find?_some found
    rw [if_pos (List.mem_map.2 ⟨v, List.mem_of_find?_eq_some found, value⟩), Option.map_some, value]

theorem read?_integerText (mem : v ∈ e.variants) :
    e.read? (integerText v.value.toInt) = some v.value := by
  have number : DenotesInteger (trimChars (integerText v.value.toInt).toList) v.value.toInt := by
    rw [← toList_trim, trim_integerText]
    exact readInt?_eq_some_iff.1 (readInt?_integerText _)
  rw [read?_of_denotesInteger number, map_value_variant?, if_pos (List.mem_map_of_mem mem)]

theorem read?_name_iff (names : (e.variants.map (·.name)).Nodup) (mem : v ∈ e.variants)
    (unpadded : trim v.name = v.name) :
    e.read? v.name = some v.value ↔
      ∀ n : Int64, DenotesInteger v.name.toList n.toInt → n = v.value := by
  have whole : trimChars v.name.toList = v.name.toList := by rw [← toList_trim, unpadded]
  by_cases number : ∃ n : Int64, DenotesInteger v.name.toList n.toInt
  · obtain ⟨n, number⟩ := number
    have only : (∀ m : Int64, DenotesInteger v.name.toList m.toInt → m = v.value) ↔ n = v.value :=
      ⟨fun h => h n number, fun h m also => (Int64.toInt_inj.1 (also.unique number)).trans h⟩
    rw [read?_of_denotesInteger (whole.symm ▸ number), map_value_variant?, only]
    constructor
    · intro h
      split at h
      · exact Option.some.inj h
      · cases h
    · rintro rfl
      rw [if_pos (List.mem_map_of_mem mem)]
  · have none : ∀ n : Int64, ¬DenotesInteger v.name.toList n.toInt := not_exists.1 number
    rw [read?_of_not_number (whole.symm ▸ none), unpadded,
      find?_key_of_nodup Variant.name names mem]
    exact iff_of_true rfl fun n h => absurd h (none n)

/-- Inequality with the text holds of the records that hold null, or any member but one. -/
def LeavesOut (e : EnumType) (s : String) (n : Int64) : Prop :=
  ∀ p : Property, p.type = .enum e → ∀ value2 settings, ∃ q,
    p.build .ne (some s) value2 settings = .ok q ∧
      ∀ r : Record, q.holds r ↔
        r.read p.path = .null ∨ ∃ m ≠ n, r.read p.path = .scalar (.member m)

theorem leavesOut_of_read? (read : e.read? s = some n) (unpadded : trim s = s)
    (filled : s ≠ "") : e.LeavesOut s n := by
  intro p type value2 settings
  have coerced : coerce s (.enum e) = .ok (.member n) := by
    simp [coerce, unpadded, filled, FieldType.read?, read]
  have operand : Property.Operand p.type (some s) (.member n) := ⟨s, rfl, filled, type ▸ coerced⟩
  have compares : Operator.Compares .ne p.type :=
    .of_equality (.inr rfl) Operator.not_searchesLabels_ne
  refine ⟨_, Property.build_of_operand compares operand, fun r => ?_⟩
  exact Property.holds_clause_null_or_iff.trans (or_congr_right Test.holds_ne_member_iff)

end EnumType

namespace Declaration.DerivedEnum

/-- Where no two variants of a derived enumeration have one name, the text of a value is read as
that value, and a name without blanks around it as the value of its variant, unless it denotes
another number. Inequality with such a text that is not empty then leaves that variant out. What
denotes a number is never read as a name, and nothing is read as the value of no variant. -/
theorem ofItem_members_read {i : Item} {e : DerivedEnum} (h : ofItem i = .ok e)
    (names : (e.variants.map (·.name)).Nodup) (id : Nat) :
    let E := e.enumType id
    (∃ items, i.body = .enum items ∧ e.variants.map (·.name) = items.map (·.symbol)) ∧
      (∀ w ∈ e.variants,
        (E.read? (integerText w.value.toInt) = some w.value ∧
          E.LeavesOut (integerText w.value.toInt) w.value) ∧
        (trim w.name = w.name →
          (E.read? w.name = some w.value ↔
            ∀ n : Int64, DenotesInteger w.name.toList n.toInt → n = w.value) ∧
          (E.read? w.name = some w.value → w.name ≠ "" → E.LeavesOut w.name w.value))) ∧
      (∀ s (n : Int64), DenotesInteger (trimChars s.toList) n.toInt →
        E.read? s = if n ∈ e.variants.map (·.value) then some n else none) ∧
      ∀ s n, E.read? s = some n → n ∈ e.variants.map (·.value) := by
  intro E
  obtain ⟨items, declared, stands⟩ := standsFor_of_ofItem h
  refine ⟨⟨items, declared, stands.map_name⟩, fun w mem => ⟨?_, fun unpadded => ⟨?_, ?_⟩⟩,
    fun s n number => ?_, fun s n read => ?_⟩
  · have read : E.read? (integerText w.value.toInt) = some w.value := EnumType.read?_integerText mem
    exact ⟨read, EnumType.leavesOut_of_read? read (trim_integerText _) (integerText_ne_empty _)⟩
  · exact EnumType.read?_name_iff names mem unpadded
  · exact fun read filled => EnumType.leavesOut_of_read? read unpadded filled
  · rw [EnumType.read?_of_denotesInteger number, EnumType.map_value_variant?]
    rfl
  · exact List.mem_map.2 (EnumType.exists_mem_of_read? read)

theorem ofItem_members_read_grade :
    let named (name : String) : List Attribute :=
      [⟨⟨false, ["filter"]⟩, some [.set ⟨false, ["rename"]⟩ (.text name)]⟩]
    let i : Item := ⟨"Grade", [], .enum [⟨"Low", false, some (.negated (.literal 1)), named "abc"⟩,
      ⟨"High", false, none, named "ABC"⟩, ⟨"Top", false, none, named "+1"⟩]⟩
    ∃ e, ofItem i = .ok e ∧ (e.variants.map (·.name)).Nodup ∧
      (e.enumType 0).read? "abc" = some (-1) ∧ (e.enumType 0).read? "ABC" = some 0 ∧
      (e.enumType 0).read? "+1" = some 1 ∧ (e.enumType 0).LeavesOut "ABC" 0 ∧
      (e.enumType 0).read? "-1" = some (-1) ∧ (e.enumType 0).read? "2" = none := by
  intro named i
  let e : DerivedEnum := ⟨"Grade", [⟨"abc", -1, none⟩, ⟨"ABC", 0, none⟩, ⟨"+1", 1, none⟩],
    [⟨"Low", -1⟩, ⟨"High", 0⟩, ⟨"Top", 1⟩]⟩
  have derived : ofItem i = .ok e := by decide +kernel
  have names : (e.variants.map (·.name)).Nodup := by decide
  obtain ⟨-, variants, numbers, -⟩ := ofItem_members_read derived names 0
  obtain ⟨⟨minus, -⟩, low⟩ := variants ⟨"abc", -1, none⟩ (by decide)
  obtain ⟨-, high⟩ := variants ⟨"ABC", 0, none⟩ (by decide)
  obtain ⟨-, top⟩ := variants ⟨"+1", 1, none⟩ (by decide)
  obtain ⟨low, -⟩ := low (by decide)
  obtain ⟨high, leavesOut⟩ := high (by decide)
  obtain ⟨top, -⟩ := top (by decide)
  have small := Number.readInt64?_eq_none_iff.1 (by decide : readInt64? "abc".toList = none)
  have large := Number.readInt64?_eq_none_iff.1 (by decide : readInt64? "ABC".toList = none)
  have one := readInt?_eq_some_iff.1 (by decide : readInt? "+1".toList = some 1)
  have abc := low.2 fun n number => absurd number (small n)
  have ABC := high.2 fun n number => absurd number (large n)
  have own := top.2 fun n number => Int64.toInt_inj.1 (number.unique one)
  have two := numbers "2" 2 (Number.readInt64?_eq_some_iff.1 (by decide))
  exact ⟨e, derived, names, abc, ABC, own, leavesOut ABC (by decide), minus, two⟩

theorem ofItem_members_unread :
    let named (name : String) : List Attribute :=
      [⟨⟨false, ["filter"]⟩, some [.set ⟨false, ["rename"]⟩ (.text name)]⟩]
    let i : Item := ⟨"Numeral", [], .enum [⟨"Ten", false, none, named "10"⟩,
      ⟨"Hundred", false, none, named " C "⟩, ⟨"Null", false, none, named ""⟩]⟩
    let e : DerivedEnum := ⟨"Numeral", [⟨"10", 0, none⟩, ⟨" C ", 1, none⟩, ⟨"", 2, none⟩],
      [⟨"Ten", 0⟩, ⟨"Hundred", 1⟩, ⟨"Null", 2⟩]⟩
    ofItem i = .ok e ∧ (e.variants.map (·.name)).Nodup ∧ (e.variants.map (·.value)).Nodup ∧
      (e.enumType 0).read? "10" = none ∧ (e.enumType 0).read? " C " = none ∧
      ∀ (p : Property) settings, p.build .ne (some "") none settings = .error .missingValue := by
  intro named i e
  exact ⟨by decide +kernel, by decide, by decide, by decide +kernel, by decide +kernel,
    fun p settings => rfl⟩

end Declaration.DerivedEnum

end RecordQuery
