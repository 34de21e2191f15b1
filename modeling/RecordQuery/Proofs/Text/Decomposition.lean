import RecordQuery.Proofs.Text.Lookup
import RecordQuery.Text.LatinSpelling
import RecordQuery.Text.Mark

/-!
What comes of characters that are taken apart. Reordering moves marks alone and marks come apart
into marks, so without its marks a decomposed text is that of its characters one by one. No
character beyond extended Latin comes apart into letters of it.
-/

namespace RecordQuery.Text

variable {c d : Char} {n : Nat}

inductive PartOf (c : Char) : Char → Prop
  | whole : PartOf c c
  | hangul {p} : 0xAC00 ≤ c.toNat → c.toNat ≤ 0xD7A3 → p ∈ hangulParts c.toNat →
      PartOf c (Char.ofNat p)
  | entry {parts p} : decomposition? c.toNat = some parts → p ∈ parts → PartOf c (Char.ofNat p)

theorem partOf_of_mem (mem : d ∈ decomposeChar c) : PartOf c d := by
  simp only [decomposeChar] at mem
  split at mem
  · rw [List.mem_singleton.1 mem]
    exact .whole
  · split at mem
    · rename_i syllable
      obtain ⟨p, part, rfl⟩ := List.mem_map.1 mem
      exact .hangul syllable.1 syllable.2 part
    · split at mem
      · rename_i parts found
        obtain ⟨p, part, rfl⟩ := List.mem_map.1 mem
        exact .entry found part
      · rw [List.mem_singleton.1 mem]
        exact .whole

theorem hangulParts_bounds {p : Nat} (first : 0xAC00 ≤ n) (last : n ≤ 0xD7A3)
    (mem : p ∈ hangulParts n) : 0x1100 ≤ p ∧ p < 0x1200 := by
  simp only [hangulParts] at mem
  split at mem
  · simp only [List.mem_cons, List.not_mem_nil, or_false] at mem
    omega
  · simp only [List.mem_append, List.mem_cons, List.not_mem_nil, or_false] at mem
    omega

theorem mem_of_decomposition? {parts : List Nat} (h : decomposition? n = some parts) :
    ∃ t ∈ decompositionTables, (n, parts) ∈ t.2 := by
  obtain ⟨t, found, h⟩ := Option.bind_eq_some_iff.1 h
  exact ⟨t, List.mem_of_find?_eq_some found, DecompositionTable.mem_of_find? h⟩

def bareLetters (c : Char) : List Char := (decomposeChar c).filter (!isMark ·)

theorem exists_run_of_classIn_pos {runs : List (Nat × Nat × Nat)} (h : 0 < classIn n runs) :
    ∃ r ∈ runs, r.1 ≤ n ∧ n ≤ r.2.1 := by
  induction runs with
  | nil => cases h
  | cons r runs ih =>
    rw [classIn] at h
    split at h
    · cases h
    · split at h
      · exact ⟨r, .head _, by omega, by assumption⟩
      · obtain ⟨r', mem, within⟩ := ih h
        exact ⟨r', .tail _ mem, within⟩

theorem includesAll_combiningClassRuns :
    markRanges.includesAll 0 (combiningClassRuns.map fun r => (r.1, r.2.1)) = true := by
  decide +kernel

theorem isMark_of_combiningClass_pos (h : 0 < combiningClass c) : isMark c = true := by
  obtain ⟨r, mem, above, below⟩ := exists_run_of_classIn_pos h
  have stretch := List.mem_map_of_mem (f := fun r : Nat × Nat × Nat => (r.1, r.2.1)) mem
  exact (Ranges.contains_of_includesAll includesAll_combiningClassRuns stretch).2 _ above below

theorem filter_placeMark (c : Char) (ds : List Char) :
    (placeMark c ds).filter (!isMark ·) = (c :: ds).filter (!isMark ·) := by
  induction ds with
  | nil => rfl
  | cons d ds ih =>
    rw [placeMark]
    split
    · rename_i before
      have first : isMark d = true := isMark_of_combiningClass_pos before.1
      have second : isMark c = true := isMark_of_combiningClass_pos (before.1.trans before.2)
      simpa [first, second] using ih
    · rfl

theorem filter_orderMarks (cs : List Char) :
    (orderMarks cs).filter (!isMark ·) = cs.filter (!isMark ·) := by
  induction cs with
  | nil => rfl
  | cons c cs ih => rw [orderMarks, filter_placeMark, List.filter_cons, List.filter_cons, ih]

theorem filter_decompose (cs : List Char) :
    (decompose cs).filter (!isMark ·) = cs.flatMap bareLetters := by
  rw [decompose, filter_orderMarks, List.filter_flatMap]
  rfl

theorem inOneTable_markRanges : ∀ r ∈ markRanges, inOneTable r.1 r.2 = true := by decide +kernel

theorem includes_decompositions_of_marks :
    ∀ r ∈ markRanges, ∀ e ∈ (decompositionsFrom r.1).takeWhile fun e => Nat.ble e.1 r.2,
      ∀ p ∈ e.2, markRanges.includes (Char.ofNat p).toNat (Char.ofNat p).toNat = true := by
  decide +kernel

theorem avoids_hangul : markRanges.avoids 0xAC00 0xD7A3 = true := by decide +kernel

theorem isMark_of_mem_decomposeChar (h : isMark c = true) (mem : d ∈ decomposeChar c) :
    isMark d = true := by
  cases partOf_of_mem mem with
  | whole => exact h
  | hangul first last =>
    have other : isMark c = false := Ranges.contains_of_avoids avoids_hangul first last
    rw [other] at h
    cases h
  | entry found part =>
    obtain ⟨r, range, above, below⟩ := Ranges.exists_of_contains h
    rw [decomposition?_eq_find? (inOneTable_markRanges r range) above below] at found
    have entry := DecompositionTable.mem_takeWhile_of_find? below found
    exact Ranges.contains_of_includes (includes_decompositions_of_marks r range _ entry _ part)
      (Nat.le_refl _) (Nat.le_refl _)

theorem bareLetters_of_isMark (h : isMark c = true) : bareLetters c = [] := by
  rw [bareLetters, List.filter_eq_nil_iff]
  intro d mem
  simp [isMark_of_mem_decomposeChar h mem]

theorem isExtendedLatin_hangul :
    ∀ i < 0x100, isExtendedLatin (Char.ofNat (0x1100 + i)) = false := by decide +kernel

theorem isExtendedLatin_parts : ∀ t ∈ decompositionTables, ∀ e ∈ t.2,
    isExtendedLatin (Char.ofNat e.1) = false →
      ∀ p ∈ e.2, isExtendedLatin (Char.ofNat p) = false := by
  decide +kernel

theorem isExtendedLatin_of_mem_bareLetters (h : isExtendedLatin c = false)
    (mem : d ∈ bareLetters c) : isExtendedLatin d = false := by
  cases partOf_of_mem (List.mem_filter.1 mem).1 with
  | whole => exact h
  | hangul first last part =>
    obtain ⟨low, high⟩ := hangulParts_bounds first last part
    rw [← Nat.add_sub_cancel' low]
    exact isExtendedLatin_hangul _ (by omega)
  | entry found part =>
    obtain ⟨t, table, entry⟩ := mem_of_decomposition? found
    exact isExtendedLatin_parts t table _ entry (by rwa [Char.ofNat_toNat]) _ part

structure IsBare (c : Char) : Prop where
  letter : isMark c = false
  whole : decomposeChar c = [c]

theorem IsBare.bareLetters_eq (h : IsBare c) : bareLetters c = [c] := by
  simp [bareLetters, h.whole, h.letter]

end RecordQuery.Text
