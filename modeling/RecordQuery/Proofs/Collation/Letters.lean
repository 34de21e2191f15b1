import Mathlib.Data.List.Basic
import RecordQuery.Collation
import RecordQuery.Proofs.Text.Decomposition

namespace RecordQuery

open Text

def foldLetter (c : Char) : List Char := (bareLetters c).flatMap foldChar

def withoutMarks (s : String) : List Char := s.toList.filter (!isMark ·)

theorem foldedChars_eq_flatMap (cs : List Char) : foldedChars cs = cs.flatMap foldLetter := by
  rw [foldedChars, filter_decompose, List.flatMap_assoc]
  rfl

theorem foldLetter_of_isMark {c : Char} (h : isMark c = true) : foldLetter c = [] := by
  rw [foldLetter, bareLetters_of_isMark h]
  rfl

theorem flatMap_foldLetter_filter (cs : List Char) :
    (cs.filter (!isMark ·)).flatMap foldLetter = cs.flatMap foldLetter := by
  induction cs with
  | nil => rfl
  | cons c cs ih =>
    cases h : isMark c with
    | true => simp [h, foldLetter_of_isMark h, ih]
    | false => simp [h, ih]

theorem toList_foldedKey (s : String) :
    (foldedKey s).toList = (withoutMarks s).flatMap foldLetter := by
  rw [foldedKey, String.toList_ofList, foldedChars_eq_flatMap, withoutMarks,
    flatMap_foldLetter_filter]

theorem foldedKey_eq_of_withoutMarks {s t : String} (h : withoutMarks s = withoutMarks t) :
    foldedKey s = foldedKey t := by
  rw [← String.toList_inj, toList_foldedKey, toList_foldedKey, h]

theorem withoutMarks_append (s t : String) :
    withoutMarks (s ++ t) = withoutMarks s ++ withoutMarks t := by
  simp [withoutMarks]

theorem withoutMarks_of_marks {m : String} (marks : ∀ c ∈ m.toList, isMark c = true) :
    withoutMarks m = [] := by
  rw [withoutMarks, List.filter_eq_nil_iff]
  simpa using marks

/-- Folded forms are joined where texts are, with marks between them or without, and texts that
differ in their marks alone are compared alike. -/
theorem Collation.folded_erases_marks {a m b : String} (marks : ∀ c ∈ m.toList, isMark c = true) :
    foldedKey (a ++ m ++ b) = foldedKey a ++ foldedKey b ∧
      ∀ s t s' t' : String, withoutMarks s = withoutMarks s' → withoutMarks t = withoutMarks t' →
        folded.compare s t = folded.compare s' t' := by
  refine ⟨?_, fun s t s' t' first second => ?_⟩
  · rw [← String.toList_inj, String.toList_append]
    simp only [toList_foldedKey, withoutMarks_append, withoutMarks_of_marks marks,
      List.append_nil, List.flatMap_append]
  · rw [compare_folded, compare_folded, foldedKey_eq_of_withoutMarks first,
      foldedKey_eq_of_withoutMarks second]

theorem Collation.folded_erases_marks_seam :
    let a := "e\u0301"
    let m := "\u0323"
    let b := "tude"
    (∀ c ∈ m.toList, isMark c = true) ∧
      decompose (a ++ m ++ b).toList ≠ decompose a.toList ++ decompose (m ++ b).toList ∧
      foldedKey (a ++ m ++ b) = foldedKey a ++ foldedKey b ∧
      folded.compare (a ++ b) (m ++ "f") = folded.compare "etude" "f" := by
  intro a m b
  have marks : ∀ c ∈ m.toList, isMark c = true := List.all_eq_true.1 (by decide +kernel)
  obtain ⟨key, compare⟩ := folded_erases_marks (a := a) (b := b) marks
  exact ⟨marks, by decide +kernel, key, compare _ _ _ _ (by decide +kernel) (by decide +kernel)⟩

theorem foldLetter_of_not_isExtendedLatin {c : Char} (h : isExtendedLatin c = false) :
    foldLetter c = (bareLetters c).flatMap lowerChar := by
  refine List.flatMap_congr fun d mem => ?_
  simp [foldChar, isExtendedLatin_of_mem_bareLetters h mem]

theorem toList_foldedKey_singleton (c : Char) :
    (foldedKey (String.singleton c)).toList = foldLetter c := by
  rw [foldedKey, String.toList_ofList, String.toList_singleton, foldedChars_eq_flatMap,
    List.flatMap_singleton]

/-- Characters beyond extended Latin fold together only if they are the same letters in lower case
once their marks are dropped, so that letters without marks keep apart. -/
theorem Collation.folded_eq_iff_of_other_script {c d : Char} (hc : isExtendedLatin c = false)
    (hd : isExtendedLatin d = false) :
    (folded.compare (String.singleton c) (String.singleton d) = .eq ↔
        (bareLetters c).flatMap lowerChar = (bareLetters d).flatMap lowerChar) ∧
      (IsBare c → IsBare d → lowerChar c ≠ lowerChar d →
        folded.compare (String.singleton c) (String.singleton d) ≠ .eq) := by
  have letters : folded.compare (String.singleton c) (String.singleton d) = .eq ↔
      (bareLetters c).flatMap lowerChar = (bareLetters d).flatMap lowerChar := by
    rw [compare_folded, Std.LawfulEqOrd.compare_eq_iff_eq, ← String.toList_inj,
      toList_foldedKey_singleton, toList_foldedKey_singleton,
      foldLetter_of_not_isExtendedLatin hc, foldLetter_of_not_isExtendedLatin hd]
  refine ⟨letters, fun bare bare' apart same => apart ?_⟩
  simpa [bare.bareLetters_eq, bare'.bareLetters_eq] using letters.1 same

theorem Collation.folded_eq_iff_of_other_script_arabic :
    isExtendedLatin 'س' = false ∧ isExtendedLatin 'ص' = false ∧ isExtendedLatin 'أ' = false ∧
      isExtendedLatin 'ا' = false ∧
      folded.compare (String.singleton 'س') (String.singleton 'ص') ≠ .eq ∧
      folded.compare (String.singleton 'أ') (String.singleton 'ا') = .eq := by
  have seen : isExtendedLatin 'س' = false := by decide
  have sad : isExtendedLatin 'ص' = false := by decide
  have hamza : isExtendedLatin 'أ' = false := by decide
  have alef : isExtendedLatin 'ا' = false := by decide
  refine ⟨seen, sad, hamza, alef, ?_, ?_⟩
  · exact (folded_eq_iff_of_other_script seen sad).2 ⟨by decide +kernel, by decide +kernel⟩
      ⟨by decide +kernel, by decide +kernel⟩ (by decide +kernel)
  · exact (folded_eq_iff_of_other_script hamza alef).1.2 (by decide +kernel)

theorem Collation.folded_joins_accented :
    isCased 'έ' = true ∧ isCased 'ε' = true ∧ 0x80 ≤ 'έ'.toNat ∧ 0x80 ≤ 'ε'.toNat ∧
      isExtendedLatin 'έ' = false ∧ isExtendedLatin 'ε' = false ∧ lowerChar 'έ' ≠ lowerChar 'ε' ∧
      folded.compare (String.singleton 'έ') (String.singleton 'ε') = .eq := by
  decide +kernel

end RecordQuery
