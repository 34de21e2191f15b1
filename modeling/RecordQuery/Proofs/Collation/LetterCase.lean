import Mathlib.Data.List.Infix
import RecordQuery.Proofs.Collation.Letters
import RecordQuery.Proofs.Text.LowerCase

/-!
The folded order and lower case. A letter and its lower case fold alike, unless they are spelled
out in two ways or one of them alone is; and a sigma in lower case folds to itself, final or not.
-/

namespace RecordQuery

open Text

namespace Text

variable {lo hi : Nat} {c : Char}

def isPlain (lo hi : Nat) : Bool :=
  markRanges.avoids lo hi && inOneTable lo hi && (Nat.blt hi 0xAC00 || Nat.blt 0xD7A3 lo)

def decompositionFrom? (lo : Nat) (c : Char) : Option (List Nat) :=
  ((decompositionsFrom lo).skipTo c.toNat).find? c.toNat

def bareLettersFrom (lo : Nat) (c : Char) : List Char :=
  match decompositionFrom? lo c with
  | some parts => (parts.map Char.ofNat).filter (!isMark ·)
  | none => [c]

theorem bareLettersFrom_of_none (h : decompositionFrom? lo c = none) :
    bareLettersFrom lo c = [c] := by
  rw [bareLettersFrom, h]

theorem decomposition?_eq_none : ∀ n < 0xC0, decomposition? n = none := by decide +kernel

theorem bareLetters_eq_from (plain : isPlain lo hi = true) (above : lo ≤ c.toNat)
    (below : c.toNat ≤ hi) : bareLetters c = bareLettersFrom lo c := by
  simp only [isPlain, Bool.and_eq_true, Bool.or_eq_true, Nat.blt_eq] at plain
  obtain ⟨⟨avoids, same⟩, other⟩ := plain
  have letter : isMark c = false := Ranges.contains_of_avoids avoids above below
  have syllable : ¬(0xAC00 ≤ c.toNat ∧ c.toNat ≤ 0xD7A3) := by omega
  have found : decomposition? c.toNat = decompositionFrom? lo c := by
    rw [decompositionFrom?, decomposition?_eq_find? same above below,
      DecompositionTable.find?_skipTo (Nat.le_refl _)]
  rw [bareLetters, bareLettersFrom, ← found, decomposeChar, if_neg syllable]
  -- Nothing is looked up below the first letter with a mark.
  split
  · rename_i ascii
    simp [decomposition?_eq_none _ ascii, letter]
  · cases decomposition? c.toNat with
    | none => simp [letter]
    | some parts => rfl

end Text

variable {lo lo' : Nat} {c d : Char}

/-- Letters that are spelled out otherwise than their lower case is, or of which only one of the two
is spelled out. -/
def unevenLetters : List Char := [
  '\u0181', '\u0186', '\u0189', '\u018A', '\u018E', '\u018F', '\u0190', '\u0193', '\u0194',
  '\u0196', '\u0197', '\u019C', '\u019D', '\u019F', '\u01A6', '\u01A9', '\u01AE', '\u01B1',
  '\u01B2', '\u01B7', '\u01EE', '\u023A', '\u023E', '\u0244', '\u0245', '\u2C7E', '\u2C7F',
  '\uA7DC']

def foldsAlike (lo lo' : Nat) (c d : Char) : Bool :=
  ((decompositionFrom? lo c).isNone && (decompositionFrom? lo' d).isNone &&
      !isExtendedLatin c && !isExtendedLatin d &&
      (CaseRun.target? d.toNat (CaseRun.skipTo lo' lowerRuns)).isNone) ||
    (bareLettersFrom lo c).flatMap foldChar == (bareLettersFrom lo' d).flatMap foldChar

theorem foldLetter_eq_of_foldsAlike (left : bareLetters c = bareLettersFrom lo c)
    (right : bareLetters d = bareLettersFrom lo' d) (above : lo' ≤ d.toNat)
    (lowered : lowerChar c = [d]) (alike : foldsAlike lo lo' c d = true) :
    foldLetter c = foldLetter d := by
  simp only [foldsAlike, Bool.or_eq_true, Bool.and_eq_true, Bool.not_eq_true', beq_iff_eq,
    Option.isNone_iff_eq_none] at alike
  obtain ⟨⟨⟨⟨whole, whole'⟩, other⟩, other'⟩, last⟩ | same := alike
  · have first : foldLetter c = lowerChar c := by
      rw [foldLetter_of_not_isExtendedLatin other, left, bareLettersFrom_of_none whole,
        List.flatMap_singleton]
    have second : foldLetter d = lowerChar d := by
      rw [foldLetter_of_not_isExtendedLatin other', right, bareLettersFrom_of_none whole',
        List.flatMap_singleton]
    have undotted : d ≠ 'İ' := by
      rintro rfl
      exact absurd other' (by decide)
    rw [CaseRun.target?_skipTo above] at last
    rw [first, second, lowered, lowerChar_eq_singleton undotted, last]
    rfl
  · rw [foldLetter, foldLetter, left, right, same]

/-- No letter of a run folds otherwise than its lower case but for the uneven ones. The tables are
entered once for the whole run. -/
def isEvenRun (r : CaseRun) : Bool :=
  let lo := (r.first + r.shift).toNat
  let hi := (r.last + r.shift).toNat
  isPlain r.first r.last && isPlain lo hi &&
    r.letters.all fun n =>
      let d := Char.ofNat (n + r.shift).toNat
      Nat.ble lo d.toNat && Nat.ble d.toNat hi &&
        (foldsAlike r.first lo (Char.ofNat n) d || Char.ofNat n ∈ unevenLetters)

set_option maxRecDepth 10000 in
theorem isEvenRun_lowerRuns : ∀ r ∈ lowerRuns, isEvenRun r = true := by decide +kernel

theorem foldLetter_lowerChar (even : c ∉ unevenLetters) :
    (lowerChar c).flatMap foldLetter = foldLetter c := by
  by_cases dotted : c = 'İ'
  · rw [dotted]
    decide +kernel
  cases found : CaseRun.target? c.toNat lowerRuns with
  | none => simp [lowerChar_eq_singleton dotted, found]
  | some m =>
    obtain ⟨r, run, letter, first, last, rfl⟩ := CaseRun.exists_of_target? found
    have lowered : lowerChar c = [Char.ofNat (c.toNat + r.shift).toNat] := by
      rw [lowerChar_eq_singleton dotted, found]
      rfl
    have check := isEvenRun_lowerRuns r run
    simp only [isEvenRun, Bool.and_eq_true, Bool.or_eq_true, List.all_eq_true, Nat.ble_eq,
      decide_eq_true_eq] at check
    obtain ⟨⟨plain, plain'⟩, letters⟩ := check
    obtain ⟨⟨above, below⟩, alike⟩ := letters _ letter
    rw [Char.ofNat_toNat] at alike
    have same := foldLetter_eq_of_foldsAlike (bareLetters_eq_from plain first last)
      (bareLetters_eq_from plain' above below) above lowered (alike.resolve_right even)
    rw [lowered, List.flatMap_singleton, same]

def Parted (xs ys : List Char) : Prop := ¬xs <+: ys ∧ ¬ys <+: xs

instance (xs ys : List Char) : Decidable (Parted xs ys) := inferInstanceAs (Decidable (_ ∧ _))

theorem Parted.append_ne {xs ys : List Char} (h : Parted xs ys) (as bs : List Char) :
    xs ++ as ≠ ys ++ bs := by
  intro same
  have left : xs <+: xs ++ as := List.prefix_append xs as
  have right : ys <+: xs ++ as := same ▸ List.prefix_append ys bs
  exact (List.prefix_or_prefix_of_prefix left right).elim h.1 h.2

theorem parted_unevenLetters : (unevenLetters.all fun c =>
    Parted ((lowerChar c).flatMap foldLetter) (foldLetter c)) = true := by
  decide +kernel

theorem parted_of_mem_unevenLetters (uneven : c ∈ unevenLetters) :
    Parted ((lowerChar c).flatMap foldLetter) (foldLetter c) :=
  of_decide_eq_true (List.all_eq_true.1 parted_unevenLetters c uneven)

theorem foldLetter_sigma : foldLetter 'σ' = foldLetter 'Σ' := by decide +kernel

theorem parted_final_sigma : Parted (foldLetter 'ς') (foldLetter 'Σ') := by decide +kernel

theorem flatMap_lowerAfter_eq_iff (before cs : List Char) :
    (lowerAfter before cs).flatMap foldLetter = cs.flatMap foldLetter ↔
      ¬HasFinalSigma before cs ∧ ∀ c ∈ cs, c ∉ unevenLetters := by
  -- Equal forms of a letter and its lower case cancel; others part there, whatever follows.
  induction cs generalizing before with
  | nil => simp [lowerAfter]
  | cons c cs ih =>
    rw [lowerAfter, hasFinalSigma_cons, List.forall_mem_cons, List.flatMap_append,
      List.flatMap_cons]
    by_cases sigma : c = 'Σ'
    · subst sigma
      have even : 'Σ' ∉ unevenLetters := by decide
      cases ends : endsWord before cs with
      | true =>
        have parted := parted_final_sigma.append_ne
        simp only [endsWord] at ends
        simp [ends, parted]
      | false =>
        simp only [endsWord] at ends
        simp [ends, foldLetter_sigma, even, ih]
    · by_cases uneven : c ∈ unevenLetters
      · have parted := (parted_of_mem_unevenLetters uneven).append_ne
        simp [sigma, uneven, parted]
      · simp [sigma, uneven, foldLetter_lowerChar uneven, ih]

/-- A text folds like its lower case if and only if no capital sigma ends a word in it and it has no
uneven letter. -/
theorem Collation.folded_lower_eq_iff (s : String) :
    folded.compare s (lower s) = .eq ↔
      ¬HasFinalSigma [] s.toList ∧ ∀ c ∈ s.toList, c ∉ unevenLetters := by
  rw [compare_folded, Std.LawfulEqOrd.compare_eq_iff_eq, eq_comm, ← String.toList_inj,
    foldedKey, foldedKey, String.toList_ofList, String.toList_ofList, toList_lower,
    foldedChars_eq_flatMap, foldedChars_eq_flatMap, lowerChars, flatMap_lowerAfter_eq_iff]

theorem Collation.folded_tells_case_apart :
    folded.compare "Ⱥ" (lower "Ⱥ") ≠ .eq ∧ folded.compare "ΟΔΟΣ" (lower "ΟΔΟΣ") ≠ .eq := by
  decide +kernel

end RecordQuery
