import Mathlib.Data.List.Infix
import Mathlib.Data.List.TakeWhile
import RecordQuery.Text.Case

/-!
Lower case in context. Only a capital sigma looks at the characters around it, and no further than
the next one that has a case or ends the word.
-/

namespace RecordQuery.Text

/-- A capital sigma between these characters ends a word; `before` holds those before it, nearest
first. -/
def endsWord (before after : List Char) : Bool := reachesCased before && !reachesCased after

def lowerBetween (before : List Char) : List Char → List Char → List Char
  | [], _ => []
  | c :: cs, after =>
    (if c = 'Σ' then if endsWord before (cs ++ after) then ['ς'] else ['σ'] else lowerChar c) ++
      lowerBetween (c :: before) cs after

variable {before before' cs after after' front back : List Char}

theorem lowerAfter_append (before cs after : List Char) :
    lowerAfter before (cs ++ after) =
      lowerBetween before cs after ++ lowerAfter (cs.reverse ++ before) after := by
  induction cs generalizing before with
  | nil => rfl
  | cons c cs ih => simp [lowerAfter, lowerBetween, endsWord, ih]

theorem lowerChars_eq_lowerBetween (cs : List Char) : lowerChars cs = lowerBetween [] cs [] := by
  simpa [lowerChars, lowerAfter] using lowerAfter_append [] cs []

theorem lowerBetween_append (before cs ds after : List Char) :
    lowerBetween before (cs ++ ds) after =
      lowerBetween before cs (ds ++ after) ++ lowerBetween (cs.reverse ++ before) ds after := by
  induction cs generalizing before with
  | nil => rfl
  | cons c cs ih => simp [lowerBetween, ih]

theorem lowerBetween_congr
    (h : ∀ front back, cs = front ++ 'Σ' :: back →
      endsWord (front.reverse ++ before) (back ++ after) =
        endsWord (front.reverse ++ before') (back ++ after')) :
    lowerBetween before cs after = lowerBetween before' cs after' := by
  induction cs generalizing before before' with
  | nil => rfl
  | cons c cs ih =>
    have rest : lowerBetween (c :: before) cs after = lowerBetween (c :: before') cs after' := by
      refine ih fun front back cut => ?_
      simpa using h (c :: front) back (by rw [cut]; rfl)
    by_cases sigma : c = 'Σ'
    · subst sigma
      have here := h [] cs rfl
      simp only [List.reverse_nil, List.nil_append] at here
      simp [lowerBetween, here, rest]
    · simp [lowerBetween, sigma, rest]

theorem reachesCased_append_of_ignorable (h : ∀ c ∈ front, isCaseIgnorable c = true) :
    reachesCased (front ++ back) = reachesCased back := by
  rw [reachesCased, reachesCased, List.dropWhile_append_of_pos h]

theorem reachesCased_of_ignorable (h : ∀ c ∈ front, isCaseIgnorable c = true) :
    reachesCased front = false := by
  have empty : reachesCased (front ++ []) = reachesCased [] := reachesCased_append_of_ignorable h
  rwa [List.append_nil] at empty

theorem reachesCased_append_of_not_ignorable (h : ∃ c ∈ front, isCaseIgnorable c = false) :
    reachesCased (front ++ back) = reachesCased front := by
  obtain ⟨c, mem, stops⟩ := h
  induction front with
  | nil => cases mem
  | cons d front ih =>
    cases ignorable : isCaseIgnorable d with
    | false => simp [reachesCased, ignorable]
    | true =>
      have later : c ∈ front := by
        obtain rfl | later := List.mem_cons.1 mem
        · rw [ignorable] at stops
          cases stops
        · exact later
      simpa [reachesCased, ignorable] using ih later

theorem isCaseIgnorable_sigma : isCaseIgnorable 'Σ' = false := by decide +kernel

theorem reachesCased_append_sigma (front back back' : List Char) :
    reachesCased (front ++ 'Σ' :: back) = reachesCased (front ++ 'Σ' :: back') := by
  have split (back : List Char) :
      reachesCased (front ++ 'Σ' :: back) = reachesCased (front ++ ['Σ']) := by
    have stops : ∃ c ∈ front ++ ['Σ'], isCaseIgnorable c = false :=
      ⟨'Σ', by simp, isCaseIgnorable_sigma⟩
    rw [List.append_cons]
    exact reachesCased_append_of_not_ignorable stops
  rw [split back, split back']

theorem not_sigma_mem_of_ignorable (h : ∀ c ∈ cs, isCaseIgnorable c = true) : 'Σ' ∉ cs := by
  intro mem
  have ignorable := h _ mem
  rw [isCaseIgnorable_sigma] at ignorable
  cases ignorable

/-- A capital sigma ends a word that ends with the text: a letter put behind takes the word on. -/
def EndsOpen (cs : List Char) : Prop :=
  ∃ front back, cs = front ++ 'Σ' :: back ∧ reachesCased front.reverse = true ∧
    ∀ c ∈ back, isCaseIgnorable c = true

/-- A capital sigma lacks no more than a letter in front of the text to end a word. -/
def BeginsOpen (cs : List Char) : Prop :=
  ∃ front back, cs = front ++ 'Σ' :: back ∧ (∀ c ∈ front, isCaseIgnorable c = true) ∧
    reachesCased back = false

theorem exists_sigma_iff {P : List Char → Prop} :
    (∃ front back, cs = front ++ 'Σ' :: back ∧ (∀ c ∈ front, isCaseIgnorable c = true) ∧ P back) ↔
      (cs.dropWhile isCaseIgnorable).head? = some 'Σ' ∧ P (cs.dropWhile isCaseIgnorable).tail := by
  constructor
  · rintro ⟨front, back, rfl, ignorable, holds⟩
    rw [List.dropWhile_append_of_pos ignorable,
      List.dropWhile_cons_of_neg (by simp [isCaseIgnorable_sigma])]
    exact ⟨rfl, holds⟩
  · rintro ⟨head, holds⟩
    obtain ⟨back, rest⟩ := List.head?_eq_some_iff.1 head
    rw [rest] at holds
    refine ⟨cs.takeWhile isCaseIgnorable, back, ?_, fun c mem => List.mem_takeWhile_imp mem, holds⟩
    rw [← rest, List.takeWhile_append_dropWhile]

theorem endsOpen_iff_reverse :
    EndsOpen cs ↔ ∃ front back, cs.reverse = front ++ 'Σ' :: back ∧
      (∀ c ∈ front, isCaseIgnorable c = true) ∧ reachesCased back = true := by
  constructor
  · rintro ⟨front, back, rfl, cased, ignorable⟩
    exact ⟨back.reverse, front.reverse, by simp, by simpa using ignorable, cased⟩
  · rintro ⟨front, back, cut, ignorable, cased⟩
    refine ⟨back.reverse, front.reverse, ?_, by simpa using cased, by simpa using ignorable⟩
    rw [← List.reverse_inj, cut]
    simp

instance : DecidablePred BeginsOpen := fun _ => decidable_of_iff _ exists_sigma_iff.symm

instance : DecidablePred EndsOpen := fun _ =>
  decidable_of_iff _ (endsOpen_iff_reverse.trans exists_sigma_iff).symm

theorem reachesCased_append_of_reachesCased (h : reachesCased front = true) :
    reachesCased (front ++ back) = true := by
  by_cases ignorable : ∀ c ∈ front, isCaseIgnorable c = true
  · rw [reachesCased_of_ignorable ignorable] at h
    cases h
  · rw [reachesCased_append_of_not_ignorable (by simpa using ignorable), h]

theorem lowerBetween_eq_self (right : EndsOpen cs → after = [])
    (left : BeginsOpen cs → before = []) : lowerBetween before cs after = lowerChars cs := by
  rw [lowerChars_eq_lowerBetween]
  refine lowerBetween_congr fun front back cut => ?_
  simp only [endsWord, List.append_nil]
  by_cases first : ∀ c ∈ front.reverse, isCaseIgnorable c = true
  · rw [reachesCased_of_ignorable first, reachesCased_append_of_ignorable first]
    cases cased : reachesCased back with
    | true => simp [reachesCased_append_of_reachesCased cased]
    | false =>
      rw [left ⟨front, back, cut, by simpa using first, cased⟩]
      rfl
  · rw [reachesCased_append_of_not_ignorable (by simpa using first)]
    cases cased : reachesCased front.reverse with
    | false => rfl
    | true =>
      by_cases last : ∀ c ∈ back, isCaseIgnorable c = true
      · rw [right ⟨front, back, cut, cased, last⟩, List.append_nil]
      · rw [reachesCased_append_of_not_ignorable (by simpa using last)]

theorem exists_lowerChars_append (right : EndsOpen cs → back = [])
    (left : BeginsOpen cs → front = []) :
    ∃ xs ys, lowerChars (front ++ cs ++ back) = xs ++ lowerChars cs ++ ys ∧
      (front = [] → xs = []) ∧ (back = [] → ys = []) := by
  refine ⟨lowerBetween [] front (cs ++ back), lowerBetween (front ++ cs).reverse back [],
    ?_, ?_, ?_⟩
  · have middle : lowerBetween front.reverse cs back = lowerChars cs :=
      lowerBetween_eq_self right fun isOpen => by rw [left isOpen, List.reverse_nil]
    rw [lowerChars_eq_lowerBetween, lowerBetween_append, lowerBetween_append]
    simp only [List.append_nil, middle]
  · rintro rfl
    rfl
  · rintro rfl
    rfl

theorem lowerBetween_eq_of_reachesCased
    (left : ∀ front, reachesCased (front ++ before) = reachesCased (front ++ before'))
    (right : ∀ back, reachesCased (back ++ after) = reachesCased (back ++ after')) :
    lowerBetween before cs after = lowerBetween before' cs after' :=
  lowerBetween_congr fun front back _ => by rw [endsWord, endsWord, left, right]

theorem lowerBetween_eq_of_no_sigma (h : 'Σ' ∉ cs) (before before' after after' : List Char) :
    lowerBetween before cs after = lowerBetween before' cs after' := by
  refine lowerBetween_congr fun front back cut => absurd ?_ h
  simp [cut]

theorem lowerChars_sigma (front back : List Char) :
    lowerChars (front ++ 'Σ' :: back) =
      lowerBetween [] front ['Σ'] ++
        (if endsWord front.reverse back then 'ς' else 'σ') :: lowerBetween ['Σ'] back [] := by
  have ahead : lowerBetween [] front ('Σ' :: back) = lowerBetween [] front ['Σ'] :=
    lowerBetween_eq_of_reachesCased (fun _ => rfl) fun seen =>
      reachesCased_append_sigma seen back []
  have behind : lowerBetween ('Σ' :: front.reverse) back [] = lowerBetween ['Σ'] back [] :=
    lowerBetween_eq_of_reachesCased
      (fun seen => reachesCased_append_sigma seen front.reverse []) fun _ => rfl
  rw [lowerChars_eq_lowerBetween, lowerBetween_append, List.append_nil, List.append_nil, ahead]
  simp only [lowerBetween, if_true, behind, List.append_nil]
  split <;> rfl

theorem EndsOpen.exists_lower (h : EndsOpen cs) :
    ∃ xs ys, lowerChars cs = xs ++ 'ς' :: ys ∧
      lowerChars (cs ++ ['a']) = xs ++ 'σ' :: (ys ++ ['a']) := by
  obtain ⟨front, back, rfl, cased, ignorable⟩ := h
  have empty : reachesCased back = false := reachesCased_of_ignorable ignorable
  have letter : reachesCased (back ++ ['a']) = true := by
    rw [reachesCased_append_of_ignorable ignorable]
    decide +kernel
  have rest : lowerBetween ['Σ'] (back ++ ['a']) [] = lowerBetween ['Σ'] back [] ++ ['a'] := by
    have none := not_sigma_mem_of_ignorable ignorable
    rw [lowerBetween_append, lowerBetween_eq_of_no_sigma none _ ['Σ'] _ []]
    rfl
  refine ⟨lowerBetween [] front ['Σ'], lowerBetween ['Σ'] back [], ?_, ?_⟩
  · simp [lowerChars_sigma, endsWord, cased, empty]
  · simp [lowerChars_sigma, endsWord, cased, letter, rest]

theorem BeginsOpen.exists_lower (h : BeginsOpen cs) :
    ∃ xs ys, lowerChars cs = xs ++ 'σ' :: ys ∧ lowerChars ('a' :: cs) = 'a' :: xs ++ 'ς' :: ys := by
  obtain ⟨front, back, rfl, ignorable, uncased⟩ := h
  have reversed : ∀ c ∈ front.reverse, isCaseIgnorable c = true := by simpa using ignorable
  have empty : reachesCased front.reverse = false := reachesCased_of_ignorable reversed
  have letter : reachesCased (front.reverse ++ ['a']) = true := by
    rw [reachesCased_append_of_ignorable reversed]
    decide +kernel
  have start : lowerBetween [] ('a' :: front) ['Σ'] = 'a' :: lowerBetween [] front ['Σ'] := by
    have none := not_sigma_mem_of_ignorable ignorable
    rw [lowerBetween, lowerBetween_eq_of_no_sigma none _ [] _ ['Σ']]
    rfl
  refine ⟨lowerBetween [] front ['Σ'], lowerBetween ['Σ'] back [], ?_, ?_⟩
  · simp [lowerChars_sigma, endsWord, empty]
  · rw [← List.cons_append, lowerChars_sigma, start]
    simp [endsWord, letter, uncased]

inductive HasFinalSigma : List Char → List Char → Prop
  | head {before cs : List Char} : endsWord before cs = true → HasFinalSigma before ('Σ' :: cs)
  | tail {before cs : List Char} {c : Char} :
      HasFinalSigma (c :: before) cs → HasFinalSigma before (c :: cs)

@[simp] theorem not_hasFinalSigma_nil : ¬HasFinalSigma before [] := nofun

theorem hasFinalSigma_cons {c : Char} :
    HasFinalSigma before (c :: cs) ↔
      c = 'Σ' ∧ endsWord before cs = true ∨ HasFinalSigma (c :: before) cs := by
  constructor
  · rintro (ends | rest)
    · exact .inl ⟨rfl, ends⟩
    · exact .inr rest
  · rintro (⟨rfl, ends⟩ | rest)
    · exact .head ends
    · exact .tail rest

instance decidableHasFinalSigma : ∀ before cs, Decidable (HasFinalSigma before cs)
  | _, [] => .isFalse not_hasFinalSigma_nil
  | before, c :: cs =>
    have := decidableHasFinalSigma (c :: before) cs
    decidable_of_iff _ hasFinalSigma_cons.symm

theorem lowerChar_eq_singleton {c : Char} (other : c ≠ 'İ') :
    lowerChar c = [((CaseRun.target? c.toNat lowerRuns).map Char.ofNat).getD c] :=
  if_neg fun same => other (Char.toNat_inj.1 same)

end RecordQuery.Text
