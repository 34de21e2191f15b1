import Mathlib.Data.List.Find
import RecordQuery.Text.CaseTables
import RecordQuery.Text.NormalForm
import RecordQuery.Text.Ranges

namespace RecordQuery.Text

variable {lo hi n : Nat}

theorem apply_dropWhile {α β : Type} {f : List α → β} {p : α → Bool}
    (h : ∀ x xs, p x = true → f (x :: xs) = f xs) (xs : List α) : f (xs.dropWhile p) = f xs := by
  induction xs with
  | nil => rfl
  | cons x xs ih =>
    rw [List.dropWhile_cons]
    split
    · rename_i here
      rw [ih, h x xs here]
    · rfl

namespace Ranges

def skipTo (lo : Nat) (rs : Ranges) : Ranges :=
  rs.dropWhile fun r => Nat.ble r.1 lo && Nat.blt r.2 lo

theorem contains_skipTo (h : lo ≤ n) (rs : Ranges) : (rs.skipTo lo).contains n = rs.contains n := by
  refine apply_dropWhile (f := fun rs : Ranges => rs.contains n) (fun r rs below => ?_) rs
  simp only [Bool.and_eq_true, Nat.ble_eq, Nat.blt_eq] at below
  have first : ¬n < r.1 := by omega
  have last : ¬n ≤ r.2 := by omega
  simp [contains, first, last]

def includes (rs : Ranges) (lo hi : Nat) : Bool :=
  match rs.skipTo lo with
  | [] => false
  | r :: _ => Nat.ble r.1 lo && Nat.ble hi r.2

def avoids (rs : Ranges) (lo hi : Nat) : Bool :=
  match rs.skipTo lo with
  | [] => true
  | r :: _ => Nat.blt hi r.1

theorem contains_of_includes {rs : Ranges} (h : rs.includes lo hi = true) (above : lo ≤ n)
    (below : n ≤ hi) : rs.contains n = true := by
  rw [← contains_skipTo above]
  rw [includes] at h
  split at h
  · cases h
  · rename_i r rest skipped
    simp only [Bool.and_eq_true, Nat.ble_eq] at h
    have first : ¬n < r.1 := by omega
    have last : n ≤ r.2 := by omega
    simp [skipped, contains, first, last]

theorem contains_of_avoids {rs : Ranges} (h : rs.avoids lo hi = true) (above : lo ≤ n)
    (below : n ≤ hi) : rs.contains n = false := by
  rw [← contains_skipTo above]
  rw [avoids] at h
  split at h
  · rename_i skipped
    rw [skipped, contains_nil]
  · rename_i r rest skipped
    rw [Nat.blt_eq] at h
    have first : n < r.1 := by omega
    simp [skipped, contains, first]

def includesAll (rs : Ranges) (lo : Nat) : Ranges → Bool
  | [] => true
  | s :: ss =>
    Nat.ble lo s.1 && (rs.skipTo s.1).includes s.1 s.2 && includesAll (rs.skipTo s.1) s.1 ss

theorem contains_of_includesAll {rs ss : Ranges} {s : Nat × Nat}
    (h : rs.includesAll lo ss = true) (mem : s ∈ ss) :
    lo ≤ s.1 ∧ ∀ n, s.1 ≤ n → n ≤ s.2 → rs.contains n = true := by
  induction ss generalizing rs lo with
  | nil => cases mem
  | cons first ss ih =>
    simp only [includesAll, Bool.and_eq_true, Nat.ble_eq] at h
    obtain ⟨⟨from_, includes⟩, rest⟩ := h
    cases mem with
    | head =>
      refine ⟨from_, fun n above below => ?_⟩
      rw [← contains_skipTo above]
      exact contains_of_includes includes above below
    | tail _ mem =>
      obtain ⟨later, holds⟩ := ih rest mem
      refine ⟨by omega, fun n above below => ?_⟩
      rw [← contains_skipTo (Nat.le_trans later above)]
      exact holds n above below

end Ranges

namespace DecompositionTable

def skipTo (lo : Nat) (t : DecompositionTable) : DecompositionTable :=
  t.dropWhile fun e => Nat.blt e.1 lo

theorem find?_skipTo (h : lo ≤ n) (t : DecompositionTable) : find? n (t.skipTo lo) = find? n t := by
  refine apply_dropWhile (fun e t below => ?_) t
  simp only [Nat.blt_eq] at below
  have passed : ¬n < e.1 := by omega
  have other : ¬n = e.1 := by omega
  simp [find?, passed, other]

theorem mem_of_find? {t : DecompositionTable} {parts : List Nat} (h : t.find? n = some parts) :
    (n, parts) ∈ t := by
  induction t with
  | nil => cases h
  | cons e t ih =>
    rw [find?] at h
    split at h
    · cases h
    · split at h
      · rename_i same
        cases h
        exact same ▸ .head _
      · exact .tail _ (ih h)

theorem mem_takeWhile_of_find? {t : DecompositionTable} {parts : List Nat} (below : n ≤ hi)
    (h : t.find? n = some parts) : (n, parts) ∈ t.takeWhile fun e => Nat.ble e.1 hi := by
  induction t with
  | nil => cases h
  | cons e t ih =>
    rw [find?] at h
    split at h
    · cases h
    · rename_i reached
      have within : Nat.ble e.1 hi = true := by
        rw [Nat.ble_eq]
        omega
      simp only [List.takeWhile_cons, within, if_true]
      split at h
      · rename_i same
        cases h
        exact same ▸ .head _
      · exact .tail _ (ih h)

end DecompositionTable

namespace CaseRun

def skipTo (lo : Nat) (rs : List CaseRun) : List CaseRun :=
  rs.dropWhile fun r => Nat.ble r.first lo && Nat.blt r.last lo

theorem target?_skipTo (h : lo ≤ n) (rs : List CaseRun) :
    target? n (skipTo lo rs) = target? n rs := by
  refine apply_dropWhile (fun r rs below => ?_) rs
  simp only [Bool.and_eq_true, Nat.ble_eq, Nat.blt_eq] at below
  have first : ¬n < r.first := by omega
  have last : ¬n ≤ r.last := by omega
  simp [target?, first, last]

def letters (r : CaseRun) : List Nat :=
  (List.range ((r.last - r.first) / r.step + 1)).map (r.first + r.step * ·)

theorem exists_of_target? {rs : List CaseRun} {m : Nat} (h : target? n rs = some m) :
    ∃ r ∈ rs, n ∈ r.letters ∧ r.first ≤ n ∧ n ≤ r.last ∧ m = (n + r.shift).toNat := by
  induction rs with
  | nil => cases h
  | cons r rs ih =>
    rw [target?] at h
    split at h
    · cases h
    · split at h
      · split at h
        · rename_i first last whole
          cases h
          have above := Nat.le_of_not_lt first
          refine ⟨r, .head _, List.mem_map.2 ⟨(n - r.first) / r.step, ?_, ?_⟩, above, last, rfl⟩
          · have := Nat.div_le_div_right (c := r.step) (Nat.sub_le_sub_right last r.first)
            exact List.mem_range.2 (Nat.lt_succ_of_le this)
          · rw [Nat.mul_div_cancel' (Nat.dvd_of_mod_eq_zero whole), Nat.add_sub_cancel' above]
        · cases h
      · obtain ⟨r', mem, found⟩ := ih h
        exact ⟨r', .tail _ mem, found⟩

end CaseRun

def decompositionsFrom (lo : Nat) : DecompositionTable :=
  .skipTo lo ((decompositionTables.find? (lo < ·.1)).elim [] (·.2))

def inOneTable (lo hi : Nat) : Bool :=
  decompositionTables.all fun t => Nat.ble t.1 lo || Nat.blt hi t.1

theorem decomposition?_eq_find? (same : inOneTable lo hi = true) (above : lo ≤ n) (below : n ≤ hi) :
    decomposition? n = (decompositionsFrom lo).find? n := by
  have choice : decompositionTables.find? (n < ·.1) = decompositionTables.find? (lo < ·.1) := by
    refine List.find?_congr fun t mem => ?_
    have ends := List.all_eq_true.1 same t mem
    simp only [Bool.or_eq_true, Nat.ble_eq, Nat.blt_eq] at ends
    rw [decide_eq_decide]
    omega
  rw [decomposition?, choice, decompositionsFrom, DecompositionTable.find?_skipTo above]
  cases decompositionTables.find? (lo < ·.1) <;> rfl

end RecordQuery.Text
