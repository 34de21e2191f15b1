namespace RecordQuery.Text

/-- Closed ranges of code points, in ascending order and disjoint. -/
abbrev Ranges := List (Nat × Nat)

def Ranges.contains : Ranges → Nat → Bool
  | [], _ => false
  | (first, last) :: rs, n => if n < first then false else n ≤ last || contains rs n

@[simp] theorem Ranges.contains_nil (n : Nat) : Ranges.contains [] n = false := rfl

theorem Ranges.exists_of_contains {rs : Ranges} {n : Nat} (h : rs.contains n = true) :
    ∃ r ∈ rs, r.1 ≤ n ∧ n ≤ r.2 := by
  induction rs with
  | nil => simp at h
  | cons r rs ih =>
    obtain ⟨first, last⟩ := r
    simp only [Ranges.contains] at h
    split at h
    · simp at h
    · rcases Bool.or_eq_true_iff.1 h with h | h
      · exact ⟨_, .head _, by simp_all⟩
      · obtain ⟨r, hr, hn⟩ := ih h
        exact ⟨r, .tail _ hr, hn⟩

end RecordQuery.Text
