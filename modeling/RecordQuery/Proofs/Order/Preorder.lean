import RecordQuery.Order

namespace RecordQuery

structure PreorderOn {α : Type} (s : α → Prop) (cmp : α → α → Ordering) : Prop where
  swap : ∀ {a b}, s a → s b → cmp b a = (cmp a b).swap
  trans : ∀ {a b c}, s a → s b → s c → cmp a b ≠ .gt → cmp b c ≠ .gt → cmp a c ≠ .gt

variable {α β : Type} {s t : α → Prop} {cmp cmp' : α → α → Ordering} {a b c : α}

theorem preorderOn_iff_transCmp :
    PreorderOn s cmp ↔ Std.TransCmp fun a b : {x // s x} => cmp a b := by
  constructor
  · intro h
    exact
      { eq_swap := fun {a b} => h.swap b.2 a.2
        isLE_trans := fun {a b c} hab hbc =>
          Ordering.ne_gt_iff_isLE.1 (h.trans a.2 b.2 c.2 (Ordering.ne_gt_iff_isLE.2 hab)
            (Ordering.ne_gt_iff_isLE.2 hbc)) }
  · intro h
    refine ⟨fun {a b} ha hb => h.eq_swap (a := ⟨b, hb⟩) (b := ⟨a, ha⟩), ?_⟩
    intro a b c ha hb hc hab hbc
    exact Ordering.ne_gt_iff_isLE.2 (h.isLE_trans (a := ⟨a, ha⟩) (b := ⟨b, hb⟩) (c := ⟨c, hc⟩)
      (Ordering.ne_gt_iff_isLE.1 hab) (Ordering.ne_gt_iff_isLE.1 hbc))

namespace PreorderOn

theorem self (h : PreorderOn s cmp) (ha : s a) : cmp a a = .eq :=
  Ordering.eq_eq_of_eq_swap (h.swap ha ha)

theorem antisymm (h : PreorderOn s cmp) (ha : s a) (hb : s b) (hab : cmp a b ≠ .gt)
    (hba : cmp b a ≠ .gt) : cmp a b = .eq := by
  rw [h.swap ha hb] at hba
  cases hab' : cmp a b with
  | eq => rfl
  | lt => exact absurd (by rw [hab']; rfl) hba
  | gt => exact absurd hab' hab

theorem eq_trans (h : PreorderOn s cmp) (ha : s a) (hb : s b) (hc : s c) (hab : cmp a b = .eq)
    (hac : cmp a c = .eq) : cmp b c = .eq := by
  have hba : cmp b a = .eq := by rw [h.swap ha hb, hab]; rfl
  have hca : cmp c a = .eq := by rw [h.swap ha hc, hac]; rfl
  apply h.antisymm hb hc
  · exact h.trans hb ha hc (by simp [hba]) (by simp [hac])
  · exact h.trans hc ha hb (by simp [hca]) (by simp [hab])

theorem mono (h : PreorderOn s cmp) (hs : ∀ x, t x → s x) : PreorderOn t cmp :=
  ⟨fun ha hb => h.swap (hs _ ha) (hs _ hb),
    fun ha hb hc => h.trans (hs _ ha) (hs _ hb) (hs _ hc)⟩

theorem congr (h : PreorderOn s cmp) (eq : ∀ a b, s a → s b → cmp' a b = cmp a b) :
    PreorderOn s cmp' where
  swap ha hb := by
    rw [eq _ _ ha hb, eq _ _ hb ha]
    exact h.swap ha hb
  trans ha hb hc := by
    rw [eq _ _ ha hb, eq _ _ hb hc, eq _ _ ha hc]
    exact h.trans ha hb hc

theorem comap (h : PreorderOn s cmp) (f : β → α) :
    PreorderOn (fun x => s (f x)) fun x y => cmp (f x) (f y) :=
  ⟨fun ha hb => h.swap ha hb, fun ha hb hc => h.trans ha hb hc⟩

theorem of_range {f : β → α} (onto : ∀ x, s x → ∃ y, f y = x)
    (h : Std.TransCmp fun x y => cmp (f x) (f y)) : PreorderOn s cmp where
  swap ha hb := by
    obtain ⟨x, rfl⟩ := onto _ ha
    obtain ⟨y, rfl⟩ := onto _ hb
    exact h.eq_swap
  trans ha hb hc := by
    obtain ⟨x, rfl⟩ := onto _ ha
    obtain ⟨y, rfl⟩ := onto _ hb
    obtain ⟨z, rfl⟩ := onto _ hc
    intro hab hbc
    exact Ordering.ne_gt_iff_isLE.2 (h.isLE_trans (Ordering.ne_gt_iff_isLE.1 hab)
      (Ordering.ne_gt_iff_isLE.1 hbc))

theorem direction (h : PreorderOn s cmp) (d : Direction) :
    PreorderOn s fun a b => d.apply (cmp a b) := by
  cases d with
  | ascending => exact h
  | descending =>
    have opposite : PreorderOn s fun a b => cmp b a :=
      ⟨fun ha hb => h.swap hb ha, fun ha hb hc hba hcb => h.trans hc hb ha hcb hba⟩
    exact opposite.congr fun a b ha hb => (h.swap ha hb).symm

theorem andThen (h : PreorderOn s cmp) (h' : PreorderOn s cmp') :
    PreorderOn s fun a b => (cmp a b).then (cmp' a b) := by
  rw [preorderOn_iff_transCmp] at *
  exact inferInstanceAs (Std.TransCmp (compareLex (fun a b : {x // s x} => cmp a.1 b.1)
    fun a b : {x // s x} => cmp' a.1 b.1))

theorem lastAfter {last : α → Bool} (h : PreorderOn (fun x => s x ∧ last x = false) cmp) :
    PreorderOn s fun a b =>
      match last a, last b with
      | true, true => .eq
      | true, false => .gt
      | false, true => .lt
      | false, false => cmp a b where
  swap {a b} ha hb := by
    cases la : last a <;> cases lb : last b
    · exact h.swap ⟨ha, la⟩ ⟨hb, lb⟩
    · rfl
    · rfl
    · rfl
  trans {a b c} ha hb hc := by
    cases la : last a <;> cases lb : last b <;> cases lc : last c <;> simp
    exact h.trans ⟨ha, la⟩ ⟨hb, lb⟩ ⟨hc, lc⟩

end PreorderOn

end RecordQuery
