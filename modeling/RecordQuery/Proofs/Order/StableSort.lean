import Mathlib.Data.List.Induction
import RecordQuery.Proofs.Order.Lexicographic

/-!
Stable sorts. A list has exactly one stable sort under a total preorder of its items, and insertion
finds it.
-/

namespace RecordQuery

variable {α : Type} {s : α → Prop} {cmp : α → α → Ordering} {items sorted : List α}

/-- The items in order, where those that compare as equal keep the order in which they are given. -/
structure IsStableSort (cmp : α → α → Ordering) (items sorted : List α) : Prop where
  perm : sorted.Perm items
  ordered : sorted.Pairwise fun a b => cmp a b ≠ .gt
  stable : ∀ x ∈ items,
    (sorted.filter fun y => (cmp x y).isEq) = items.filter fun y => (cmp x y).isEq

theorem PreorderOn.ne_gt_of_mem (h : PreorderOn s cmp) {x y : α} {l : List α} (hx : s x)
    (least : ∀ z ∈ l, cmp x z ≠ .gt) (mem : y ∈ x :: l) : cmp x y ≠ .gt := by
  rcases List.mem_cons.1 mem with rfl | behind
  · simp [h.self hx]
  · exact least y behind

namespace Order

theorem insertDown_perm (cmp : α → α → Ordering) (x : α) (l : List α) :
    (insertDown cmp x l).Perm (x :: l) := by
  induction l with
  | nil => exact .refl _
  | cons y l ih =>
    simp only [insertDown]
    split
    · exact (ih.cons y).trans (.swap x y l)
    · exact .refl _

theorem pairwise_insertDown (h : PreorderOn s cmp) {x : α} {l : List α} (hx : s x)
    (hl : ∀ y ∈ l, s y) (ordered : l.Pairwise fun a b => cmp b a ≠ .gt) :
    (insertDown cmp x l).Pairwise fun a b => cmp b a ≠ .gt := by
  induction l with
  | nil => exact List.pairwise_singleton _ _
  | cons y l ih =>
    obtain ⟨below, ordered'⟩ := List.pairwise_cons.1 ordered
    have hy : s y := hl y List.mem_cons_self
    have hl' : ∀ z ∈ l, s z := fun z hz => hl z (List.mem_cons_of_mem y hz)
    simp only [insertDown]
    split
    · rename_i lt
      refine List.pairwise_cons.2 ⟨?_, ih hl' ordered'⟩
      intro z hz
      rcases List.mem_cons.1 ((insertDown_perm cmp x l).mem_iff.1 hz) with rfl | hz
      · simp [lt]
      · exact below z hz
    · rename_i not_lt
      have hyx : cmp y x ≠ .gt := by
        rw [h.swap hx hy, ne_eq, Ordering.swap_eq_gt]
        exact not_lt
      refine List.pairwise_cons.2 ⟨?_, ordered⟩
      intro z hz
      rcases List.mem_cons.1 hz with rfl | hz
      · exact hyx
      · exact h.trans (hl' z hz) hy hx (below z hz) hyx

theorem filter_insertDown (h : PreorderOn s cmp) {x z : α} {l : List α} (hx : s x) (hz : s z)
    (hl : ∀ y ∈ l, s y) :
    ((insertDown cmp x l).filter fun y => (cmp z y).isEq) =
      ((x :: l).filter fun y => (cmp z y).isEq) := by
  induction l with
  | nil => rfl
  | cons y l ih =>
    have hy : s y := hl y List.mem_cons_self
    have ih := ih fun w hw => hl w (List.mem_cons_of_mem y hw)
    simp only [insertDown]
    split
    · rename_i lt
      rw [List.filter_cons, ih]
      -- an item that is passed by is not equal to the new one
      by_cases zx : cmp z x = .eq
      · have zy : cmp z y ≠ .eq := by
          intro zy
          rw [h.eq_trans hz hx hy zx zy] at lt
          cases lt
        simp [zx, zy]
      · simp [List.filter_cons, zx]
    · rfl

theorem sortBy_concat (cmp : α → α → Ordering) (items : List α) (x : α) :
    sortBy cmp (items ++ [x]) = (insertDown cmp x (sortBy cmp items).reverse).reverse := by
  simp [sortBy]

theorem sortBy_perm (cmp : α → α → Ordering) (items : List α) :
    (sortBy cmp items).Perm items := by
  induction items using List.reverseRecOn with
  | nil => exact .refl _
  | append_singleton items x ih =>
    rw [sortBy_concat]
    calc
      ((insertDown cmp x (sortBy cmp items).reverse).reverse).Perm
          (insertDown cmp x (sortBy cmp items).reverse) := List.reverse_perm _
      List.Perm _ (x :: (sortBy cmp items).reverse) := insertDown_perm cmp x _
      List.Perm _ (x :: items) := ((List.reverse_perm _).trans ih).cons x
      List.Perm _ (items ++ [x]) := (List.perm_append_singleton x items).symm

theorem forall_mem_sortBy (hs : ∀ x ∈ items, s x) : ∀ x ∈ (sortBy cmp items).reverse, s x := by
  intro x hx
  rw [List.mem_reverse, (sortBy_perm cmp items).mem_iff] at hx
  exact hs x hx

theorem pairwise_sortBy (h : PreorderOn s cmp) (hs : ∀ x ∈ items, s x) :
    (sortBy cmp items).Pairwise fun a b => cmp a b ≠ .gt := by
  induction items using List.reverseRecOn with
  | nil => exact .nil
  | append_singleton items x ih =>
    have hs' : ∀ y ∈ items, s y := fun y hy => hs y (by simp [hy])
    rw [sortBy_concat, List.pairwise_reverse]
    apply pairwise_insertDown h (hs x (by simp)) (forall_mem_sortBy hs')
    exact List.pairwise_reverse.2 (ih hs')

theorem filter_sortBy (h : PreorderOn s cmp) (hs : ∀ x ∈ items, s x) {z : α} (hz : s z) :
    ((sortBy cmp items).filter fun y => (cmp z y).isEq) =
      items.filter fun y => (cmp z y).isEq := by
  induction items using List.reverseRecOn with
  | nil => rfl
  | append_singleton items x ih =>
    have hs' : ∀ y ∈ items, s y := fun y hy => hs y (by simp [hy])
    rw [sortBy_concat, List.filter_reverse,
      filter_insertDown h (hs x (by simp)) hz (forall_mem_sortBy hs'), ← List.filter_reverse]
    simp [ih hs']

theorem isStableSort_sortBy (h : PreorderOn s cmp) (hs : ∀ x ∈ items, s x) :
    IsStableSort cmp items (sortBy cmp items) :=
  ⟨sortBy_perm cmp items, pairwise_sortBy h hs, fun x hx => filter_sortBy h hs (hs x hx)⟩

variable {o : Order} {record : α → Record}

theorem sortOn_perm (o : Order) (record : α → Record) (items : List α) :
    (o.sortOn record items).Perm items := by
  simp only [sortOn]
  split
  · exact .refl _
  · exact sortBy_perm _ items

theorem preorderOn_record (hc : o.collation.IsPreorder) (record : α → Record) :
    PreorderOn (fun x => o.Fits (record x)) fun a b => o.compare (record a) (record b) :=
  (preorderOn_fits hc).comap record

theorem isStableSort_sortOn (hc : o.collation.IsPreorder)
    (fits : ∀ x ∈ items, o.Fits (record x)) :
    IsStableSort (fun a b => o.compare (record a) (record b)) items (o.sortOn record items) := by
  simp only [sortOn]
  split
  · rename_i h
    have equal : ∀ a b, o.compare a b = .eq := by
      intro a b
      rw [compare, List.isEmpty_iff.1 h]
      rfl
    exact ⟨.refl _, List.pairwise_of_forall fun a b => by simp [equal], fun _ _ => rfl⟩
  · exact isStableSort_sortBy (preorderOn_record hc record) fits

end Order

namespace IsStableSort

theorem unique (h : PreorderOn s cmp) {l l' : List α} (hs : ∀ x ∈ l, s x) (perm : l.Perm l')
    (ordered : l.Pairwise fun a b => cmp a b ≠ .gt)
    (ordered' : l'.Pairwise fun a b => cmp a b ≠ .gt)
    (stable : ∀ x ∈ l, (l.filter fun y => (cmp x y).isEq) = l'.filter fun y => (cmp x y).isEq) :
    l = l' := by
  induction l generalizing l' with
  | nil => exact perm.nil_eq
  | cons x l ih =>
    cases l' with
    | nil => exact absurd perm.symm.nil_eq (by simp)
    | cons y l' =>
      have hx : s x := hs x List.mem_cons_self
      have hy : s y := hs y (perm.mem_iff.2 List.mem_cons_self)
      obtain ⟨least, tail⟩ := List.pairwise_cons.1 ordered
      obtain ⟨least', tail'⟩ := List.pairwise_cons.1 ordered'
      have hxy : cmp x y ≠ .gt := h.ne_gt_of_mem hx least (perm.mem_iff.2 List.mem_cons_self)
      have hyx : cmp y x ≠ .gt := h.ne_gt_of_mem hy least' (perm.mem_iff.1 List.mem_cons_self)
      have equal := h.antisymm hx hy hxy hyx
      -- each of them is the first of the same list of equals
      have same : x = y := by
        have first := stable x List.mem_cons_self
        rw [List.filter_cons_of_pos (by simp [h.self hx]),
          List.filter_cons_of_pos (by simp [equal])] at first
        exact (List.cons.inj first).1
      subst same
      congr 1
      apply ih (fun z hz => hs z (List.mem_cons_of_mem x hz)) perm.cons_inv tail tail'
      intro z hz
      have rest := stable z (List.mem_cons_of_mem x hz)
      simp only [List.filter_cons] at rest
      split at rest
      · exact (List.cons.inj rest).2
      · exact rest

theorem eq_of_isStableSort (h : PreorderOn s cmp) (hs : ∀ x ∈ items, s x) {l l' : List α}
    (hl : IsStableSort cmp items l) (hl' : IsStableSort cmp items l') : l = l' := by
  refine unique h ?_ (hl.perm.trans hl'.perm.symm) hl.ordered hl'.ordered ?_
  · exact fun x hx => hs x (hl.perm.mem_iff.1 hx)
  · intro x hx
    have hx := hl.perm.mem_iff.1 hx
    rw [hl.stable x hx, hl'.stable x hx]

end IsStableSort

end RecordQuery
