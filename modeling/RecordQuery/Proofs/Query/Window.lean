import RecordQuery.Proofs.Order.StableSort
import RecordQuery.Query

namespace RecordQuery.Query

variable {α : Type} {q : Query} {record : α → Record} {items : List α}

theorem matching_perm (q : Query) (record : α → Record) (items : List α) :
    (q.matching record items).Perm (items.filter (q.holds record)) :=
  q.order.sortOn_perm record _

theorem isStableSort_matching (hc : q.order.collation.IsPreorder)
    (fits : ∀ x ∈ items, q.order.Fits (record x)) :
    IsStableSort (fun a b => q.order.compare (record a) (record b))
      (items.filter (q.holds record)) (q.matching record items) :=
  Order.isStableSort_sortOn hc fun x hx => fits x (List.mem_filter.1 hx).1

theorem window_sublist (offset limit : Option UInt64) (l : List α) :
    (window offset limit l).Sublist l := by
  cases offset <;> cases limit <;> simp only [window]
  · exact .refl l
  · exact List.take_sublist _ l
  · exact List.drop_sublist _ l
  · exact (List.take_sublist _ _).trans (List.drop_sublist _ l)

theorem sortsLast_of_compare_ne_gt {k : SortKey} {ks : List SortKey} {a b : Record}
    (hk : q.order.keys = k :: ks) (h : q.order.compare a b ≠ .gt)
    (ha : (a.read k.path).sortsLast = true) : (b.read k.path).sortsLast = true := by
  cases hb : (b.read k.path).sortsLast with
  | true => rfl
  | false =>
    have gt : k.compare q.order.collation a b = .gt := by
      simp [SortKey.compare, SortKey.compareValues, ha, hb]
    rw [Order.compare, hk, Order.compareKeys, gt] at h
    exact absurd rfl h

/-- A query returns what its window shows of the only stable sort of the items that match, and null
and what is not a number at the first key come last. -/
theorem run_eq_window_of_stableSort (q : Query) (record : α → Record) (items : List α)
    (hc : q.order.collation.IsPreorder) (fits : ∀ x ∈ items, q.order.Fits (record x)) :
    ∃ sorted,
      IsStableSort (fun a b => q.order.compare (record a) (record b))
        (items.filter (q.holds record)) sorted ∧
      (∀ other, IsStableSort (fun a b => q.order.compare (record a) (record b))
        (items.filter (q.holds record)) other → other = sorted) ∧
      (q.run record items =
        match q.limit with
        | some n => (sorted.drop (q.offset.elim 0 (·.toNat))).take n.toNat
        | none => sorted.drop (q.offset.elim 0 (·.toNat))) ∧
      ∀ k ks, q.order.keys = k :: ks →
        (q.run record items).Pairwise fun a b => ((record a).read k.path).sortsLast = true →
          ((record b).read k.path).sortsLast = true := by
  have sorts := isStableSort_matching hc fits
  refine ⟨q.matching record items, sorts, ?_, ?_, ?_⟩
  · intro other hother
    refine hother.eq_of_isStableSort (Order.preorderOn_record hc record) ?_ sorts
    exact fun x hx => fits x (List.mem_filter.1 hx).1
  · cases ho : q.offset <;> cases hl : q.limit <;> simp [run, window, ho, hl]
  · intro k ks hk
    have ordered := sorts.ordered.sublist (window_sublist q.offset q.limit _)
    exact ordered.imp fun h => sortsLast_of_compare_ne_gt hk h

theorem run_eq_window_of_stableSort_tie :
    let key : SortKey := ⟨["rank"], .descending, true, .int, rfl⟩
    let rank (n : Int64) : Record := [("rank", .scalar (.number (.signed n)))]
    let q : Query := ⟨.always, ⟨[key], .folded⟩, some 1, some 1⟩
    let items := [rank 1, rank 2, rank 1]
    q.order.collation.IsPreorder ∧ (∀ x ∈ items, q.order.Fits x) ∧
      ∃ sorted, IsStableSort q.order.compare (items.filter (q.holds id)) sorted ∧
        q.run id items = (sorted.drop 1).take 1 := by
  intro key rank q items
  have hc : q.order.collation.IsPreorder := Collation.folded_isPreorder
  have fits : ∀ x ∈ items, q.order.Fits x := by
    intro x hx k hk
    rw [List.mem_singleton.1 hk]
    simp only [items, List.mem_cons, List.not_mem_nil, or_false] at hx
    rcases hx with rfl | rfl | rfl <;> exact .signed
  obtain ⟨sorted, sorts, -, run, -⟩ := run_eq_window_of_stableSort q id items hc fits
  exact ⟨hc, fits, sorted, sorts, run⟩

end RecordQuery.Query
