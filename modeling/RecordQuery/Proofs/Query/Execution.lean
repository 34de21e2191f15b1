import RecordQuery.Proofs.Query.Pages

/-!
The ways to run a query come to one list of matches: the first match is found in one pass, without a
sort, and counting, testing, narrowing in place and cutting pages all speak of the same items.
-/

namespace RecordQuery

variable {α β : Type} {s : α → Prop} {cmp : α → α → Ordering} {items sorted : List α}

theorem Order.insertDown_map (place : β → α) (x : β) (l : List β) :
    (insertDown (fun a b => cmp (place a) (place b)) x l).map place =
      insertDown cmp (place x) (l.map place) := by
  induction l with
  | nil => rfl
  | cons y l ih =>
    simp only [insertDown, List.map_cons]
    split
    · rw [List.map_cons, ih]
    · rfl

theorem Order.sortBy_map (cmp : α → α → Ordering) (place : β → α) (l : List β) :
    (sortBy (fun a b => cmp (place a) (place b)) l).map place = sortBy cmp (l.map place) := by
  induction l using List.reverseRecOn with
  | nil => rfl
  | append_singleton l x ih =>
    rw [List.map_append, List.map_singleton, sortBy_concat, sortBy_concat, List.map_reverse,
      insertDown_map, List.map_reverse, ih]

theorem Order.sortOn_map (o : Order) (record : α → Record) (place : β → α) (l : List β) :
    (o.sortOn (fun x => record (place x)) l).map place = o.sortOn record (l.map place) := by
  simp only [sortOn]
  split
  · rfl
  · exact sortBy_map (fun a b => o.compare (record a) (record b)) place l

namespace Query

def unbounded (q : Query) : Query := { q with limit := none, offset := none }

theorem matching_map (q : Query) (record : α → Record) (place : β → α) (places : List β) :
    (q.matching (fun x => record (place x)) places).map place =
      q.matching record (places.map place) := by
  rw [matching, matching, Order.sortOn_map, List.filter_map]
  rfl

theorem least?_concat (cmp : α → α → Ordering) (items : List α) (x : α) :
    least? cmp (items ++ [x]) =
      some ((least? cmp items).elim x fun best => if cmp best x = .gt then x else best) := by
  cases items with
  | nil => rfl
  | cons y items => simp [least?]

/-- No item is less, and of those that are not greater it is the first. -/
structure FirstLeast (cmp : α → α → Ordering) (items : List α) (m : α) : Prop where
  least : ∀ x ∈ items, cmp m x ≠ .gt
  first : (items.filter fun x => (cmp m x).isEq).head? = some m

theorem FirstLeast.singleton (h : PreorderOn s cmp) {x : α} (hx : s x) : FirstLeast cmp [x] x := by
  have self := h.self hx
  exact ⟨by simp [self], by simp [self]⟩

theorem FirstLeast.concat (h : PreorderOn s cmp) (hs : ∀ y ∈ items, s y) {m x : α} (hm : s m)
    (hx : s x) (best : FirstLeast cmp items m) :
    FirstLeast cmp (items ++ [x]) (if cmp m x = .gt then x else m) := by
  split
  · rename_i gt
    have below : cmp x m = .lt := by rw [h.swap hm hx, gt]; rfl
    have least : ∀ y ∈ items, cmp x y ≠ .gt := fun y hy =>
      h.trans hx hm (hs y hy) (by simp [below]) (best.least y hy)
    -- an earlier item equal to the new one would keep the best so far from being greater
    have apart : ∀ y ∈ items, cmp x y ≠ .eq := by
      intro y hy equal
      have back : cmp y x = .eq := by rw [h.swap hx (hs y hy), equal]; rfl
      exact h.trans hm (hs y hy) hx (best.least y hy) (by simp [back]) gt
    have self := h.self hx
    constructor
    · simpa [or_imp, forall_and, self] using least
    · rw [List.filter_append, List.filter_eq_nil_iff.2 (by simpa using apart)]
      simp [self]
  · rename_i le
    constructor
    · simpa [or_imp, forall_and, le] using best.least
    · rw [List.filter_append, List.head?_append, best.first]
      rfl

theorem FirstLeast.mem {m : α} (h : FirstLeast cmp items m) : m ∈ items :=
  (List.mem_filter.1 (List.mem_of_mem_head? h.first)).1

theorem least?_eq_none_iff : least? cmp items = none ↔ items = [] := by
  cases items <;> simp [least?]

theorem firstLeast_of_least? (h : PreorderOn s cmp) (hs : ∀ x ∈ items, s x) {m : α}
    (found : least? cmp items = some m) : FirstLeast cmp items m := by
  induction items using List.reverseRecOn generalizing m with
  | nil => cases found
  | append_singleton items x ih =>
    have hs' : ∀ y ∈ items, s y := fun y hy => hs y (by simp [hy])
    have hx : s x := hs x (by simp)
    rw [least?_concat, Option.some.injEq] at found
    subst found
    cases before : least? cmp items with
    | none =>
      rw [least?_eq_none_iff.1 before]
      exact .singleton h hx
    | some best =>
      have best := ih hs' before
      exact best.concat h hs' (hs' _ best.mem) hx

theorem head?_of_isStableSort (h : PreorderOn s cmp) (hs : ∀ x ∈ items, s x)
    (sorts : IsStableSort cmp items sorted) : sorted.head? = least? cmp items := by
  cases found : least? cmp items with
  | none =>
    rw [least?_eq_none_iff] at found
    subst found
    rw [sorts.perm.eq_nil]
    rfl
  | some m =>
    have best := firstLeast_of_least? h hs found
    cases sorted with
    | nil => exact absurd (sorts.perm.mem_iff.2 best.mem) (by simp)
    | cons x sorted =>
      have hx : x ∈ items := sorts.perm.mem_iff.1 List.mem_cons_self
      have xm : cmp x m ≠ .gt := by
        rcases List.mem_cons.1 (sorts.perm.mem_iff.2 best.mem) with rfl | later
        · simp [h.self (hs _ hx)]
        · exact (List.pairwise_cons.1 sorts.ordered).1 m later
      have equal := h.antisymm (hs m best.mem) (hs x hx) (best.least x hx) xm
      -- both are the first of the items that equal the least
      have first := best.first
      rw [← sorts.stable m best.mem, List.filter_cons_of_pos (by simp [equal])] at first
      exact first

variable {q : Query} {record : α → Record}

theorem find?_eq_head? (hc : q.order.collation.IsPreorder)
    (fits : ∀ x ∈ items, q.order.Fits (record x)) :
    q.find? record items = (q.matching record items).head? := by
  simp only [find?]
  split
  · rename_i unsorted
    simp [matching, Order.sortOn, unsorted]
  · have kept : ∀ x ∈ items.filter (q.holds record), q.order.Fits (record x) :=
      fun x hx => fits x (List.mem_filter.1 hx).1
    exact (head?_of_isStableSort (Order.preorderOn_record hc record) kept
      (isStableSort_matching hc fits)).symm

theorem holdsAny_iff : q.holdsAny record items = true ↔ q.matching record items ≠ [] := by
  rw [← List.length_pos_iff, length_matching, List.countP_pos_iff, holdsAny, List.any_eq_true]

theorem holdsAll_iff :
    q.holdsAll record items = true ↔ (q.matching record items).length = items.length := by
  rw [length_matching, List.countP_eq_length, holdsAll, List.all_eq_true]

theorem total_fetch (p : PageRequest) :
    (q.fetch record items p).total = q.count record items := length_matching

theorem items_fetch (p : PageRequest) :
    (q.fetch record items p).items = (q.paged p).run record items := rfl

theorem run_narrow : (q.narrow record).run items = ((), q.matching record items) := rfl

/-- The ways to run a query on a list of items, told by the list `m` of all that match in their
order. -/
structure RunsTo (q : Query) (record : α → Record) (items m : List α) : Prop where
  count : q.count record items = m.length
  any : q.holdsAny record items = true ↔ m ≠ []
  all : q.holdsAll record items = true ↔ m.length = items.length
  find : q.find? record items = m.head?
  narrow : (q.narrow record).run items = ((), m)
  places : ∀ {β : Type} (place : β → α) (list : List β), list.map place = items →
    (q.unbounded.run (fun x => record (place x)) list).map place = m
  copies : ∀ {β : Type} (copy : α → β) (i : Nat),
    (q.copies record copy items)[i]? = (q.run record items)[i]?.map copy
  page : ∀ (p : PageRequest) (limit offset : Option UInt64),
    let q' := { q with limit := limit, offset := offset }
    (q'.fetch record items p).total = q.count record items ∧
      (q'.fetch record items p).items = (q'.paged p).run record items ∧
      (q'.paged p).run record items = (m.drop p.offset.toNat).take p.pageSize.toNat

theorem runsTo_run_unbounded (q : Query) (record : α → Record) (items : List α)
    (hc : q.order.collation.IsPreorder) (fits : ∀ x ∈ items, q.order.Fits (record x)) :
    q.RunsTo record items (q.unbounded.run record items) where
  count := length_matching.symm
  any := holdsAny_iff
  all := holdsAll_iff
  find := find?_eq_head? hc fits
  narrow := run_narrow
  places := by
    rintro β place list rfl
    exact matching_map q record place list
  copies := fun copy i => List.getElem?_map
  page := fun p limit offset => ⟨total_fetch p, items_fetch p, rfl⟩

theorem runsTo_run_unbounded_tie :
    let key : SortKey := ⟨["rank"], .descending, true, .int, rfl⟩
    let rank (id : String) (n : Int64) : Record :=
      [("id", .scalar (.text id)), ("rank", .scalar (.number (.signed n)))]
    let q : Query := ⟨.always, ⟨[key], .folded⟩, some 1, some 2⟩
    let items := [rank "a" 1, rank "b" 2, rank "c" 2, [("rank", .null)]]
    q.order.collation.IsPreorder ∧ (∀ x ∈ items, q.order.Fits x) ∧
      q.RunsTo id items (q.unbounded.run id items) := by
  intro key rank q items
  have hc : q.order.collation.IsPreorder := Collation.folded_isPreorder
  have fits : ∀ x ∈ items, q.order.Fits x := by
    simp only [items, List.forall_mem_cons, List.not_mem_nil, false_implies, implies_true, and_true,
      Order.Fits, q]
    exact ⟨.signed, .signed, .signed, .null⟩
  exact ⟨hc, fits, runsTo_run_unbounded q id items hc fits⟩

end Query

end RecordQuery
