import RecordQuery.Proofs.Order.Keys
import RecordQuery.Proofs.Order.StableSort
import RecordQuery.Settings

namespace RecordQuery

variable {α : Type}

theorem filter_isEq_then (o o' : α → Ordering) (l : List α) :
    (l.filter fun y => ((o y).then (o' y)).isEq) =
      (l.filter fun y => (o y).isEq).filter fun y => (o' y).isEq := by
  have both : ∀ o o' : Ordering, (o.then o').isEq = (o'.isEq && o.isEq) := by decide
  simp only [both, List.filter_filter]

theorem IsStableSort.andThen {s : α → Prop} {cmp cmp' : α → α → Ordering}
    {items between sorted : List α} (preorder : PreorderOn s cmp) (hs : ∀ x ∈ items, s x)
    (h' : IsStableSort cmp' items between) (h : IsStableSort cmp between sorted) :
    IsStableSort (fun a b => (cmp a b).then (cmp' a b)) items sorted where
  perm := h.perm.trans h'.perm
  ordered := by
    rw [List.pairwise_iff_forall_sublist]
    intro a b here
    have ha : a ∈ between := h.perm.mem_iff.1 (here.subset (by simp))
    have self : cmp a a = .eq := preorder.self (hs a (h'.perm.mem_iff.1 ha))
    cases hab : cmp a b with
    | lt => simp
    | gt => exact absurd hab (List.pairwise_iff_forall_sublist.1 h.ordered here)
    | eq =>
      -- two items that are equal stand as the earlier sort left them
      have before : [a, b].Sublist between := by
        have equals := here.filter fun y => (cmp a y).isEq
        rw [h.stable a ha] at equals
        simpa [self, hab] using equals.trans List.filter_sublist
      exact List.pairwise_iff_forall_sublist.1 h'.ordered before
  stable := by
    intro x hx
    calc
      _ = (sorted.filter fun y => (cmp x y).isEq).filter fun y => (cmp' x y).isEq :=
        filter_isEq_then _ _ sorted
      _ = (between.filter fun y => (cmp' x y).isEq).filter fun y => (cmp x y).isEq := by
        rw [h.stable x (h'.perm.mem_iff.2 hx), List.filter_comm]
      _ = (items.filter fun y => (cmp x y).isEq).filter fun y => (cmp' x y).isEq := by
        rw [h'.stable x hx, List.filter_comm]
      _ = _ := (filter_isEq_then _ _ items).symm

namespace Order

theorem compareKeys_append (c : Collation) (ks ks' : List SortKey) (a b : Record) :
    compareKeys c (ks ++ ks') a b = (compareKeys c ks a b).then (compareKeys c ks' a b) := by
  induction ks with
  | nil => rfl
  | cons k ks ih => rw [List.cons_append, compareKeys, compareKeys, ih, Ordering.then_assoc]

def append (o o' : Order) : Order := { o with keys := o.keys ++ o'.keys }

theorem fits_append {o o' : Order} {r : Record} : (o.append o').Fits r ↔ o.Fits r ∧ o'.Fits r := by
  simp [Fits, append, or_imp, forall_and]

theorem sortOn_append {o o' : Order} {record : α → Record} {items : List α}
    (hc : o.collation.IsPreorder) (same : o'.collation = o.collation)
    (fits : ∀ x ∈ items, o.Fits (record x)) (fits' : ∀ x ∈ items, o'.Fits (record x)) :
    (o.append o').sortOn record items = o.sortOn record (o'.sortOn record items) := by
  have both : ∀ x ∈ items, (o.append o').Fits (record x) :=
    fun x hx => fits_append.2 ⟨fits x hx, fits' x hx⟩
  have compare : (o.append o').compare = fun a b => (o.compare a b).then (o'.compare a b) := by
    funext a b
    simp only [Order.compare, append, same, compareKeys_append]
  have once := isStableSort_sortOn (o := o.append o') hc both
  have earlier := isStableSort_sortOn (same ▸ hc) fits'
  have kept : ∀ x ∈ o'.sortOn record items, o.Fits (record x) := fun x hx =>
    fits x ((sortOn_perm o' record items).mem_iff.1 hx)
  have twice := earlier.andThen (preorderOn_record hc record) fits (isStableSort_sortOn hc kept)
  refine once.eq_of_isStableSort (preorderOn_record (o := o.append o') hc record) both ?_
  rw [compare]
  exact twice

theorem compile_append {type : RecordType} {c : Collation} {specs specs' : List SortSpec}
    {o o' : Order} (h : compile type c specs = .ok o) (h' : compile type c specs' = .ok o') :
    compile type c (specs ++ specs') = .ok (o.append o') := by
  obtain ⟨made, collation⟩ := compile_eq_ok.1 h
  obtain ⟨made', -⟩ := compile_eq_ok.1 h'
  exact compile_eq_ok.2 ⟨List.rel_append made made', collation⟩

end Order

namespace Settings

/-- Records sorted by one list of specs and then by another are as they come from one sort by the
later specs with the earlier ones behind them. Each of the three sorts is stable. -/
theorem sortOn_sortOn_eq_sortOn_append :
    Collation.folded.IsPreorder ∧ Collation.ordinal.IsPreorder ∧
      ∀ (s : Settings) (type : RecordType) (specs specs' : List SortSpec) (o o' : Order),
        s.collation.IsPreorder → s.compileOrder type specs = .ok o →
        s.compileOrder type specs' = .ok o' →
        ∃ chained, s.compileOrder type (specs ++ specs') = .ok chained ∧
          ∀ (α : Type) (record : α → Record) (items : List α),
            (∀ x ∈ items, o.Fits (record x) ∧ o'.Fits (record x)) →
            let between := o'.sortOn record items
            o.sortOn record between = chained.sortOn record items ∧
              IsStableSort (fun a b => o'.compare (record a) (record b)) items between ∧
              IsStableSort (fun a b => o.compare (record a) (record b)) between
                (o.sortOn record between) ∧
              IsStableSort (fun a b => chained.compare (record a) (record b)) items
                (chained.sortOn record items) := by
  refine ⟨Collation.folded_isPreorder, Collation.ordinal_isPreorder, ?_⟩
  intro s type specs specs' o o' hc h h'
  have collation : o.collation = s.collation := (Order.compile_eq_ok.1 h).2
  have same : o'.collation = o.collation := (Order.compile_eq_ok.1 h').2.trans collation.symm
  refine ⟨o.append o', Order.compile_append h h', fun α record items fits => ?_⟩
  have later : ∀ x ∈ items, o.Fits (record x) := fun x hx => (fits x hx).1
  have earlier : ∀ x ∈ items, o'.Fits (record x) := fun x hx => (fits x hx).2
  have hc : o.collation.IsPreorder := collation ▸ hc
  refine ⟨(Order.sortOn_append hc same later earlier).symm,
    Order.isStableSort_sortOn (same ▸ hc) earlier, Order.isStableSort_sortOn hc fun x hx => ?_,
    Order.isStableSort_sortOn hc fun x hx => Order.fits_append.2 (fits x hx)⟩
  exact later x ((Order.sortOn_perm o' record items).mem_iff.1 hx)

theorem sortOn_sortOn_eq_sortOn_append_tracks :
    let schema : Schema := ⟨"Track", [⟨"artist", .string, true⟩, ⟨"year", .int, false⟩]⟩
    let type : RecordType := ⟨fun _ => schema, 0⟩
    let artist : SortKey := ⟨["artist"], .ascending, true, .string, rfl⟩
    let year : SortKey := ⟨["year"], .descending, false, .int, rfl⟩
    let o : Order := ⟨[artist], .folded⟩
    let o' : Order := ⟨[year, artist], .folded⟩
    let track (artist : Value) (year : Int64) : Record :=
      [("artist", artist), ("year", .scalar (.number (.signed year)))]
    let items := [track (.scalar (.text "Émile")) 1974, track .null 1977,
      track (.scalar (.text "emile")) 1982]
    default.collation.IsPreorder ∧
      default.compileOrder type [⟨"artist", false⟩] = .ok o ∧
      default.compileOrder type [⟨"year", true⟩, ⟨"artist", false⟩] = .ok o' ∧
      (∀ x ∈ items, o.Fits x ∧ o'.Fits x) ∧
      ∃ chained, default.compileOrder type
          [⟨"artist", false⟩, ⟨"year", true⟩, ⟨"artist", false⟩] = .ok chained ∧
        o.sort (o'.sort items) = chained.sort items := by
  intro schema type artist year o o' track items
  have hc : default.collation.IsPreorder := Collation.folded_isPreorder
  have h : default.compileOrder type [⟨"artist", false⟩] = .ok o := rfl
  have h' : default.compileOrder type [⟨"year", true⟩, ⟨"artist", false⟩] = .ok o' := rfl
  have fits : ∀ x ∈ items, o.Fits x ∧ o'.Fits x := by
    simp only [items, List.forall_mem_cons, List.not_mem_nil, false_implies, implies_true, and_true,
      Order.Fits, o, o']
    exact ⟨⟨.text, .signed, .text⟩, ⟨.null, .signed, .null⟩, .text, .signed, .text⟩
  obtain ⟨chained, compiled, sorts⟩ :=
    sortOn_sortOn_eq_sortOn_append.2.2 default type _ _ o o' hc h h'
  exact ⟨hc, h, h', fits, chained, compiled, (sorts Record id items fits).1⟩

end Settings

end RecordQuery
