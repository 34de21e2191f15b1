import RecordQuery.Proofs.Condition.Operators
import RecordQuery.Proofs.Order.Keys
import RecordQuery.Proofs.Order.StableSort

namespace RecordQuery

variable {α : Type} {l : List α} {keep : α → Bool}

theorem filter_prefix_of_pairwise (h : l.Pairwise fun a b => keep b = true → keep a = true) :
    l.filter keep <+: l := by
  induction l with
  | nil => exact List.prefix_rfl
  | cons a l ih =>
    obtain ⟨first, rest⟩ := List.pairwise_cons.1 h
    by_cases ha : keep a = true
    · rw [List.filter_cons_of_pos ha]
      exact List.prefix_cons_inj a |>.2 (ih rest)
    · have none : l.filter keep = [] :=
        List.filter_eq_nil_iff.2 fun b hb hkeep => ha (first b hb hkeep)
      rw [List.filter_cons_of_neg ha, none]
      exact List.nil_prefix

theorem filter_infix_of_convex {le : α → α → Prop} (sorted : l.Pairwise le)
    (convex : ∀ a ∈ l, ∀ b ∈ l, ∀ c ∈ l, le a b → le b c → keep a = true → keep c = true →
      keep b = true) : l.filter keep <:+: l := by
  induction l with
  | nil => exact List.infix_rfl
  | cons a l ih =>
    obtain ⟨first, rest⟩ := List.pairwise_cons.1 sorted
    by_cases ha : keep a = true
    · -- behind an item that is kept, the rest of the block is a front of the list
      have front : l.Pairwise fun b c => keep c = true → keep b = true :=
        rest.imp_of_mem fun {b c} hb hc le =>
          convex a List.mem_cons_self b (List.mem_cons_of_mem a hb) c (List.mem_cons_of_mem a hc)
            (first b hb) le ha
      rw [List.filter_cons_of_pos ha]
      exact (List.prefix_cons_inj a |>.2 (filter_prefix_of_pairwise front)).isInfix
    · rw [List.filter_cons_of_neg ha]
      exact List.infix_cons (ih rest fun b hb c hc d hd => convex b (List.mem_cons_of_mem a hb) c
        (List.mem_cons_of_mem a hc) d (List.mem_cons_of_mem a hd))

theorem PreorderOn.lt_of_ne_gt_of_lt {s : α → Prop} {cmp : α → α → Ordering} {a b c : α}
    (h : PreorderOn s cmp) (ha : s a) (hb : s b) (hc : s c) (hab : cmp a b ≠ .gt)
    (hbc : cmp b c = .lt) : cmp a c = .lt := by
  have hac := h.trans ha hb hc hab (by simp [hbc])
  cases o : cmp a c with
  | lt => rfl
  | gt => exact absurd o hac
  | eq =>
    have hca : cmp c a ≠ .gt := by rw [h.swap ha hc, o]; simp
    have hcb := h.trans hc ha hb hca hab
    rw [h.swap hb hc, hbc] at hcb
    exact absurd rfl hcb

namespace Value

variable {t : FieldType} {a b v : Value} {c : Scalar} {op : Operator}

theorem compareBy_eq_of_isOrdered (ordered : t.isOrdered = true) (ha : a.HasType t)
    (texts texts' : String → String → Ordering) : a.compareBy texts b = a.compareBy texts' b := by
  cases ha with
  | null => rfl
  | record => rfl
  | text => cases ordered
  | _ =>
    cases b with
    | scalar s => cases s <;> rfl
    | _ => rfl

theorem sortsLast_of_satisfies (h : c.satisfies op v = true) : v.sortsLast = false := by
  obtain ⟨o, ho, -⟩ := satisfies_iff.1 h
  cases last : v.sortsLast with
  | false => rfl
  | true =>
    rw [order?_eq_none_of_sortsLast last] at ho
    cases ho

def order (a b : Value) : Ordering := (a.compareBy compare b).getD .eq

theorem preorderOn_order (t : FieldType) : PreorderOn (HasPlace t) order :=
  preorderOn_hasPlace compare Collation.ordinal_isPreorder t

theorem satisfies_iff_of_hasPlace (hv : v.HasPlace t) (hc : c.ReadsAs t) :
    c.satisfies op v = true ↔ op.holds (v.order (.scalar c)) = true := by
  obtain ⟨o, ho⟩ := exists_inOrder compare (isSortable_of_readsAs hc) hv (hasPlace_of_readsAs hc)
  rw [satisfies_iff, order?, order, ho.compareBy_eq]
  simp

theorem satisfies_of_le (ha : a.HasPlace t) (hb : b.HasPlace t) (hc : c.ReadsAs t)
    (le : a.order b ≠ .gt) (upper : op = .lt ∨ op = .lte) (h : c.satisfies op b = true) :
    c.satisfies op a = true := by
  have hc' := hasPlace_of_readsAs hc
  rw [satisfies_iff_of_hasPlace hb hc] at h
  rw [satisfies_iff_of_hasPlace ha hc]
  rcases upper with rfl | rfl
  · have below : b.order (.scalar c) = .lt := by simpa [Operator.holds] using h
    simp [Operator.holds, (preorderOn_order t).lt_of_ne_gt_of_lt ha hb hc' le below]
  · have below : b.order (.scalar c) ≠ .gt := by simpa [Operator.holds] using h
    simpa [Operator.holds] using (preorderOn_order t).trans ha hb hc' le below

theorem satisfies_of_ge (ha : a.HasPlace t) (hb : b.HasPlace t) (hc : c.ReadsAs t)
    (le : a.order b ≠ .gt) (lower : op = .gt ∨ op = .gte) (h : c.satisfies op a = true) :
    c.satisfies op b = true := by
  have hc' := hasPlace_of_readsAs hc
  rw [satisfies_iff_of_hasPlace ha hc] at h
  rw [satisfies_iff_of_hasPlace hb hc]
  -- if the greater value were below the bound, so would be the lesser one
  rcases lower with rfl | rfl
  · have above : a.order (.scalar c) = .gt := by simpa [Operator.holds] using h
    have above' : b.order (.scalar c) = .gt :=
      not_not.1 fun below => (preorderOn_order t).trans ha hb hc' le below above
    simp [Operator.holds, above']
  · have above : a.order (.scalar c) ≠ .lt := by simpa [Operator.holds] using h
    have above' : b.order (.scalar c) ≠ .lt := fun below =>
      above ((preorderOn_order t).lt_of_ne_gt_of_lt ha hb hc' le below)
    simpa [Operator.holds] using above'

end Value

namespace SortKey

variable {k : SortKey} {a b : Value}

theorem compareValues_ascending (ascending : k.direction = .ascending)
    (ordered : k.type.isOrdered = true) (ha : a.HasType k.type) (la : a.sortsLast = false)
    (lb : b.sortsLast = false) (c : Collation) : k.compareValues c a b = a.order b := by
  simp only [compareValues, la, lb, ascending, Value.order]
  rw [Value.compareBy_eq_of_isOrdered ordered ha c.compare Ord.compare]
  cases a.compareBy Ord.compare b <;> rfl

theorem order_ne_gt_of_compareValues {c : Collation} (ascending : k.direction = .ascending)
    (ordered : k.type.isOrdered = true) (ha : a.HasType k.type) (hb : b.HasPlace k.type)
    (le : k.compareValues c a b ≠ .gt) : a.HasPlace k.type ∧ a.order b ≠ .gt := by
  cases la : a.sortsLast with
  | false => exact ⟨⟨ha, la⟩, compareValues_ascending ascending ordered ha la hb.2 c ▸ le⟩
  | true =>
    simp only [compareValues, la, hb.2] at le
    exact absurd rfl le

theorem preorderOn_of_isOrdered (ordered : k.type.isOrdered = true) (c : Collation) :
    PreorderOn (fun v => v.HasType k.type) (k.compareValues c) := by
  refine (k.preorderOn_compareValues Collation.folded_isPreorder).congr fun a b ha _ => ?_
  simp only [compareValues]
  rw [Value.compareBy_eq_of_isOrdered ordered ha c.compare Collation.folded.compare]

end SortKey

def Property.Fits (p : Property) (r : Record) : Prop := (r.read p.path).HasType p.type

namespace Order

def AscendsBy (o : Order) (p : Property) : Prop :=
  ∃ k : SortKey, o.keys = [k] ∧ k.path = p.path ∧ k.type = p.type ∧ k.direction = .ascending

variable {o : Order} {p : Property}

theorem ascendsBy_of_compile {type : RecordType} {c : Collation} {path : String}
    (found : type.property path = .ok p) (h : compile type c [⟨path, false⟩] = .ok o) :
    o.AscendsBy p := by
  obtain ⟨made, -⟩ := compile_eq_ok.1 h
  obtain ⟨k, _, made, rest, keys⟩ := List.forall₂_cons_left_iff.1 made
  cases rest
  obtain ⟨p', _, found', rfl⟩ := key_eq_ok.1 made
  cases found.symm.trans found'
  exact ⟨_, keys, rfl, rfl, rfl⟩

theorem AscendsBy.exists_compare_eq (h : o.AscendsBy p) : ∃ k : SortKey, k.type = p.type ∧
    k.direction = .ascending ∧
    ∀ a b, o.compare a b = k.compareValues o.collation (a.read p.path) (b.read p.path) := by
  obtain ⟨k, keys, path, type, ascending⟩ := h
  refine ⟨k, type, ascending, fun a b => ?_⟩
  rw [compare, keys, compareKeys, compareKeys, Ordering.then_eq, SortKey.compare, path]

theorem AscendsBy.order_ne_gt (h : o.AscendsBy p) (ordered : p.type.isOrdered = true)
    {a b : Record} (ha : p.Fits a) (hb : (b.read p.path).HasPlace p.type)
    (le : o.compare a b ≠ .gt) :
    (a.read p.path).HasPlace p.type ∧ (a.read p.path).order (b.read p.path) ≠ .gt := by
  obtain ⟨k, type, ascending, compare⟩ := h.exists_compare_eq
  rw [compare] at le
  rw [Property.Fits, ← type] at ha
  rw [← type] at hb ordered ⊢
  exact SortKey.order_ne_gt_of_compareValues ascending ordered ha hb le

theorem AscendsBy.preorderOn (h : o.AscendsBy p) (ordered : p.type.isOrdered = true) :
    PreorderOn p.Fits o.compare := by
  obtain ⟨k, type, -, compare⟩ := h.exists_compare_eq
  rw [← type] at ordered
  have values := (SortKey.preorderOn_of_isOrdered ordered o.collation).comap
    fun r : Record => r.read p.path
  rw [type] at values
  exact values.congr fun a b _ _ => compare a b

theorem AscendsBy.filter_infix (h : o.AscendsBy p) (ordered : p.type.isOrdered = true)
    {q : Predicate}
    (convex : ∀ a b c, p.Fits a → p.Fits b → p.Fits c → o.compare a b ≠ .gt →
      o.compare b c ≠ .gt → q.holds a = true → q.holds c = true → q.holds b = true)
    {record : α → Record} {items : List α} (fits : ∀ x ∈ items, p.Fits (record x)) :
    ((o.sortOn record items).filter fun x => q.holds (record x)) <:+: o.sortOn record items := by
  have sorted : (o.sortOn record items).Pairwise
      fun a b => o.compare (record a) (record b) ≠ .gt := by
    have preorder := (h.preorderOn ordered).comap record
    obtain ⟨k, keys, -⟩ := h
    rw [sortOn, keys]
    exact pairwise_sortBy preorder fits
  have kept : ∀ x ∈ o.sortOn record items, p.Fits (record x) := fun x hx =>
    fits x ((sortOn_perm o record items).mem_iff.1 hx)
  exact filter_infix_of_convex sorted fun a ha b hb c hc =>
    convex _ _ _ (kept a ha) (kept b hb) (kept c hc)

end Order

theorem Operator.isBound {op : Operator} (h : (op = .lt ∨ op = .lte) ∨ op = .gt ∨ op = .gte) :
    op.isOrdering = true ∧ op.isRange = false := by
  rcases h with (rfl | rfl) | rfl | rfl <;> decide

namespace Property

variable {p : Property} {settings : ConditionSettings} {value value2 : Option String}
  {op : Operator} {q : Predicate} {o : Order}

theorem Built.exists_bound (h : p.Built settings value value2 op q)
    (bound : op.isOrdering = true ∧ op.isRange = false) :
    ∃ c : Scalar, c.ReadsAs p.type ∧
      ∀ r, q.holds r = true ↔ c.satisfies op (r.read p.path) = true := by
  obtain ⟨ordering, single⟩ := bound
  cases h with
  | order _ _ _ operand => exact ⟨_, operand.readsAs, fun r => Iff.rfl⟩
  | range range => cases single.symm.trans range
  | null other | text other => cases op <;> cases ordering <;> cases other
  | label other => rcases other with rfl | rfl <;> cases ordering
  | eq | ne => cases ordering

theorem Built.exists_bounds (h : p.Built settings value value2 .between q) :
    ∃ low high : Scalar, low.ReadsAs p.type ∧ high.ReadsAs p.type ∧
      ∀ r, q.holds r = true ↔
        low.satisfies .gte (r.read p.path) = true ∧ high.satisfies .lte (r.read p.path) = true := by
  cases h with
  | range _ _ low high =>
    refine ⟨_, _, low.readsAs, high.readsAs, fun r => ?_⟩
    rw [holds_rangePredicate_between, ← Test.holds_gte_iff, ← Test.holds_lte_iff]
    rfl
  | order _ single => cases single
  | null other | text other => cases other
  | label other => rcases other with other | other <;> cases other

theorem holds_of_le (h : o.AscendsBy p) (ordered : p.type.isOrdered = true)
    (built : p.Built settings value value2 op q) (upper : op = .lt ∨ op = .lte) {a b : Record}
    (ha : p.Fits a) (hb : p.Fits b) (le : o.compare a b ≠ .gt) (holds : q.holds b = true) :
    q.holds a = true := by
  obtain ⟨c, reads, iff⟩ := built.exists_bound (Operator.isBound (.inl upper))
  rw [iff] at holds ⊢
  have hb : (b.read p.path).HasPlace p.type := ⟨hb, Value.sortsLast_of_satisfies holds⟩
  obtain ⟨ha, le⟩ := h.order_ne_gt ordered ha hb le
  exact Value.satisfies_of_le ha hb reads le upper holds

theorem holds_of_ge (h : o.AscendsBy p) (ordered : p.type.isOrdered = true)
    (built : p.Built settings value value2 op q) (lower : op = .gt ∨ op = .gte) {a b : Record}
    (ha : p.Fits a) (hb : p.Fits b) (le : o.compare a b ≠ .gt) (holds : q.holds a = true)
    (last : (b.read p.path).sortsLast = false) : q.holds b = true := by
  obtain ⟨c, reads, iff⟩ := built.exists_bound (Operator.isBound (.inr lower))
  rw [iff] at holds ⊢
  obtain ⟨ha, le⟩ := h.order_ne_gt ordered ha ⟨hb, last⟩ le
  exact Value.satisfies_of_ge ha ⟨hb, last⟩ reads le lower holds

theorem hasPlace_of_built (h : o.AscendsBy p) (ordered : p.type.isOrdered = true)
    (built : p.Built settings value value2 op q) (lower : op = .gt ∨ op = .gte) {a b : Record}
    (ha : p.Fits a) (hb : p.Fits b) (le : o.compare a b ≠ .gt) (holds : q.holds b = true) :
    (a.read p.path).HasPlace p.type := by
  obtain ⟨c, -, iff⟩ := built.exists_bound (Operator.isBound (.inr lower))
  have last := Value.sortsLast_of_satisfies ((iff b).1 holds)
  exact (h.order_ne_gt ordered ha ⟨hb, last⟩ le).1

theorem holds_of_between (h : o.AscendsBy p) (ordered : p.type.isOrdered = true)
    (built : p.Built settings value value2 .between q) {a b c : Record} (ha : p.Fits a)
    (hb : p.Fits b) (hc : p.Fits c) (le : o.compare a b ≠ .gt) (le' : o.compare b c ≠ .gt)
    (first : q.holds a = true) (last : q.holds c = true) : q.holds b = true := by
  obtain ⟨low, high, readsLow, readsHigh, iff⟩ := built.exists_bounds
  rw [iff] at first last ⊢
  have hc : (c.read p.path).HasPlace p.type := ⟨hc, Value.sortsLast_of_satisfies last.2⟩
  obtain ⟨hb, le'⟩ := h.order_ne_gt ordered hb hc le'
  obtain ⟨ha, le⟩ := h.order_ne_gt ordered ha hb le
  exact ⟨Value.satisfies_of_ge ha hb readsLow le (.inr rfl) first.1,
    Value.satisfies_of_le hb hc readsHigh le' (.inr rfl) last.2⟩

theorem convex_of_built (h : o.AscendsBy p) (ordered : p.type.isOrdered = true)
    (built : p.Built settings value value2 op q)
    (bound : op ∈ [.lt, .lte, .gt, .gte, .between]) {a b c : Record} (ha : p.Fits a)
    (hb : p.Fits b) (hc : p.Fits c) (le : o.compare a b ≠ .gt) (le' : o.compare b c ≠ .gt)
    (first : q.holds a = true) (last : q.holds c = true) : q.holds b = true := by
  simp only [List.mem_cons, List.not_mem_nil, or_false] at bound
  rcases bound with upper | upper | lower | lower | rfl
  · exact holds_of_le h ordered built (.inl upper) hb hc le' last
  · exact holds_of_le h ordered built (.inr upper) hb hc le' last
  · exact holds_of_ge h ordered built (.inl lower) ha hb le first
      (hasPlace_of_built h ordered built (.inl lower) hb hc le' last).2
  · exact holds_of_ge h ordered built (.inr lower) ha hb le first
      (hasPlace_of_built h ordered built (.inr lower) hb hc le' last).2
  · exact holds_of_between h ordered built ha hb hc le le' first last

end Property

/-- The records that satisfy an operator on a property, in an order that is ascending by it: an
upper bound takes what comes before, a lower bound takes what comes behind and is not last of all, a
range takes what lies between, and where records are sorted each takes one block of them. -/
structure Order.HasInterval (o : Order) (p : Property) (op : Operator) (q : Predicate) : Prop where
  upper : op = .lt ∨ op = .lte → ∀ a b, p.Fits a → p.Fits b → o.compare a b ≠ .gt →
    q.holds b = true → q.holds a = true
  lower : op = .gt ∨ op = .gte → ∀ a b, p.Fits a → p.Fits b → o.compare a b ≠ .gt →
    q.holds a = true → (b.read p.path).isNull = false → (b.read p.path).isNaN = false →
    q.holds b = true
  range : op = .between → ∀ a b c, p.Fits a → p.Fits b → p.Fits c → o.compare a b ≠ .gt →
    o.compare b c ≠ .gt → q.holds a = true → q.holds c = true → q.holds b = true
  block : op ∈ [.lt, .lte, .gt, .gte, .between] →
    ∀ {α : Type} (record : α → Record) (items : List α), (∀ x ∈ items, p.Fits (record x)) →
      ((o.sortOn record items).filter fun x => q.holds (record x)) <:+: o.sortOn record items

theorem Condition.hasInterval_of_compile {type : RecordType} {settings : ConditionSettings}
    {collation : Collation} {c : Condition} {p : Property} {op : Operator} {q : Predicate}
    {o : Order} (found : type.property c.property = .ok p) (ordered : p.type.isOrdered = true)
    (known : Operator.read? c.operation = some op) (compiled : c.compile type settings = .ok q)
    (sorts : Order.compile type collation [⟨c.property, false⟩] = .ok o) :
    o.HasInterval p op q := by
  obtain ⟨p', op', found', known', built⟩ := Condition.built_of_compile compiled
  cases found.symm.trans found'
  cases known.symm.trans known'
  have ascends := Order.ascendsBy_of_compile found sorts
  refine ⟨?_, ?_, ?_, ?_⟩
  · exact fun upper a b ha hb le => Property.holds_of_le ascends ordered built upper ha hb le
  · intro lower a b ha hb le holds null nan
    have last : (b.read p.path).sortsLast = false := by simp [Value.sortsLast, null, nan]
    exact Property.holds_of_ge ascends ordered built lower ha hb le holds last
  · rintro rfl a b c ha hb hc le le' first last
    exact Property.holds_of_between ascends ordered built ha hb hc le le' first last
  · intro bound α record items fits
    exact ascends.filter_infix ordered
      (fun a b c => Property.convex_of_built ascends ordered built bound) fits

theorem Condition.hasInterval_of_compile_ranks :
    let type : RecordType := ⟨fun _ => ⟨"Item", [⟨"rank", .int, true⟩]⟩, 0⟩
    let p : Property := ⟨["rank"], .int, true⟩
    let settings : ConditionSettings := ⟨.declared, .caseInsensitive⟩
    let c : Condition := ⟨"rank", "gte", some "5", none, none⟩
    let q := p.clause (.compare .gte (.number (.signed 5)))
    let o : Order := ⟨[⟨["rank"], .ascending, true, .int, rfl⟩], .folded⟩
    let rank (n : Number) : Record := [("rank", .scalar (.number n))]
    let items := [rank (.unsigned 9223372036854775808), rank (.signed (-1)), [], rank (.signed 7)]
    type.property "rank" = .ok p ∧ Operator.read? "gte" = some .gte ∧
      c.compile type settings = .ok q ∧
      Order.compile type .folded [⟨"rank", false⟩] = .ok o ∧ (∀ x ∈ items, p.Fits x) ∧
      (o.sortOn id items).filter (fun x => q.holds x) <:+: o.sortOn id items := by
  intro type p settings c q o rank items
  have found : type.property "rank" = .ok p := rfl
  have known : Operator.read? "gte" = some .gte := by decide +kernel
  have compiled : c.compile type settings = .ok q := by
    rw [Condition.compile_eq_build (c := c) found known]
    rfl
  have sorts : Order.compile type .folded [⟨"rank", false⟩] = .ok o := rfl
  have fits : ∀ x ∈ items, p.Fits x := by
    simp only [items, List.forall_mem_cons, List.not_mem_nil, false_implies, implies_true, and_true]
    exact ⟨.unsigned, .signed, .null, .signed⟩
  have interval := Condition.hasInterval_of_compile (c := c) found rfl known compiled sorts
  exact ⟨found, known, compiled, sorts, fits, interval.block (by decide) id items fits⟩

end RecordQuery
