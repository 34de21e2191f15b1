import RecordQuery.Proofs.Value.Order

namespace RecordQuery

def Collation.IsPreorder (c : Collation) : Prop := Std.TransCmp c.compare

theorem Collation.ordinal_isPreorder : Collation.ordinal.IsPreorder :=
  inferInstanceAs (Std.TransCmp (Ord.compare : String → String → Ordering))

theorem Collation.folded_isPreorder : Collation.folded.IsPreorder := by
  have keys : Collation.folded.compare = compareOn foldedKey :=
    funext fun a => funext fun b => Collation.compare_folded a b
  rw [IsPreorder, keys]
  infer_instance

namespace SortKey

inductive Decides (k : SortKey) (c : Collation) (a b : Value) : Ordering → Prop
  | bothLast : a.sortsLast = true → b.sortsLast = true → Decides k c a b .eq
  | after : a.sortsLast = true → b.sortsLast = false → Decides k c a b .gt
  | before : a.sortsLast = false → b.sortsLast = true → Decides k c a b .lt
  | placed {o} : a.sortsLast = false → b.sortsLast = false →
      Value.InOrder c.compare a b o → Decides k c a b (k.direction.apply o)

theorem decides_compareValues {k : SortKey} {a b : Value} (c : Collation)
    (ha : a.HasType k.type) (hb : b.HasType k.type) : k.Decides c a b (k.compareValues c a b) := by
  simp only [compareValues]
  cases la : a.sortsLast <;> cases lb : b.sortsLast
  · obtain ⟨o, ho⟩ := Value.exists_inOrder c.compare k.sortable ⟨ha, la⟩ ⟨hb, lb⟩
    rw [ho.compareBy_eq]
    exact .placed la lb ho
  · exact .before la lb
  · exact .after la lb
  · exact .bothLast la lb

theorem Decides.unique {k : SortKey} {c : Collation} {a b : Value} {o : Ordering}
    (h : k.Decides c a b o) : k.compareValues c a b = o := by
  cases h with
  | bothLast la lb => simp [compareValues, la, lb]
  | after la lb => simp [compareValues, la, lb]
  | before la lb => simp [compareValues, la, lb]
  | placed la lb ho => simp [compareValues, la, lb, ho.compareBy_eq]

theorem preorderOn_compareValues (k : SortKey) {c : Collation} (hc : c.IsPreorder) :
    PreorderOn (fun v => v.HasType k.type) (k.compareValues c) := by
  have placed := (Value.preorderOn_hasPlace c.compare hc k.type).direction k.direction
  refine (PreorderOn.lastAfter placed).congr ?_
  intro a b ha hb
  simp only [compareValues]
  cases la : a.sortsLast <;> cases lb : b.sortsLast <;> simp only
  obtain ⟨o, ho⟩ := Value.exists_inOrder c.compare k.sortable ⟨ha, la⟩ ⟨hb, lb⟩
  rw [ho.compareBy_eq]
  rfl

end SortKey

namespace Order

def Fits (o : Order) (r : Record) : Prop := ∀ k ∈ o.keys, (r.read k.path).HasType k.type

inductive Lexicographic (c : Collation) (a b : Record) : List SortKey → Ordering → Prop
  | nil : Lexicographic c a b [] .eq
  | decided {k ks o} : k.Decides c (a.read k.path) (b.read k.path) o → o ≠ .eq →
      Lexicographic c a b (k :: ks) o
  | tied {k ks o} : k.Decides c (a.read k.path) (b.read k.path) .eq → Lexicographic c a b ks o →
      Lexicographic c a b (k :: ks) o

theorem then_of_ne_eq : ∀ {o o' : Ordering}, o ≠ .eq → o.then o' = o := by decide

theorem preorderOn_compareKeys {c : Collation} (hc : c.IsPreorder) (ks : List SortKey) :
    PreorderOn (fun r => ∀ k ∈ ks, (r.read k.path).HasType k.type) (compareKeys c ks) := by
  induction ks with
  | nil => exact ⟨fun _ _ => rfl, fun _ _ _ h _ => h⟩
  | cons k ks ih =>
    have first := (k.preorderOn_compareValues hc).comap fun r : Record => r.read k.path
    refine (first.mono ?_).andThen (ih.mono ?_)
    · exact fun r h => h k List.mem_cons_self
    · exact fun r h k' hk' => h k' (List.mem_cons_of_mem k hk')

theorem lexicographic_compareKeys {c : Collation} {a b : Record} {ks : List SortKey}
    (ha : ∀ k ∈ ks, (a.read k.path).HasType k.type)
    (hb : ∀ k ∈ ks, (b.read k.path).HasType k.type) :
    Lexicographic c a b ks (compareKeys c ks a b) := by
  induction ks with
  | nil => exact .nil
  | cons k ks ih =>
    have first :=
      SortKey.decides_compareValues c (ha k List.mem_cons_self) (hb k List.mem_cons_self)
    have rest := ih (fun k' hk' => ha k' (List.mem_cons_of_mem k hk'))
      fun k' hk' => hb k' (List.mem_cons_of_mem k hk')
    simp only [compareKeys, SortKey.compare]
    by_cases tie : k.compareValues c (a.read k.path) (b.read k.path) = .eq
    · rw [tie] at first ⊢
      exact .tied first rest
    · rw [then_of_ne_eq tie]
      exact .decided first tie

theorem Lexicographic.unique {c : Collation} {a b : Record} {ks : List SortKey} {o : Ordering}
    (h : Lexicographic c a b ks o) : compareKeys c ks a b = o := by
  induction h with
  | nil => rfl
  | decided first ne =>
    rw [compareKeys, SortKey.compare, first.unique, then_of_ne_eq ne]
  | tied first _ ih => rw [compareKeys, SortKey.compare, first.unique, ih, Ordering.eq_then]

theorem preorderOn_fits {o : Order} (hc : o.collation.IsPreorder) :
    PreorderOn o.Fits o.compare := preorderOn_compareKeys hc o.keys

/-- Under both collations, and under any other that is a total preorder of texts, an order is a
total preorder of the records that fit it, and compares them key by key. -/
theorem compare_preorder_lexicographic :
    Collation.folded.IsPreorder ∧ Collation.ordinal.IsPreorder ∧
      ∀ o : Order, o.collation.IsPreorder →
        (∀ a, o.Fits a → o.compare a a = .eq) ∧
        (∀ a b, o.Fits a → o.Fits b → o.compare b a = (o.compare a b).swap) ∧
        (∀ a b c, o.Fits a → o.Fits b → o.Fits c → o.compare a b ≠ .gt → o.compare b c ≠ .gt →
          o.compare a c ≠ .gt) ∧
        ∀ a b, o.Fits a → o.Fits b →
          ∀ x, o.compare a b = x ↔ Lexicographic o.collation a b o.keys x := by
  refine ⟨Collation.folded_isPreorder, Collation.ordinal_isPreorder, ?_⟩
  intro o hc
  have preorder := preorderOn_fits hc
  refine ⟨fun a ha => preorder.self ha, fun a b ha hb => preorder.swap ha hb,
    fun a b c ha hb hc => preorder.trans ha hb hc, ?_⟩
  intro a b ha hb x
  constructor
  · rintro rfl
    exact lexicographic_compareKeys ha hb
  · exact Lexicographic.unique

theorem compare_preorder_lexicographic_descending :
    let key : SortKey := ⟨["price"], .descending, true, .float, rfl⟩
    let price (bits : UInt64) : Record := [("price", .scalar (.number (.float ⟨bits⟩)))]
    let o : Order := ⟨[key], .folded⟩
    let two := price 0x4000000000000000
    let one := price 0x3FF0000000000000
    let nan := price 0x7FF8000000000000
    o.collation.IsPreorder ∧ o.Fits two ∧ o.Fits one ∧ o.Fits nan ∧ o.compare two one ≠ .gt ∧
      o.compare one nan ≠ .gt ∧ o.compare two nan ≠ .gt := by
  intro key price o two one nan
  have fits (bits : UInt64) : o.Fits (price bits) := by
    intro k hk
    rw [List.mem_singleton.1 hk]
    exact .float
  have first : o.compare two one ≠ .gt := by decide
  have second : o.compare one nan ≠ .gt := by decide
  have hc := Collation.folded_isPreorder
  have trans := (compare_preorder_lexicographic.2.2 o hc).2.2.1
  exact ⟨hc, fits _, fits _, fits _, first, second,
    trans _ _ _ (fits _) (fits _) (fits _) first second⟩

end Order

end RecordQuery
