import Mathlib.Data.List.Basic
import RecordQuery.Proofs.Query.Window

namespace RecordQuery

theorem PageRequest.toNat_offset (p : PageRequest) :
    p.offset.toNat = min ((p.page.toNat - 1) * p.pageSize.toNat) (UInt64.size - 1) := by
  simp only [offset]
  by_cases h : (p.page.toNat - 1) * p.pageSize.toNat < UInt64.size
  · rw [UInt64.toNat_ofNatClamp_of_lt h, Nat.min_eq_left (Nat.le_sub_one_of_lt h)]
  · rw [UInt64.toNat_ofNatClamp_of_le (Nat.le_of_not_lt h)]
    omega

theorem PageRequest.offset_make (page pageSize : UInt64) :
    (make page pageSize).offset = (⟨page, pageSize⟩ : PageRequest).offset := by
  apply UInt64.toNat_inj.1
  have before : (max page 1).toNat - 1 = page.toNat - 1 := by
    rw [UInt64.toNat_max, UInt64.toNat_one]
    omega
  rw [toNat_offset, toNat_offset, make, before]

theorem PageRequest.drop_offset {α : Type} (p : PageRequest) {l : List α}
    (small : l.length < UInt64.size) :
    l.drop p.offset.toNat = l.drop ((p.page.toNat - 1) * p.pageSize.toNat) := by
  rw [toNat_offset]
  by_cases h : (p.page.toNat - 1) * p.pageSize.toNat < UInt64.size
  · rw [Nat.min_eq_left (Nat.le_sub_one_of_lt h)]
  · -- where the product is cut off, both offsets lie behind all items
    rw [List.drop_eq_nil_of_le (by omega), List.drop_eq_nil_of_le (by omega)]

theorem toNat_pos_of_ne_zero {n : UInt64} (h : n ≠ 0) : 0 < n.toNat :=
  Nat.pos_of_ne_zero fun zero => h (UInt64.toNat_inj.1 zero)

namespace Page

variable {α : Type} {p : Page α}

theorem lt_totalPages_iff (h : p.pageSize ≠ 0) (i : Nat) :
    i < p.totalPages ↔ i * p.pageSize.toNat < p.total := by
  have pos := toNat_pos_of_ne_zero h
  rw [totalPages, if_neg h, ← Nat.succ_le_iff, Nat.le_div_iff_mul_le pos, Nat.succ_mul]
  omega

theorem totalPages_le_total (p : Page α) : p.totalPages ≤ p.total := by
  by_cases h : p.pageSize = 0
  · simp [totalPages, h]
  · apply Nat.le_of_not_lt
    rw [lt_totalPages_iff h]
    exact Nat.not_lt.2 (Nat.le_mul_of_pos_right _ (toNat_pos_of_ne_zero h))

end Page

theorem flatMap_take_drop {α : Type} (l : List α) (size n : Nat) :
    ((List.range n).flatMap fun i => (l.drop (i * size)).take size) = l.take (n * size) := by
  induction n with
  | zero => simp
  | succ n ih =>
    rw [List.range_succ, List.flatMap_append, ih, Nat.succ_mul, List.take_add]
    simp

namespace Query

variable {α : Type} {q : Query} {record : α → Record} {items : List α} {size p : UInt64}

abbrev page (q : Query) (record : α → Record) (items : List α) (size p : UInt64) : Page α :=
  q.fetch record items ⟨p, size⟩

def pageCount (q : Query) (record : α → Record) (items : List α) (size : UInt64) : Nat :=
  (q.page record items size 1).totalPages

theorem totalPages_page : (q.page record items size p).totalPages = q.pageCount record items size :=
  rfl

theorem length_matching :
    (q.matching record items).length = items.countP (q.holds record) := by
  rw [(matching_perm q record items).length_eq, List.countP_eq_length_filter]

theorem length_matching_lt (q : Query) (record : α → Record) (small : items.length < UInt64.size) :
    (q.matching record items).length < UInt64.size := by
  rw [length_matching]
  exact Nat.lt_of_le_of_lt List.countP_le_length small

theorem lt_pageCount_iff (h : size ≠ 0) (i : Nat) :
    i < q.pageCount record items size ↔ i * size.toNat < (q.matching record items).length :=
  (q.page record items size 1).lt_totalPages_iff h i

theorem items_page (small : items.length < UInt64.size) :
    (q.page record items size p).items =
      ((q.matching record items).drop ((p.toNat - 1) * size.toNat)).take size.toNat := by
  rw [page, fetch, PageRequest.drop_offset _ (length_matching_lt q record small)]

theorem length_items_page (small : items.length < UInt64.size) :
    (q.page record items size p).items.length =
      min size.toNat ((q.matching record items).length - (p.toNat - 1) * size.toNat) := by
  rw [items_page small, List.length_take, List.length_drop]

theorem items_page_ne_nil_iff (small : items.length < UInt64.size) (h : size ≠ 0) :
    (q.page record items size p).items ≠ [] ↔ p.toNat - 1 < q.pageCount record items size := by
  have pos := toNat_pos_of_ne_zero h
  rw [lt_pageCount_iff h, ← List.length_pos_iff, length_items_page small]
  omega

theorem flatMap_items_page (small : items.length < UInt64.size) (h : size ≠ 0) :
    ((List.range (q.pageCount record items size)).flatMap fun i =>
      (q.page record items size (.ofNat (i + 1))).items) = q.matching record items := by
  have cover : (q.matching record items).length ≤ q.pageCount record items size * size.toNat :=
    Nat.le_of_not_lt fun more => Nat.lt_irrefl _ ((lt_pageCount_iff h _).2 more)
  have count : q.pageCount record items size ≤ (q.matching record items).length :=
    (q.page record items size 1).totalPages_le_total
  calc
    _ = (List.range (q.pageCount record items size)).flatMap fun i =>
        ((q.matching record items).drop (i * size.toNat)).take size.toNat := by
      apply List.flatMap_congr
      intro i hi
      have bound := length_matching_lt q record small
      have number : (UInt64.ofNat (i + 1)).toNat = i + 1 :=
        UInt64.toNat_ofNat_of_lt' (by have := List.mem_range.1 hi; omega)
      rw [items_page small, number, Nat.add_sub_cancel]
    _ = (q.matching record items).take (q.pageCount record items size * size.toNat) :=
      flatMap_take_drop _ _ _
    _ = q.matching record items := List.take_of_length_le cover

theorem items_page_zero (small : items.length < UInt64.size) :
    (q.page record items 0 p).items = [] := by
  rw [items_page small]
  exact List.take_zero

theorem items_page_of_pageCount_lt (small : items.length < UInt64.size)
    (beyond : q.pageCount record items size < p.toNat) :
    (q.page record items size p).items = [] := by
  by_cases h : size = 0
  · rw [h, items_page_zero small]
  · by_contra some
    have inside := (items_page_ne_nil_iff small h).1 some
    omega

theorem pageCount_zero : q.pageCount record items 0 = 0 := rfl

theorem length_items_page_of_lt (small : items.length < UInt64.size) (h : size ≠ 0) (hp : 1 ≤ p)
    (inside : p.toNat < q.pageCount record items size) :
    (q.page record items size p).items.length = size.toNat := by
  have start := (lt_pageCount_iff h _).1 inside
  obtain ⟨i, hi⟩ : ∃ i, p.toNat = i + 1 := Nat.exists_eq_add_of_le' (UInt64.le_iff_toNat_le.1 hp)
  rw [hi, Nat.succ_mul] at start
  rw [length_items_page small, hi, Nat.add_sub_cancel]
  omega

theorem length_items_page_of_eq (small : items.length < UInt64.size) (h : size ≠ 0) (hp : 1 ≤ p)
    (last : p.toNat = q.pageCount record items size) :
    1 ≤ (q.page record items size p).items.length ∧
      (q.page record items size p).items.length ≤ size.toNat := by
  have positive : 1 ≤ p.toNat := UInt64.le_iff_toNat_le.1 hp
  have some : (q.page record items size p).items ≠ [] :=
    (items_page_ne_nil_iff small h).2 (by omega)
  refine ⟨List.length_pos_iff.2 some, ?_⟩
  rw [length_items_page small]
  exact Nat.min_le_left _ _

theorem fetch_make (p : UInt64) :
    q.fetch record items (.make p size) = q.page record items size p := by
  have number : max (max p 1) 1 = max p 1 := by
    apply UInt64.toNat_inj.1
    rw [UInt64.toNat_max, UInt64.toNat_max]
    exact Nat.max_eq_left (Nat.le_max_right _ _)
  simp only [page, fetch, PageRequest.offset_make]
  simp only [PageRequest.make, number]

theorem hasNext_page_iff (hp : 1 ≤ p) :
    (q.page record items size p).hasNext = true ↔ p.toNat < q.pageCount record items size := by
  have number : (q.page record items size p).page = p := by
    apply UInt64.toNat_inj.1
    rw [page, fetch, UInt64.toNat_max]
    exact Nat.max_eq_left (UInt64.le_iff_toNat_le.1 hp)
  simp [Page.hasNext, number, totalPages_page]

theorem hasNext_page_iff_next (small : items.length < UInt64.size) (hp : 1 ≤ p)
    (last : p.toNat < UInt64.size - 1) :
    (q.page record items size p).hasNext = true ↔
      (q.page record items size (p + 1)).items ≠ [] := by
  have next : (p + 1).toNat = p.toNat + 1 := by
    rw [UInt64.toNat_add, UInt64.toNat_one]
    exact Nat.mod_eq_of_lt (Nat.add_lt_of_lt_sub last)
  rw [hasNext_page_iff hp]
  by_cases h : size = 0
  · subst h
    simp [items_page_zero small, pageCount_zero]
  · rw [items_page_ne_nil_iff small h, next, Nat.add_sub_cancel]

theorem hasNext_page_zero : (q.page record items 0 p).hasNext = false := by
  simp [Page.hasNext, totalPages_page, pageCount_zero]

structure PartitionedBy (q : Query) (record : α → Record) (items : List α) (size : UInt64) :
    Prop where
  matching : (q.matching record items).Perm (items.filter (q.holds record))
  sorted : q.order.collation.IsPreorder → (∀ x ∈ items, q.order.Fits (record x)) →
    IsStableSort (fun a b => q.order.compare (record a) (record b))
      (items.filter (q.holds record)) (q.matching record items)
  total : ∀ p, (q.page record items size p).total = items.countP (q.holds record)
  total_lt : ∀ p, (q.page record items size p).total < UInt64.size
  totalPages : ∀ p, (q.page record items size p).totalPages = q.pageCount record items size
  pageCount_lt : q.pageCount record items size < UInt64.size
  offset : ∀ p, (PageRequest.offset ⟨p, size⟩).toNat =
    min (((max p 1).toNat - 1) * size.toNat) (UInt64.size - 1)
  zero : q.page record items size 0 = q.page record items size 1
  make : ∀ p, q.fetch record items (.make p size) = q.page record items size p
  join : size ≠ 0 → ((List.range (q.pageCount record items size)).flatMap fun i =>
    (q.page record items size (.ofNat (i + 1))).items) = q.matching record items
  full : size ≠ 0 → ∀ p, 1 ≤ p → p.toNat < q.pageCount record items size →
    (q.page record items size p).items.length = size.toNat
  last : size ≠ 0 → ∀ p, 1 ≤ p → p.toNat = q.pageCount record items size →
    1 ≤ (q.page record items size p).items.length ∧
      (q.page record items size p).items.length ≤ size.toNat
  beyond : ∀ p, q.pageCount record items size < p.toNat → (q.page record items size p).items = []
  hasNext : ∀ p, 1 ≤ p → p.toNat < UInt64.size - 1 →
    ((q.page record items size p).hasNext = true ↔ (q.page record items size (p + 1)).items ≠ [])
  empty : size = 0 → q.pageCount record items size = 0 ∧
    ∀ p, (q.page record items size p).items = [] ∧ (q.page record items size p).hasNext = false

theorem partitionedBy_pages (q : Query) (record : α → Record) (items : List α) (size : UInt64)
    (small : items.length < 2 ^ 63) : q.PartitionedBy record items size := by
  have small : items.length < UInt64.size := Nat.lt_trans small (by decide)
  have bound := length_matching_lt q record small
  have count : q.pageCount record items size ≤ (q.matching record items).length :=
    (q.page record items size 1).totalPages_le_total
  have offset : ∀ p, (PageRequest.offset ⟨p, size⟩).toNat =
      min (((max p 1).toNat - 1) * size.toNat) (UInt64.size - 1) := by
    intro p
    rw [← PageRequest.offset_make, PageRequest.toNat_offset]
    rfl
  exact
    { matching := matching_perm q record items
      sorted := isStableSort_matching
      total := fun p => length_matching
      total_lt := fun p => bound
      totalPages := fun p => totalPages_page
      pageCount_lt := Nat.lt_of_le_of_lt count bound
      offset := offset
      zero := rfl
      make := fetch_make
      join := flatMap_items_page small
      full := fun h p => length_items_page_of_lt small h
      last := fun h p => length_items_page_of_eq small h
      beyond := fun p => items_page_of_pageCount_lt small
      hasNext := fun p => hasNext_page_iff_next small
      empty := fun h => h ▸ ⟨pageCount_zero, fun p => ⟨items_page_zero small, hasNext_page_zero⟩⟩ }

theorem partitionedBy_pages_of_two :
    [0, 1, 2].length < 2 ^ 63 ∧ all.PartitionedBy (fun _ : Nat => []) [0, 1, 2] 2 :=
  ⟨by decide, partitionedBy_pages all (fun _ => []) [0, 1, 2] 2 (by decide)⟩

end Query

end RecordQuery
