import RecordQuery.Proofs.Order.Chained

namespace RecordQuery

/-- Why a key leaves two values to the keys behind it: neither has a place, or both have one and
they cannot be compared, or are equal. -/
inductive Value.Ties (texts : String → String → Ordering) (a b : Value) : Prop
  | bothLast : a.sortsLast = true → b.sortsLast = true → Ties texts a b
  | incomparable : a.sortsLast = false → b.sortsLast = false → a.compareBy texts b = none →
      Ties texts a b
  | equal : a.sortsLast = false → b.sortsLast = false → a.compareBy texts b = some .eq →
      Ties texts a b

theorem Direction.apply_eq_eq (d : Direction) (o : Ordering) : d.apply o = .eq ↔ o = .eq := by
  cases d <;> cases o <;> decide

namespace SortKey

variable {k k' : SortKey} {c : Collation}

theorem compareValues_eq_eq_iff {a b : Value} :
    k.compareValues c a b = .eq ↔ Value.Ties c.compare a b := by
  simp only [compareValues]
  constructor
  · intro tie
    cases la : a.sortsLast <;> cases lb : b.sortsLast <;> simp only [la, lb, reduceCtorEq] at tie
    · cases order : a.compareBy c.compare b with
      | none => exact .incomparable la lb order
      | some o =>
        rw [order, Option.map_some, Option.getD_some, Direction.apply_eq_eq] at tie
        exact .equal la lb (tie ▸ order)
    · exact .bothLast la lb
  · rintro (⟨la, lb⟩ | ⟨la, lb, order⟩ | ⟨la, lb, order⟩)
    · simp only [la, lb]
    · simp only [la, lb, order, Option.map_none, Option.getD_none]
    · simp only [la, lb, order, Option.map_some, Option.getD_some, Direction.apply_eq_eq]

theorem compare_eq_eq_of_path_eq {a b : Record} (same : k'.path = k.path)
    (tie : k.compare c a b = .eq) : k'.compare c a b = .eq := by
  simp only [compare, compareValues_eq_eq_iff] at tie ⊢
  rwa [same]

end SortKey

namespace Order

variable {c : Collation} {front back : List SortKey} {k k' : SortKey} {a b : Record}

theorem compareKeys_eq_eq_iff {ks : List SortKey} :
    compareKeys c ks a b = .eq ↔ ∀ k ∈ ks, k.compare c a b = .eq := by
  induction ks with
  | nil => simp [compareKeys]
  | cons k ks ih => rw [compareKeys, Ordering.then_eq_eq, ih, List.forall_mem_cons]

theorem compareKeys_append_of_ne_eq (more : List SortKey) {ks : List SortKey}
    (apart : compareKeys c ks a b ≠ .eq) :
    compareKeys c (ks ++ more) a b = compareKeys c ks a b := by
  rw [compareKeys_append, then_of_ne_eq apart]

theorem compareKeys_insert (mem : k ∈ front) (same : k'.path = k.path) :
    compareKeys c (front ++ k' :: back) a b = compareKeys c (front ++ back) a b := by
  by_cases tie : compareKeys c front a b = .eq
  · have tie' : k'.compare c a b = .eq :=
      SortKey.compare_eq_eq_of_path_eq same (compareKeys_eq_eq_iff.1 tie k mem)
    rw [compareKeys_append, compareKeys_append, compareKeys, tie', Ordering.eq_then]
  · rw [compareKeys_append_of_ne_eq _ tie, compareKeys_append_of_ne_eq _ tie]

structure Alike (o o' : Order) : Prop where
  compare : ∀ a b, o'.compare a b = o.compare a b
  sortOn : ∀ (α : Type) (record : α → Record) (items : List α),
    o'.sortOn record items = o.sortOn record items

theorem Alike.of_compare {o o' : Order} (empty : o'.keys.isEmpty = o.keys.isEmpty)
    (compare : ∀ a b, o'.compare a b = o.compare a b) : Alike o o' where
  compare := compare
  sortOn α record items := by simp only [Order.sortOn, empty, compare]

theorem alike_insert {o o' : Order} (keys : o.keys = front ++ back)
    (keys' : o'.keys = front ++ k' :: back) (collation : o'.collation = o.collation)
    (mem : k ∈ front) (same : k'.path = k.path) : Alike o o' := by
  obtain ⟨first, others, rfl⟩ := List.exists_cons_of_ne_nil (List.ne_nil_of_mem mem)
  refine .of_compare (by rw [keys, keys']; rfl) fun a b => ?_
  rw [compare, compare, keys, keys', collation, compareKeys_insert mem same]

theorem exists_alike_of_compile {type : RecordType} {front back : List SortSpec} {spec : SortSpec}
    {o : Order} (compiled : compile type c (front ++ back) = .ok o) (mem : spec ∈ front)
    (descending : Bool) :
    ∃ o', compile type c (front ++ ⟨spec.property, descending⟩ :: back) = .ok o' ∧
      Alike o o' := by
  simp only [compile, bind_eq_ok, mapM_append_eq_ok] at compiled
  obtain ⟨_, ⟨ks, ks', made, made', rfl⟩, h⟩ := compiled
  cases h
  obtain ⟨k, there, key⟩ := exists_mem_of_mapM_eq_ok made mem
  obtain ⟨p, sortable, found, rfl⟩ := key_eq_ok.1 key
  let k' : SortKey := ⟨p.path, .ofDescending descending, p.nullable, p.type, sortable⟩
  refine ⟨⟨ks ++ k' :: ks', c⟩, ?_, alike_insert rfl rfl rfl there rfl⟩
  simp only [compile, bind_eq_ok, mapM_append_eq_ok]
  refine ⟨_, ⟨ks, k' :: ks', made, ?_, rfl⟩, rfl⟩
  rw [List.mapM_cons, key_eq_ok.2 ⟨p, sortable, found, rfl⟩, ok_bind, made']
  rfl

/-- Keys behind others only break ties of theirs. A key behind another one on the same path breaks
none, in either direction and wherever it stands, so that with it all records are compared and all
lists are sorted as without it. -/
theorem redundant_keys_inert :
    (∀ (o : Order) (more : List SortKey) (a b : Record), o.compare a b ≠ .eq →
      { o with keys := o.keys ++ more }.compare a b = o.compare a b) ∧
    (∀ (o : Order) (front back : List SortKey) (k k' : SortKey), o.keys = front ++ back →
      k ∈ front → k'.path = k.path → o.Alike { o with keys := front ++ k' :: back }) ∧
    ∀ (type : RecordType) (c : Collation) (front back : List SortSpec) (spec : SortSpec)
      (descending : Bool) (o : Order), compile type c (front ++ back) = .ok o → spec ∈ front →
      ∃ o', compile type c (front ++ ⟨spec.property, descending⟩ :: back) = .ok o' ∧
        o.Alike o' := by
  refine ⟨fun o more a b => compareKeys_append_of_ne_eq more, ?_, ?_⟩
  · exact fun o front back k k' keys mem same => alike_insert keys rfl rfl mem same
  · exact fun type c front back spec descending o compiled mem =>
      exists_alike_of_compile compiled mem descending

theorem redundant_keys_inert_tracks :
    let schema : Schema := ⟨"Track", [⟨"artist", .string, true⟩, ⟨"year", .int, false⟩]⟩
    let type : RecordType := ⟨fun _ => schema, 0⟩
    let artist : SortKey := ⟨["artist"], .ascending, true, .string, rfl⟩
    let artist' : SortKey := ⟨["artist"], .descending, true, .string, rfl⟩
    let year : SortKey := ⟨["year"], .descending, false, .int, rfl⟩
    let o : Order := ⟨[artist, year], .folded⟩
    let track (artist : Value) (year : Int64) : Record :=
      [("artist", artist), ("year", .scalar (.number (.signed year)))]
    let first := track (.scalar (.number (.signed 7))) 1974
    let last := track (.scalar (.text "emile")) 1982
    o.compare first last = .gt ∧
      Order.compare ⟨[artist, year, artist'], .folded⟩ first last = .gt ∧
      o.Alike ⟨[artist, artist', year], .folded⟩ ∧
      compile type .folded [⟨"artist", false⟩, ⟨"year", true⟩] = .ok o ∧
      ∃ o', compile type .folded [⟨"artist", false⟩, ⟨"year", true⟩, ⟨"artist", true⟩] = .ok o' ∧
        o.Alike o' := by
  intro schema type artist artist' year o track first last
  have apart : o.compare first last = .gt := by decide +kernel
  have compiled : compile type .folded ([⟨"artist", false⟩, ⟨"year", true⟩] ++ []) = .ok o := rfl
  obtain ⟨behind, inserted, specs⟩ := redundant_keys_inert
  refine ⟨apart, ?_, ?_, compiled, specs type .folded _ [] ⟨"artist", false⟩ true o compiled ?_⟩
  · rw [← apart]
    exact behind o [artist'] first last (by simp [apart])
  · exact inserted o [artist] [year] artist artist' rfl (by simp) rfl
  · simp

end Order

end RecordQuery
