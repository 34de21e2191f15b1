import Mathlib.Data.Finset.Card
import Mathlib.Data.List.Induction
import RecordQuery.Labels

namespace RecordQuery

structure LabelEntry where
  enum : EnumType
  value : Int64
  label : String

namespace LabelEntry

def IsFor (x : LabelEntry) (e : EnumType) (value : Int64) : Prop :=
  x.enum.id = e.id ∧ x.value = value

instance (x : LabelEntry) (e : EnumType) (value : Int64) : Decidable (x.IsFor e value) :=
  inferInstanceAs (Decidable (_ ∧ _))

def key (x : LabelEntry) : Nat × Int64 := (x.enum.id, x.value)

theorem isFor_iff {x : LabelEntry} {e : EnumType} {value : Int64} :
    x.IsFor e value ↔ (e.id, value) = x.key := by
  simp [IsFor, key, eq_comm]

end LabelEntry

/-- The label of a member after a list of entries: that of the last entry for it, else the one that
the enumeration declares for the value, else none. -/
inductive EnumType.Labelled (xs : List LabelEntry) (e : EnumType) (value : Int64) :
    Option String → Prop
  | entered {before x after} : xs = before ++ x :: after → x.IsFor e value →
      (∀ y ∈ after, ¬y.IsFor e value) → Labelled xs e value (some x.label)
  | declared {v} : (∀ x ∈ xs, ¬x.IsFor e value) → e.variant? value = some v →
      Labelled xs e value v.label
  | unknown : (∀ x ∈ xs, ¬x.IsFor e value) → e.variant? value = none → Labelled xs e value none

theorem EnumType.filter_search_congr {e : EnumType} {labels labels' : Labels} {keep : Int64 → Bool}
    (same : ∀ v ∈ e.variants, keep v.value = true → labels' e v.value = labels e v.value)
    (needle : String) :
    (e.search labels' needle).filter keep = (e.search labels needle).filter keep := by
  rw [search, search, List.filter_map, List.filter_map, List.filter_filter, List.filter_filter]
  refine congrArg _ (List.filter_congr fun v hv => ?_)
  cases kept : keep v.value with
  | false => simp [kept]
  | true => simp [kept, Labels.display, same v hv kept]

theorem EnumType.search_congr {e : EnumType} {labels labels' : Labels}
    (same : ∀ v ∈ e.variants, labels' e v.value = labels e v.value) (needle : String) :
    e.search labels' needle = e.search labels needle := by
  have all := @filter_search_congr e labels labels' (fun _ => true) (fun v hv _ => same v hv) needle
  simpa only [List.filter_true] using all

namespace LabelTable

variable {t : LabelTable} {x : LabelEntry} {xs : List LabelEntry} {e : EnumType} {value : Int64}
  {k : Nat × Int64} {label : String}

def enter (t : LabelTable) (x : LabelEntry) : LabelTable := t.insert x.enum x.value x.label

def ofEntries (xs : List LabelEntry) : LabelTable := xs.foldl enter empty

theorem ofEntries_concat (xs : List LabelEntry) (x : LabelEntry) :
    ofEntries (xs ++ [x]) = (ofEntries xs).enter x := by
  simp [ofEntries]

theorem lookup_filter_ne {κ α : Type} [BEq κ] [LawfulBEq κ] {k k' : κ} (other : k' ≠ k)
    (entries : List (κ × α)) : (entries.filter (·.1 != k)).lookup k' = entries.lookup k' := by
  induction entries with
  | nil => rfl
  | cons entry entries ih =>
    obtain ⟨k₀, a⟩ := entry
    by_cases h : k₀ = k
    · have missed : (k' == k) = false := beq_false_of_ne other
      simp [List.lookup_cons, h, missed, ih]
    · simp [List.lookup_cons, h, ih]

theorem labels_enter (t : LabelTable) (x : LabelEntry) (e : EnumType) (value : Int64) :
    (t.enter x).labels e value = if x.IsFor e value then some x.label else t.labels e value := by
  split
  next this => simp [labels, enter, insert, this.1, this.2]
  next other =>
    have apart : (e.id, value) ≠ (x.enum.id, x.value) := mt LabelEntry.isFor_iff.2 other
    have missed : ((e.id, value) == (x.enum.id, x.value)) = false := beq_false_of_ne apart
    simp only [labels, enter, insert, List.lookup_cons, missed, lookup_filter_ne apart]

theorem labels_enter_of_not_isFor (other : ¬x.IsFor e value) :
    (t.enter x).labels e value = t.labels e value := by
  rw [labels_enter, if_neg other]

theorem labels_foldl_of_not_isFor (others : ∀ x ∈ xs, ¬x.IsFor e value) :
    (xs.foldl enter t).labels e value = t.labels e value := by
  induction xs generalizing t with
  | nil => rfl
  | cons x xs ih =>
    obtain ⟨other, others⟩ := List.forall_mem_cons.1 others
    rw [List.foldl_cons, ih others, labels_enter_of_not_isFor other]

theorem labels_empty (e : EnumType) (value : Int64) :
    empty.labels e value = (e.variant? value).bind (·.label) := rfl

theorem labels_eq_of_labelled {l : Option String} (h : e.Labelled xs value l) :
    (ofEntries xs).labels e value = l := by
  cases h with
  | @entered before x after split this others =>
    rw [split, ofEntries, List.foldl_append, List.foldl_cons, labels_foldl_of_not_isFor others,
      labels_enter, if_pos this]
  | declared others found =>
    rw [ofEntries, labels_foldl_of_not_isFor others, labels_empty, found, Option.bind_some]
  | unknown others missing =>
    rw [ofEntries, labels_foldl_of_not_isFor others, labels_empty, missing, Option.bind_none]

theorem exists_labelled (xs : List LabelEntry) (e : EnumType) (value : Int64) :
    ∃ l, e.Labelled xs value l := by
  cases last : xs.reverse.find? fun x => decide (x.IsFor e value) with
  | some x =>
    obtain ⟨this, after, before, split, others⟩ := List.find?_eq_some_iff_append.1 last
    have split : xs = before.reverse ++ x :: after.reverse := by
      rw [← xs.reverse_reverse, split]
      simp
    exact ⟨_, .entered split (by simpa using this) (by simpa using others)⟩
  | none =>
    have others : ∀ x ∈ xs, ¬x.IsFor e value := by simpa using last
    cases found : e.variant? value with
    | some v => exact ⟨_, .declared others found⟩
    | none => exact ⟨_, .unknown others found⟩

theorem labels_ofEntries_iff {l : Option String} :
    (ofEntries xs).labels e value = l ↔ e.Labelled xs value l := by
  refine ⟨?_, labels_eq_of_labelled⟩
  rintro rfl
  obtain ⟨l, labelled⟩ := exists_labelled xs e value
  rwa [labels_eq_of_labelled labelled]

def keys (t : LabelTable) : List (Nat × Int64) := t.entries.map (·.1)

theorem mem_keys_enter : k ∈ (t.enter x).keys ↔ k = x.key ∨ k ∈ t.keys := by
  by_cases this : k = x.key
  · simp [keys, enter, insert, LabelEntry.key, this]
  · have apart : k ≠ (x.enum.id, x.value) := this
    simp [keys, enter, insert, this, apart]

theorem nodup_keys_enter (nodup : t.keys.Nodup) : (t.enter x).keys.Nodup := by
  simp only [keys, enter, insert, List.map_cons, List.nodup_cons]
  refine ⟨by simp, nodup.sublist (List.filter_sublist.map _)⟩

theorem mem_keys_ofEntries : k ∈ (ofEntries xs).keys ↔ k ∈ xs.map (·.key) := by
  induction xs using List.reverseRecOn with
  | nil => rfl
  | append_singleton xs x ih =>
    rw [ofEntries_concat, mem_keys_enter, ih]
    simp [or_comm]

theorem nodup_keys_ofEntries (xs : List LabelEntry) : (ofEntries xs).keys.Nodup := by
  induction xs using List.reverseRecOn with
  | nil => exact .nil
  | append_singleton xs x ih =>
    rw [ofEntries_concat]
    exact nodup_keys_enter ih

theorem size_ofEntries (xs : List LabelEntry) :
    (ofEntries xs).size = (xs.map (·.key)).toFinset.card := by
  have same : (ofEntries xs).keys.toFinset = (xs.map (·.key)).toFinset := by
    ext k
    rw [List.mem_toFinset, List.mem_toFinset, mem_keys_ofEntries]
  calc
    _ = (ofEntries xs).keys.length := (List.length_map _).symm
    _ = (ofEntries xs).keys.toFinset.card :=
      (List.toFinset_card_of_nodup (nodup_keys_ofEntries xs)).symm
    _ = _ := by rw [same]

/-- After any entries, each member has its last label or the declared one, and the table holds as
many labels as members were entered, whatever the names of their enumerations. One more entry leaves
the labels of all other members, and what is found among them. -/
theorem ofEntries_keeps_last (xs : List LabelEntry) :
    (∀ e value l, (ofEntries xs).labels e value = l ↔ e.Labelled xs value l) ∧
    (ofEntries xs).size = (xs.map (·.key)).toFinset.card ∧
    ∀ (x : LabelEntry) (e : EnumType) (needle : String),
      (∀ value, ¬x.IsFor e value →
        (ofEntries (xs ++ [x])).labels e value = (ofEntries xs).labels e value) ∧
      (x.enum.id ≠ e.id →
        e.search (ofEntries (xs ++ [x])).labels needle = e.search (ofEntries xs).labels needle) ∧
      (e.search (ofEntries (xs ++ [x])).labels needle).filter (· != x.value) =
        (e.search (ofEntries xs).labels needle).filter (· != x.value) := by
  refine ⟨fun e value l => labels_ofEntries_iff, size_ofEntries xs, fun x e needle => ?_⟩
  rw [ofEntries_concat]
  refine ⟨fun value => labels_enter_of_not_isFor, fun other => ?_, ?_⟩
  · refine EnumType.search_congr (fun v _ => ?_) needle
    exact labels_enter_of_not_isFor fun this => other this.1
  · refine EnumType.filter_search_congr (fun v _ kept => ?_) needle
    exact labels_enter_of_not_isFor fun this => by simp [this.2] at kept

theorem ofEntries_keeps_last_role :
    let role : EnumType := ⟨0, "Role", [⟨"Admin", 0, some "Administrator"⟩, ⟨"Guest", 2, none⟩]⟩
    let other : EnumType := ⟨1, "Role", [⟨"Owner", 0, none⟩]⟩
    let xs : List LabelEntry := [⟨role, 2, "Visitor"⟩, ⟨other, 0, "Landlord"⟩]
    let x : LabelEntry := ⟨other, 0, "Proprietor"⟩
    (ofEntries (xs ++ [x])).labels other 0 = some "Proprietor" ∧
      (ofEntries (xs ++ [x])).size = 2 ∧
      (ofEntries (xs ++ [x])).labels role 0 = some "Administrator" ∧
      role.search (ofEntries (xs ++ [x])).labels "R" =
        role.search (ofEntries xs).labels "R" := by
  intro role other xs x
  obtain ⟨labels, size, -⟩ := ofEntries_keeps_last (xs ++ [x])
  obtain ⟨others, found, -⟩ := (ofEntries_keeps_last xs).2.2 x role "R"
  have apart : ¬x.IsFor role 0 := by decide
  have admin : role.variant? 0 = some ⟨"Admin", 0, some "Administrator"⟩ := by decide
  have declared : role.Labelled xs 0 (some "Administrator") := .declared (by decide) admin
  have two : ((xs ++ [x]).map (·.key)).toFinset.card = 2 := by decide +kernel
  refine ⟨(labels other 0 _).2 (.entered rfl ⟨rfl, rfl⟩ (by simp)), size.trans two, ?_,
    found (by decide)⟩
  rw [others 0 apart]
  exact ((ofEntries_keeps_last xs).1 role 0 _).2 declared

end LabelTable

end RecordQuery
