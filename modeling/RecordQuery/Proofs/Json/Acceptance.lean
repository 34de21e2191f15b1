import Mathlib.Logic.Relation
import RecordQuery.Proofs.Json.Decoding

/-!
Which values readers take, objects read by a layout among them, and which differences between two
objects do not show in what is read from them: the order of members, the names they go by, members
of other names, and members that are no more than the default.
-/

namespace RecordQuery.Json

inductive IsText : Json → Prop
  | text {s} : IsText (.text s)

inductive IsBool : Json → Prop
  | bool {b} : IsBool (.bool b)

inductive IsWord : Json → Prop
  | number {l : NumberLiteral} : l.negative = false → l.fraction = [] → l.exponent = [] →
      Text.digitsValue l.whole < UInt64.size → IsWord (.number l)

inductive IsOptional (P : Json → Prop) : Json → Prop
  | null : IsOptional P .null
  | some {j} : P j → IsOptional P j

inductive IsList (P : Json → Prop) : Json → Prop
  | array {items} : (∀ j ∈ items, P j) → IsList P (.array items)

inductive AreLists (R : Json → Json → Prop) : Json → Json → Prop
  | array {items items'} : List.Forall₂ R items items' → AreLists R (.array items) (.array items')

def Takes {α : Type} (reader : Reader α) (P : Json → Prop) : Prop :=
  ∀ j, j.WellFormed → ((∃ a, reader j = .ok a) ↔ P j)

theorem isWord_of_value? {l : NumberLiteral} {n : UInt64} (h : l.value? = some (.unsigned n)) :
    IsWord (.number l) := by
  simp only [NumberLiteral.value?] at h
  split at h
  case isTrue fits =>
    simp only [Bool.and_eq_true, List.isEmpty_iff, Bool.not_eq_true', decide_eq_true_eq] at fits
    obtain ⟨⟨⟨fraction, exponent⟩, positive⟩, fits⟩ := fits
    exact .number positive fraction exponent fits
  case isFalse =>
    split at h
    · cases h
    · simp at h

namespace Takes

variable {α : Type} {reader : Reader α} {P : Json → Prop}

theorem text : Takes readText IsText := by
  intro j wellFormed
  constructor
  · rintro ⟨s, read⟩
    cases wellFormed with
    | text => exact .text
    | null | bool | number | array | object => cases read
  · rintro ⟨⟩
    exact ⟨_, rfl⟩

theorem bool : Takes readBool IsBool := by
  intro j wellFormed
  constructor
  · rintro ⟨b, read⟩
    cases wellFormed with
    | bool => exact .bool
    | null | number | text | array | object => cases read
  · rintro ⟨⟩
    exact ⟨_, rfl⟩

theorem word : Takes readWord IsWord := by
  intro j wellFormed
  constructor
  · rintro ⟨n, read⟩
    cases wellFormed with
    | null | bool | text | array | object => cases read
    | @number l =>
      cases value : l.value? with
      | none => simp [readWord, value] at read
      | some v =>
        cases v with
        | signed | float => simp [readWord, value] at read
        | unsigned => exact isWord_of_value? value
  · rintro ⟨positive, fraction, exponent, fits⟩
    simp [readWord, NumberLiteral.value?, positive, fraction, exponent, fits]

theorem option (h : Takes reader P) : Takes (readOption reader) (IsOptional P) := by
  intro j wellFormed
  by_cases null : j = .null
  · subst null
    exact ⟨fun _ => .null, fun _ => ⟨none, rfl⟩⟩
  · have reads : readOption reader j = (reader j).map some := by
      unfold readOption
      split
      · contradiction
      · rfl
    simp only [reads, map_eq_ok]
    constructor
    · rintro ⟨_, a, read, -⟩
      exact .some ((h j wellFormed).1 ⟨a, read⟩)
    · rintro (_ | admitted)
      · contradiction
      · obtain ⟨a, read⟩ := (h j wellFormed).2 admitted
        exact ⟨some a, a, read, rfl⟩

theorem list (h : Takes reader P) : Takes (readList reader) (IsList P) := by
  intro j wellFormed
  cases wellFormed with
  | null | bool | number | text | object =>
    constructor
    · rintro ⟨as, ⟨⟩⟩
    · rintro ⟨⟩
  | @array items wellFormed =>
    have each : (∀ j ∈ items, ∃ a, reader j = .ok a) ↔ ∀ j ∈ items, P j :=
      forall₂_congr fun j hj => h j (wellFormed j hj)
    rw [readList, exists_mapM_eq_ok, each]
    constructor
    · exact .array
    · rintro ⟨admitted⟩
      exact admitted

theorem bind_pure (h : Takes reader P) {β : Type} {f : α → β} :
    Takes (fun j => reader j >>= fun a => pure (f a)) P :=
  fun j wellFormed => exists_bind_pure_eq_ok.trans (h j wellFormed)

end Takes

theorem readFrom_eq_ok_of_isSpelled {α : Type} {reader : Reader α} {j : Json} {s : String}
    (h : j.IsSpelled s) {a : α} : readFrom reader s = .ok a ↔ reader j = .ok a := by
  simp [readFrom, parse_of_isSpelled h, bind_eq_ok, pure, Except.pure]

theorem readList_iff_of_areLists {α : Type} {reader : Reader α} {R : Json → Json → Prop}
    (h : ∀ j j', R j j' → ∀ a, reader j = .ok a ↔ reader j' = .ok a) {j j' : Json}
    (lists : AreLists R j j') {as : List α} :
    readList reader j = .ok as ↔ readList reader j' = .ok as := by
  cases lists with
  | array items => exact mapM_eq_ok_congr (items.imp h)

theorem areWhole_eq (js : List Json) : areWhole js = js.all isWhole := by
  induction js with
  | nil => rfl
  | cons j js ih => simp [areWhole, ih]

theorem haveWhole_eq (ms : List (Option String × Json)) :
    haveWhole ms = ms.all (·.2.isWhole) := by
  induction ms with
  | nil => rfl
  | cons m ms ih => simp [haveWhole, ih]

theorem WellFormed.isWhole {j : Json} (h : j.WellFormed) : j.isWhole := by
  induction h with
  | null | bool | number | text => rfl
  | array _ ih => simpa [Json.isWhole, areWhole_eq] using ih
  | object _ ih => simpa [Json.ofMembers, Json.isWhole, haveWhole_eq] using ih

theorem ofMembers_injective : Function.Injective ofMembers := by
  intro ms ms' same
  have injective : Function.Injective fun m : String × Json => (some m.1, m.2) := by
    rintro ⟨name, j⟩ ⟨name', j'⟩ same
    simpa using same
  exact List.map_injective_iff.2 injective (Json.object.inj same).1

/-- What the fields of a structure may hold. A field without a default has to be given; values that
are alike say the same. -/
structure Contents (κ : Type) where
  admits : κ → Json → Prop
  default? : κ → Option Json
  alike : κ → Json → Json → Prop

namespace Layout

variable {κ σ : Type}

def Names (l : Layout κ σ) (k : κ) (name : String) : Prop := name = l.label k ∨ name ∈ l.aliases k

/-- No field is given twice under any of its names, each one without a default is given, and what is
given is admitted. -/
structure Accepts (l : Layout κ σ) (c : Contents κ) (members : List (String × Json)) : Prop where
  once : members.Pairwise fun m m' => ∀ k, l.Names k m.1 → ¬l.Names k m'.1
  complete : ∀ k, c.default? k = none → ∃ m ∈ members, l.Names k m.1
  admitted : ∀ m ∈ members, ∀ k, l.Names k m.1 → c.admits k m.2

inductive Document (l : Layout κ σ) (c : Contents κ) : Json → Prop
  | object {members} : l.Accepts c members → Document l c (.ofMembers members)
  | array {items} : items.length ≤ l.keys.length → (∀ f ∈ l.keys.zip items, c.admits f.1 f.2) →
      (∀ k ∈ l.keys.drop items.length, c.default? k ≠ none) → Document l c (.array items)

theorem document_ofMembers {l : Layout κ σ} {c : Contents κ} {members : List (String × Json)} :
    l.Document c (.ofMembers members) ↔ l.Accepts c members := by
  constructor
  · intro document
    generalize same : Json.ofMembers members = j at document
    cases document with
    | object accepts => exact ofMembers_injective same ▸ accepts
    | array => exact Json.noConfusion same
  · exact .object

/-- The objects differ in one way that does not count. -/
inductive Respells (l : Layout κ σ) (c : Contents κ) : Json → Json → Prop
  | order {ms ms'} : ms.Perm ms' → Respells l c (.ofMembers ms) (.ofMembers ms')
  | name {k n n' j ms} : l.Names k n → l.Names k n' →
      Respells l c (.ofMembers ((n, j) :: ms)) (.ofMembers ((n', j) :: ms))
  | value {k n j j' ms} : l.Names k n → c.alike k j j' →
      Respells l c (.ofMembers ((n, j) :: ms)) (.ofMembers ((n, j') :: ms))
  | unknown {n j ms} : (∀ k, ¬l.Names k n) → j.WellFormed →
      Respells l c (.ofMembers ms) (.ofMembers ((n, j) :: ms))
  | default {k n j ms} : l.Names k n → c.default? k = some j → (∀ m ∈ ms, ¬l.Names k m.1) →
      Respells l c (.ofMembers ms) (.ofMembers ((n, j) :: ms))

def Alike (l : Layout κ σ) (c : Contents κ) : Json → Json → Prop := Relation.EqvGen (l.Respells c)

structure Holds (l : Layout κ σ) (c : Contents κ) : Prop where
  all : ∀ k, k ∈ l.keys
  known : ∀ k ∈ l.keys, ∀ name ∈ l.label k :: l.aliases k, l.key? name = some k
  required : ∀ k, l.required k ↔ c.default? k = none
  stores : ∀ k s, Takes (fun j => l.store k j s) (c.admits k)
  commute : ∀ k k', k ≠ k' → ∀ j j' s t, l.storeAll s [(k, j), (k', j')] = .ok t →
    l.storeAll s [(k', j'), (k, j)] = .ok t
  default : ∀ k j, c.default? k = some j → l.store k j l.initial = .ok l.initial
  alike : ∀ k j j', c.alike k j j' → ∀ s t, l.store k j s = .ok t ↔ l.store k j' s = .ok t

theorem storeAll_append {l : Layout κ σ} {s t : σ} {fields fields' : List (κ × Json)} :
    l.storeAll s (fields ++ fields') = .ok t ↔
      ∃ u, l.storeAll s fields = .ok u ∧ l.storeAll u fields' = .ok t := by
  rw [storeAll, List.foldlM_append, bind_eq_ok]
  rfl

theorem storeAll_swap {α β : Type} {l : Layout κ σ} {k k' : κ} {j j' : Json} {s t : σ}
    {x : Except JsonFault α} {y : Except JsonFault β} {f : α → σ → σ} {g : β → σ → σ}
    (here : ∀ s, l.store k j s = x >>= fun a => pure (f a s))
    (there : ∀ s, l.store k' j' s = y >>= fun b => pure (g b s))
    (apart : ∀ a b s, f a (g b s) = g b (f a s))
    (stores : l.storeAll s [(k, j), (k', j')] = .ok t) :
    l.storeAll s [(k', j'), (k, j)] = .ok t := by
  obtain ⟨u, first, rest⟩ := storeAll_cons.1 stores
  obtain ⟨v, second, rest⟩ := storeAll_cons.1 rest
  rw [here, bind_eq_ok] at first
  rw [there, bind_eq_ok] at second
  obtain ⟨a, read, ⟨⟩⟩ := first
  obtain ⟨b, read', ⟨⟩⟩ := second
  cases rest
  simp [storeAll, here, there, read, read', apart, pure, Except.pure]

theorem readItems_eq_ok {l : Layout κ σ} {index : Nat} {s t : σ} {ks : List κ}
    {items : List Json} :
    l.readItems index s ks items = .ok t ↔ items.length ≤ ks.length ∧
      (∀ k ∈ ks.drop items.length, ¬l.required k) ∧ l.storeAll s (ks.zip items) = .ok t := by
  induction ks generalizing index s items with
  | nil => cases items <;> simp [readItems, storeAll, pure, Except.pure]
  | cons k ks ih =>
    cases items with
    | nil =>
      simp only [readItems]
      by_cases required : l.required k <;> simp [required, ih, storeAll, pure, Except.pure]
    | cons j js =>
      simp only [readItems, bind_eq_ok, List.zip_cons_cons, storeAll_cons, ih, List.length_cons,
        List.drop_succ_cons, Nat.add_le_add_iff_right]
      constructor
      · rintro ⟨u, first, fits, optional, rest⟩
        exact ⟨fits, optional, u, first, rest⟩
      · rintro ⟨fits, optional, u, first, rest⟩
        exact ⟨u, first, fits, optional, rest⟩

theorem map_fst_recognized (l : Layout κ σ) (members : List (String × Json)) :
    (l.recognized members).map Prod.fst = members.filterMap (l.key? ·.1) := by
  simp [recognized, List.map_filterMap, Function.comp_def]

namespace Holds

variable {l : Layout κ σ} {c : Contents κ} {s t : σ} {k : κ} {name : String}
  {members : List (String × Json)} {fields fields' : List (κ × Json)}

theorem key?_eq_some (h : l.Holds c) : l.key? name = some k ↔ l.Names k name := by
  constructor
  · intro found
    have names := List.find?_some found
    simpa [Names] using names
  · intro names
    exact h.known k (h.all k) name (by simpa [Names] using names)

theorem key?_eq_none (h : l.Holds c) : l.key? name = none ↔ ∀ k, ¬l.Names k name := by
  rw [Option.eq_none_iff_forall_ne_some]
  exact forall_congr' fun k => not_congr h.key?_eq_some

theorem mem_recognized (h : l.Holds c) {j : Json} :
    (k, j) ∈ l.recognized members ↔ ∃ m ∈ members, l.Names k m.1 ∧ m.2 = j := by
  simp [recognized, h.key?_eq_some]

theorem mem_map_recognized (h : l.Holds c) :
    k ∈ (l.recognized members).map Prod.fst ↔ ∃ m ∈ members, l.Names k m.1 := by
  simp only [map_fst_recognized, List.mem_filterMap, h.key?_eq_some]

theorem nodup_recognized_iff (h : l.Holds c) :
    ((l.recognized members).map Prod.fst).Nodup ↔
      members.Pairwise fun m m' => ∀ k, l.Names k m.1 → ¬l.Names k m'.1 := by
  rw [map_fst_recognized, List.Nodup, List.pairwise_filterMap]
  simp only [h.key?_eq_some]
  constructor
  · exact fun once => once.imp fun distinct k named again => distinct k named k again rfl
  · refine fun once => once.imp fun distinct k named k' again same => ?_
    exact distinct k named (same ▸ again)

theorem storeAll_perm (h : l.Holds c) (perm : fields.Perm fields')
    (once : (fields.map Prod.fst).Nodup) (stores : l.storeAll s fields = .ok t) :
    l.storeAll s fields' = .ok t := by
  induction perm generalizing s t with
  | nil => exact stores
  | cons f _ ih =>
    obtain ⟨u, first, rest⟩ := storeAll_cons.1 stores
    exact storeAll_cons.2 ⟨u, first, ih (List.nodup_cons.1 once).2 rest⟩
  | swap f f' fields =>
    have stores : l.storeAll s ([f', f] ++ fields) = .ok t := stores
    obtain ⟨u, two, rest⟩ := storeAll_append.1 stores
    have distinct : f'.1 ≠ f.1 := by
      rintro same
      simp [same] at once
    show l.storeAll s ([f, f'] ++ fields) = .ok t
    exact storeAll_append.2 ⟨u, h.commute _ _ distinct _ _ _ _ two, rest⟩
  | trans perm _ ih ih' =>
    exact ih' ((perm.map Prod.fst).nodup_iff.1 once) (ih once stores)

theorem exists_storeAll_iff (h : l.Holds c) (wellFormed : ∀ f ∈ fields, f.2.WellFormed) :
    (∃ t, l.storeAll s fields = .ok t) ↔ ∀ f ∈ fields, c.admits f.1 f.2 := by
  induction fields generalizing s with
  | nil => exact ⟨fun _ _ h => absurd h List.not_mem_nil, fun _ => ⟨s, rfl⟩⟩
  | cons f fields ih =>
    obtain ⟨first, rest⟩ := List.forall_mem_cons.1 wellFormed
    rw [List.forall_mem_cons]
    constructor
    · rintro ⟨t, stores⟩
      obtain ⟨u, here, there⟩ := storeAll_cons.1 stores
      exact ⟨(h.stores _ s _ first).1 ⟨u, here⟩, (ih rest).1 ⟨t, there⟩⟩
    · rintro ⟨here, there⟩
      obtain ⟨u, here⟩ := (h.stores _ s _ first).2 here
      obtain ⟨t, there⟩ := (ih rest (s := u)).2 there
      exact ⟨t, storeAll_cons.2 ⟨u, here, there⟩⟩

variable [DecidableEq κ]

theorem exists_read_ofMembers_iff (h : l.Holds c) (wellFormed : ∀ m ∈ members, m.2.WellFormed) :
    (∃ t, l.read (.ofMembers members) = .ok t) ↔ l.Accepts c members := by
  have fields : ∀ f ∈ l.recognized members, f.2.WellFormed := by
    rintro ⟨k, j⟩ hf
    obtain ⟨m, hm, -, rfl⟩ := h.mem_recognized.1 hf
    exact wellFormed m hm
  simp only [read_ofMembers_eq_ok, exists_and_left, h.exists_storeAll_iff fields,
    h.nodup_recognized_iff, h.mem_map_recognized, h.required]
  constructor
  · rintro ⟨-, once, complete, admitted⟩
    refine ⟨once, fun k => complete k (h.all k), fun m hm k named => ?_⟩
    exact admitted (k, m.2) (h.mem_recognized.2 ⟨m, hm, named, rfl⟩)
  · rintro ⟨once, complete, admitted⟩
    refine ⟨fun m hm _ => (wellFormed m hm).isWhole, once, fun k _ => complete k, ?_⟩
    rintro ⟨k, j⟩ hf
    obtain ⟨m, hm, named, rfl⟩ := h.mem_recognized.1 hf
    exact admitted m hm k named

theorem exists_read_array_iff (h : l.Holds c) {items : List Json}
    (wellFormed : ∀ j ∈ items, j.WellFormed) :
    (∃ t, l.read (.array items) = .ok t) ↔ items.length ≤ l.keys.length ∧
      (∀ f ∈ l.keys.zip items, c.admits f.1 f.2) ∧
      ∀ k ∈ l.keys.drop items.length, c.default? k ≠ none := by
  have fields : ∀ f ∈ l.keys.zip items, f.2.WellFormed :=
    fun f hf => wellFormed _ (List.of_mem_zip hf).2
  simp only [Layout.read, readItems_eq_ok, exists_and_left, h.exists_storeAll_iff fields,
    ne_eq, ← h.required]
  rw [and_congr_right_iff]
  exact fun _ => and_comm

theorem takes_document (h : l.Holds c) : Takes l.read (l.Document c) := by
  intro j wellFormed
  cases wellFormed with
  | null | bool | number | text =>
    constructor
    · rintro ⟨t, ⟨⟩⟩
    · rintro ⟨⟩
  | array wellFormed =>
    rw [h.exists_read_array_iff wellFormed]
    constructor
    · rintro ⟨fits, admitted, optional⟩
      exact .array fits admitted optional
    · rintro (_ | ⟨fits, admitted, optional⟩)
      exact ⟨fits, admitted, optional⟩
  | object wellFormed =>
    rw [h.exists_read_ofMembers_iff wellFormed, document_ofMembers]

theorem read_cons_eq_ok (h : l.Holds c) {j : Json} (named : l.Names k name) :
    l.read (.ofMembers ((name, j) :: members)) = .ok t ↔
      (∀ m ∈ members, l.key? m.1 = none → m.2.isWhole) ∧
      ((l.recognized members).map Prod.fst).Nodup ∧
      k ∉ (l.recognized members).map Prod.fst ∧
      (∀ k' ∈ l.keys, l.required k' → k' = k ∨ k' ∈ (l.recognized members).map Prod.fst) ∧
      ∃ u, l.store k j l.initial = .ok u ∧ l.storeAll u (l.recognized members) = .ok t := by
  have key : l.key? name = some k := h.key?_eq_some.2 named
  have known : l.key? name ≠ none := by simp [key]
  rw [read_ofMembers_eq_ok, recognized_cons_of_some key, List.forall_mem_cons, List.map_cons,
    List.nodup_cons, storeAll_cons]
  simp only [known, false_imp_iff, true_and, List.mem_cons]
  tauto

theorem read_order (h : l.Holds c) {members' : List (String × Json)}
    (perm : members.Perm members') (read : l.read (.ofMembers members) = .ok t) :
    l.read (.ofMembers members') = .ok t := by
  obtain ⟨whole, once, complete, stores⟩ := read_ofMembers_eq_ok.1 read
  have fields : (l.recognized members).Perm (l.recognized members') := perm.filterMap _
  refine read_ofMembers_eq_ok.2 ⟨fun m hm => whole m (perm.mem_iff.2 hm), ?_, ?_, ?_⟩
  · exact (fields.map Prod.fst).nodup_iff.1 once
  · exact fun k hk required => (fields.map Prod.fst).mem_iff.1 (complete k hk required)
  · exact h.storeAll_perm fields once stores

theorem read_unknown (h : l.Holds c) {j : Json} (unnamed : ∀ k, ¬l.Names k name)
    (wellFormed : j.WellFormed) :
    l.read (.ofMembers ((name, j) :: members)) = .ok t ↔ l.read (.ofMembers members) = .ok t := by
  have unknown : l.key? name = none := h.key?_eq_none.2 unnamed
  rw [read_ofMembers_eq_ok, read_ofMembers_eq_ok, recognized_cons_of_none unknown,
    List.forall_mem_cons]
  simp [wellFormed.isWhole]

theorem read_default (h : l.Holds c) {j : Json} (named : l.Names k name)
    (default : c.default? k = some j) (new : ∀ m ∈ members, ¬l.Names k m.1) :
    l.read (.ofMembers ((name, j) :: members)) = .ok t ↔ l.read (.ofMembers members) = .ok t := by
  have absent : k ∉ (l.recognized members).map Prod.fst := by
    rw [h.mem_map_recognized]
    exact fun ⟨m, hm, names⟩ => new m hm names
  have optional : ¬l.required k := by simp [h.required, default]
  have distinct {k' : κ} (required : l.required k') : k' ≠ k := by
    rintro rfl
    exact optional required
  rw [h.read_cons_eq_ok named, read_ofMembers_eq_ok, h.default k j default]
  simp +contextual [absent, distinct]

theorem read_iff_of_respells (h : l.Holds c) {j j' : Json} (respells : l.Respells c j j') :
    l.read j = .ok t ↔ l.read j' = .ok t := by
  cases respells with
  | order perm => exact ⟨h.read_order perm, h.read_order perm.symm⟩
  | name named named' => rw [h.read_cons_eq_ok named, h.read_cons_eq_ok named']
  | value named alike =>
    simp only [h.read_cons_eq_ok named, h.alike _ _ _ alike]
  | unknown unnamed wellFormed => exact (h.read_unknown unnamed wellFormed).symm
  | default named default new => exact (h.read_default named default new).symm

theorem read_iff_of_alike (h : l.Holds c) {j j' : Json} (alike : l.Alike c j j') :
    l.read j = .ok t ↔ l.read j' = .ok t := by
  induction alike with
  | rel _ _ respells => exact h.read_iff_of_respells respells
  | refl => rfl
  | symm _ _ _ ih => exact ih.symm
  | trans _ _ _ _ _ ih ih' => exact ih.trans ih'

end Holds

/-- In any spelling, an object has a result for the reader just if the layout accepts it, and texts
of values that are alike have the same result. -/
structure IsReadBy (l : Layout κ σ) (c : Contents κ) (reader : Reader σ) : Prop where
  accepts : ∀ members s, (Json.ofMembers members).IsSpelled s →
    ((∃ t, readFrom reader s = .ok t) ↔ l.Accepts c members)
  alike : ∀ j j' s s', j.IsSpelled s → j'.IsSpelled s' → l.Alike c j j' →
    ∀ t, readFrom reader s = .ok t ↔ readFrom reader s' = .ok t

variable [DecidableEq κ] {l : Layout κ σ} {c : Contents κ}

theorem Holds.isReadBy (h : l.Holds c) : l.IsReadBy c l.read where
  accepts members s spelled := by
    simp only [readFrom_eq_ok_of_isSpelled spelled]
    rw [h.takes_document _ spelled.1, document_ofMembers]
  alike j j' s s' spelled spelled' alike t := by
    rw [readFrom_eq_ok_of_isSpelled spelled, readFrom_eq_ok_of_isSpelled spelled',
      h.read_iff_of_alike alike]

end Layout

end RecordQuery.Json
