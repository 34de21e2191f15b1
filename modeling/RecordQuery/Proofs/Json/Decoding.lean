import RecordQuery.Json.Decode
import RecordQuery.Proofs.Except
import RecordQuery.Proofs.Json.Parsing

namespace RecordQuery.Json

open Text

structure ReadsBack {α : Type} (reader : Reader α) (write : α → Json) : Prop where
  plain : ∀ a, (write a).Plain
  read : ∀ a, reader (write a) = .ok a

namespace ReadsBack

variable {α : Type} {reader : Reader α} {write : α → Json}

theorem readFrom_render (h : ReadsBack reader write) (a : α) :
    readFrom reader (write a).render = .ok a := by
  simp [readFrom, parse_render (h.plain a), h.read a, pure, Except.pure]

theorem text : ReadsBack readText .text := ⟨fun _ => .text, fun _ => rfl⟩

theorem bool : ReadsBack readBool .bool := ⟨fun _ => .bool, fun _ => rfl⟩

theorem word : ReadsBack readWord fun n => .natural n.toNat where
  plain _ := .natural
  read n := by
    have value : (NumberLiteral.ofNat n.toNat).value? = some (.unsigned n) := by
      simp [NumberLiteral.value?, NumberLiteral.ofNat, n.toNat_lt_size]
    simp only [natural, readWord, value]

theorem list (h : ReadsBack reader write) :
    ReadsBack (readList reader) fun as => .array (as.map write) where
  plain as := .array (List.forall_mem_map.2 fun a _ => h.plain a)
  read as := by
    rw [readList, mapM_eq_ok, List.forall₂_map_left_iff, List.forall₂_same]
    exact fun a _ => h.read a

theorem readOption (h : ReadsBack reader write) (a : α) (some : write a ≠ .null) :
    readOption reader (write a) = .ok (.some a) := by
  have read := h.read a
  unfold Json.readOption
  split
  · contradiction
  · rw [read]
    rfl

end ReadsBack

namespace Layout

variable {κ σ : Type} {l : Layout κ σ}

def members (l : Layout κ σ) (fields : List (κ × Json)) : List (String × Json) :=
  fields.map fun (k, j) => (l.label k, j)

def storeAll (l : Layout κ σ) (s : σ) (fields : List (κ × Json)) : Except JsonFault σ :=
  fields.foldlM (fun s (k, j) => l.store k j s) s

variable {s t : σ}

theorem storeAll_cons {k : κ} {j : Json} {fields : List (κ × Json)} :
    l.storeAll s ((k, j) :: fields) = .ok t ↔
      ∃ u, l.store k j s = .ok u ∧ l.storeAll u fields = .ok t :=
  bind_eq_ok

def recognized (l : Layout κ σ) (members : List (String × Json)) : List (κ × Json) :=
  members.filterMap fun (name, j) => (l.key? name).map (·, j)

theorem recognized_cons_of_none {name : String} (unknown : l.key? name = none) (j : Json)
    (members : List (String × Json)) :
    l.recognized ((name, j) :: members) = l.recognized members := by
  simp [recognized, unknown]

theorem recognized_cons_of_some {name : String} {k : κ} (known : l.key? name = some k) (j : Json)
    (members : List (String × Json)) :
    l.recognized ((name, j) :: members) = (k, j) :: l.recognized members := by
  simp [recognized, known]

variable [DecidableEq κ] {fields : List (κ × Json)}

theorem readMembers_eq_ok {members : List (String × Json)} {seen seen' : List κ} :
    l.readMembers seen s (named members) = .ok (seen', t) ↔
      (∀ m ∈ members, l.key? m.1 = none → m.2.isWhole) ∧
      ((l.recognized members).map Prod.fst).Nodup ∧
      (∀ f ∈ l.recognized members, f.1 ∉ seen) ∧
      l.storeAll s (l.recognized members) = .ok t ∧
      ((l.recognized members).map Prod.fst).reverse ++ seen = seen' := by
  induction members generalizing seen s with
  | nil => simp [named, readMembers, recognized, storeAll, pure, Except.pure, and_comm]
  | cons m members ih =>
    obtain ⟨name, j⟩ := m
    cases key : l.key? name with
    | none =>
      have step : l.readMembers seen s (named ((name, j) :: members)) =
          if j.isWhole then l.readMembers seen s (named members) else .error .malformed := by
        simp [named, readMembers, key]
      rw [step, recognized_cons_of_none key, List.forall_mem_cons]
      by_cases whole : j.isWhole <;> simp [whole, key, ih]
    | some k =>
      have step : l.readMembers seen s (named ((name, j) :: members)) =
          if k ∈ seen then .error (.shape (.duplicateField (l.label k)))
          else l.store k j s >>= fun s => l.readMembers (k :: seen) s (named members) := by
        simp [named, readMembers, key]
      rw [step, recognized_cons_of_some key, List.forall_mem_cons, List.forall_mem_cons,
        storeAll_cons]
      by_cases old : k ∈ seen
      · simp [old]
      · rw [if_neg old, bind_eq_ok]
        simp only [ih, List.map_cons, List.nodup_cons]
        constructor
        · rintro ⟨u, stored, whole, nodup, fresh, rest, rfl⟩
          refine ⟨⟨by simp [key], whole⟩, ⟨?_, nodup⟩, ⟨old, ?_⟩, ⟨u, stored, rest⟩, by simp⟩
          · intro again
            obtain ⟨f, hf, same⟩ := List.mem_map.1 again
            exact fresh f hf (same ▸ List.mem_cons_self)
          · exact fun f hf h => fresh f hf (List.mem_cons_of_mem k h)
        · rintro ⟨⟨-, whole⟩, ⟨new, nodup⟩, ⟨-, fresh⟩, ⟨u, stored, rest⟩, rfl⟩
          refine ⟨u, stored, whole, nodup, fun f hf h => ?_, rest, by simp⟩
          rcases List.mem_cons.1 h with same | h
          · exact new (List.mem_map.2 ⟨f, hf, same⟩)
          · exact fresh f hf h

theorem finish_eq_ok {seen : List κ} :
    (match l.keys.find? fun k => l.required k && !seen.contains k with
      | some k => Except.error (JsonFault.shape (.missingField (l.label k)))
      | none => .ok s) = .ok t ↔ (∀ k ∈ l.keys, l.required k → k ∈ seen) ∧ s = t := by
  split
  · rename_i k missing
    have named := List.mem_of_find?_eq_some missing
    have absent := List.find?_some missing
    simp only [Bool.and_eq_true, Bool.not_eq_true', List.contains_eq_mem, decide_eq_false_iff_not]
      at absent
    simpa using fun all => absurd (all k named absent.1) absent.2
  · rename_i none
    have all : ∀ k ∈ l.keys, l.required k → k ∈ seen := by simpa using none
    simpa using fun _ => all

theorem read_ofMembers_eq_ok {members : List (String × Json)} :
    l.read (.ofMembers members) = .ok t ↔
      (∀ m ∈ members, l.key? m.1 = none → m.2.isWhole) ∧
      ((l.recognized members).map Prod.fst).Nodup ∧
      (∀ k ∈ l.keys, l.required k → k ∈ (l.recognized members).map Prod.fst) ∧
      l.storeAll l.initial (l.recognized members) = .ok t := by
  have step : l.read (.ofMembers members) =
      l.readMembers [] l.initial (named members) >>= fun r =>
        match l.keys.find? fun k => l.required k && !r.1.contains k with
        | some k => .error (.shape (.missingField (l.label k)))
        | none => .ok r.2 := rfl
  rw [step, bind_eq_ok]
  constructor
  · rintro ⟨⟨seen, s⟩, members, finish⟩
    obtain ⟨whole, nodup, -, stores, rfl⟩ := readMembers_eq_ok.1 members
    obtain ⟨complete, rfl⟩ := finish_eq_ok.1 finish
    exact ⟨whole, nodup, by simpa using complete, stores⟩
  · rintro ⟨whole, nodup, complete, stores⟩
    exact ⟨_, readMembers_eq_ok.2 ⟨whole, nodup, by simp, stores, rfl⟩,
      finish_eq_ok.2 ⟨by simpa using complete, rfl⟩⟩

theorem read_members (names : ∀ k, l.key? (l.label k) = some k)
    (once : (fields.map Prod.fst).Nodup)
    (complete : ∀ k, l.required k → k ∈ fields.map Prod.fst)
    (stores : l.storeAll l.initial fields = .ok s) :
    l.read (.ofMembers (l.members fields)) = .ok s := by
  have recognized : l.recognized (l.members fields) = fields := by
    simp [Layout.recognized, members, List.filterMap_map, names]
  have known : ∀ m ∈ l.members fields, l.key? m.1 ≠ none :=
    List.forall_mem_map.2 fun f _ => by simp [names]
  rw [read_ofMembers_eq_ok, recognized]
  exact ⟨fun m hm none => absurd none (known m hm), once, fun k _ => complete k, stores⟩

theorem readsBack (write : σ → List (κ × Json)) (names : ∀ k, l.key? (l.label k) = some k)
    (once : ∀ s, ((write s).map Prod.fst).Nodup)
    (complete : ∀ s k, l.required k → k ∈ (write s).map Prod.fst)
    (plain : ∀ s, ∀ f ∈ write s, f.2.Plain)
    (stores : ∀ s, l.storeAll l.initial (write s) = .ok s) :
    ReadsBack l.read fun s => .ofMembers (l.members (write s)) where
  plain s := .object (List.forall_mem_map.2 (plain s))
  read s := read_members names (once s) (complete s) (stores s)

end Layout

end RecordQuery.Json
