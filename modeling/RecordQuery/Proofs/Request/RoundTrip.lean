import RecordQuery.Proofs.Json.Decoding
import RecordQuery.RequestJson

namespace RecordQuery

open Json (Layout ReadsBack)

namespace Condition

theorem readsBack_optionalText : ReadsBack (Json.readOption Json.readText) optionalText where
  plain
    | none => .null
    | some _ => .text
  read
    | none => rfl
    | some _ => rfl

def fields (c : Condition) : List (Key × Json) :=
  [(.property, .text c.property), (.operation, .text c.operation), (.value, optionalText c.value),
    (.value2, optionalText c.value2), (.logic, optionalText c.logic)]

theorem storeAll_fields (c : Condition) : layout.storeAll layout.initial c.fields = .ok c := by
  have text := ReadsBack.text.read
  have optional := readsBack_optionalText.read
  simp [Layout.storeAll, fields, layout, text, optional]

theorem readsBack : ReadsBack ofJson toJson := by
  apply Layout.readsBack fields
  case names => exact fun k => by cases k <;> rfl
  case once => exact fun _ => by simp [fields]
  case complete => exact fun _ k _ => by cases k <;> simp [fields]
  case plain =>
    intro c
    have optional := readsBack_optionalText.plain
    simp [fields, Json.Plain.text, optional]
  case stores => exact storeAll_fields

end Condition

namespace SortSpec

def fields (s : SortSpec) : List (Key × Json) :=
  [(.property, .text s.property), (.descending, .bool s.descending)]

theorem storeAll_fields (s : SortSpec) : layout.storeAll layout.initial s.fields = .ok s := by
  have text := ReadsBack.text.read
  have bool := ReadsBack.bool.read
  simp [Layout.storeAll, fields, layout, text, bool]

theorem readsBack : ReadsBack ofJson toJson := by
  apply Layout.readsBack fields
  case names => exact fun k => by cases k <;> rfl
  case once => exact fun _ => by simp [fields]
  case complete => exact fun _ k _ => by cases k <;> simp [fields]
  case plain => simp [fields, Json.Plain.text, Json.Plain.bool]
  case stores => exact storeAll_fields

end SortSpec

namespace PageRequest

def fields (p : PageRequest) : List (Key × Json) :=
  [(.page, .natural p.page.toNat), (.pageSize, .natural p.pageSize.toNat)]

theorem storeAll_fields (p : PageRequest) : layout.storeAll layout.initial p.fields = .ok p := by
  have word := ReadsBack.word.read
  simp [Layout.storeAll, fields, layout, word]

theorem readsBack : ReadsBack ofJson toJson := by
  apply Layout.readsBack fields
  case names => exact fun k => by cases k <;> rfl
  case once => exact fun _ => by simp [fields]
  case complete => exact fun _ k _ => by cases k <;> simp [fields]
  case plain => simp [fields, Json.Plain.natural]
  case stores => exact storeAll_fields

end PageRequest

namespace SearchRequest

def fields (r : SearchRequest) : List (Key × Json) :=
  [(.filters, .array (r.filters.map (·.toJson))), (.sort, .array (r.sort.map (·.toJson)))] ++
    (r.page.map fun n => (Key.page, Json.natural n.toNat)).toList ++
    (r.pageSize.map fun n => (Key.pageSize, Json.natural n.toNat)).toList

theorem toJson_eq_members (r : SearchRequest) :
    r.toJson = .ofMembers (layout.members r.fields) := by
  obtain ⟨filters, sort, page, pageSize⟩ := r
  cases page <;> cases pageSize <;> rfl

theorem storeAll_fields (r : SearchRequest) : layout.storeAll layout.initial r.fields = .ok r := by
  have filters := Condition.readsBack.list.read r.filters
  have sort := SortSpec.readsBack.list.read r.sort
  have word n := ReadsBack.word.readOption n Json.noConfusion
  obtain ⟨_, _, page, pageSize⟩ := r
  cases page <;> cases pageSize <;>
    simp [Layout.storeAll, fields, layout, empty, filters, sort, word]

theorem readsBack : ReadsBack ofJson toJson := by
  rw [show toJson = fun r => .ofMembers (layout.members r.fields) from funext toJson_eq_members]
  apply Layout.readsBack fields
  case names => exact fun k => by cases k <;> rfl
  case once =>
    intro r
    cases page : r.page <;> cases size : r.pageSize <;> simp [fields, page, size]
  case complete => exact fun _ _ required => Bool.noConfusion required
  case plain =>
    intro r
    have filters := Condition.readsBack.list.plain r.filters
    have sort := SortSpec.readsBack.list.plain r.sort
    cases page : r.page <;> cases size : r.pageSize <;>
      simp [fields, page, size, filters, sort, Json.Plain.natural]
  case stores => exact storeAll_fields

end SearchRequest

theorem requests_read_back :
    (∀ r : SearchRequest, SearchRequest.read r.render = .ok r) ∧
    (∀ c : Condition, Json.readFrom Condition.ofJson c.toJson.render = .ok c) ∧
    (∀ s : SortSpec, Json.readFrom SortSpec.ofJson s.toJson.render = .ok s) ∧
    (∀ p : PageRequest, Json.readFrom PageRequest.ofJson p.toJson.render = .ok p) :=
  ⟨SearchRequest.readsBack.readFrom_render, Condition.readsBack.readFrom_render,
    SortSpec.readsBack.readFrom_render, PageRequest.readsBack.readFrom_render⟩

end RecordQuery
