import RecordQuery.Json.Decode
import RecordQuery.Request

namespace RecordQuery

open Json (Reader Layout)

namespace Condition

inductive Key
  | property
  | operation
  | value
  | value2
  | logic
  deriving DecidableEq

def layout : Layout Key Condition where
  name := "FilterCondition"
  keys := [.property, .operation, .value, .value2, .logic]
  label
    | .property => "propertyName"
    | .operation => "operation"
    | .value => "value"
    | .value2 => "value2"
    | .logic => "logic"
  aliases
    | .property => ["property_name", "property"]
    | .operation => ["operator", "op"]
    | _ => []
  required
    | .property | .operation => true
    | _ => false
  initial := ⟨"", "", none, none, none⟩
  store
    | .property, j, c => return { c with property := ← j.readText }
    | .operation, j, c => return { c with operation := ← j.readText }
    | .value, j, c => return { c with value := ← j.readOption Json.readText }
    | .value2, j, c => return { c with value2 := ← j.readOption Json.readText }
    | .logic, j, c => return { c with logic := ← j.readOption Json.readText }

def ofJson : Reader Condition := layout.read

def optionalText : Option String → Json
  | some s => .text s
  | none => .null

def toJson (c : Condition) : Json := .ofMembers [
  ("propertyName", .text c.property), ("operation", .text c.operation),
  ("value", optionalText c.value), ("value2", optionalText c.value2),
  ("logic", optionalText c.logic)]

end Condition

namespace SortSpec

inductive Key
  | property
  | descending
  deriving DecidableEq

def layout : Layout Key SortSpec where
  name := "OrderSpec"
  keys := [.property, .descending]
  label
    | .property => "propertyName"
    | .descending => "descending"
  aliases
    | .property => ["property_name", "property"]
    | .descending => []
  required
    | .property => true
    | .descending => false
  initial := ⟨"", false⟩
  store
    | .property, j, s => return { s with property := ← j.readText }
    | .descending, j, s => return { s with descending := ← j.readBool }

def ofJson : Reader SortSpec := layout.read

def toJson (s : SortSpec) : Json := .ofMembers [
  ("propertyName", .text s.property), ("descending", .bool s.descending)]

end SortSpec

namespace PageRequest

inductive Key
  | page
  | pageSize
  deriving DecidableEq

def layout : Layout Key PageRequest where
  name := "PageRequest"
  keys := [.page, .pageSize]
  label
    | .page => "page"
    | .pageSize => "pageSize"
  aliases
    | .page => []
    | .pageSize => ["page_size"]
  required _ := true
  initial := ⟨0, 0⟩
  store
    | .page, j, p => return { p with page := ← j.readWord }
    | .pageSize, j, p => return { p with pageSize := ← j.readWord }

def ofJson : Reader PageRequest := layout.read

def toJson (p : PageRequest) : Json := .ofMembers [
  ("page", .natural p.page.toNat), ("pageSize", .natural p.pageSize.toNat)]

end PageRequest

namespace SearchRequest

inductive Key
  | filters
  | sort
  | page
  | pageSize
  deriving DecidableEq

def layout : Layout Key SearchRequest where
  name := "SearchRequest"
  keys := [.filters, .sort, .page, .pageSize]
  label
    | .filters => "filters"
    | .sort => "sort"
    | .page => "page"
    | .pageSize => "pageSize"
  aliases
    | .filters => ["filter", "conditions"]
    | .sort => ["orderBy", "order_by"]
    | .page => []
    | .pageSize => ["page_size"]
  required _ := false
  initial := .empty
  store
    | .filters, j, r => return { r with filters := ← j.readList Condition.ofJson }
    | .sort, j, r => return { r with sort := ← j.readList SortSpec.ofJson }
    | .page, j, r => return { r with page := ← j.readOption Json.readWord }
    | .pageSize, j, r => return { r with pageSize := ← j.readOption Json.readWord }

def ofJson : Reader SearchRequest := layout.read

def toJson (r : SearchRequest) : Json := .ofMembers (
  [("filters", .array (r.filters.map (·.toJson))), ("sort", .array (r.sort.map (·.toJson)))] ++
  (r.page.map fun n => ("page", Json.natural n.toNat)).toList ++
  (r.pageSize.map fun n => ("pageSize", Json.natural n.toNat)).toList)

def read (s : String) : Except JsonFault SearchRequest := Json.readFrom ofJson s

def render (r : SearchRequest) : String := r.toJson.render

end SearchRequest

def Direction.name : Direction → String
  | .ascending => "asc"
  | .descending => "desc"

def Direction.ofJson : Reader Direction :=
  Json.readVariant [("asc", .ascending), ("desc", .descending)]

def Direction.toJson (d : Direction) : Json := .text d.name

def TextMatch.name : TextMatch → String
  | .caseInsensitive => "case_insensitive"
  | .caseSensitive => "case_sensitive"

def TextMatch.ofJson : Reader TextMatch :=
  Json.readVariant [("case_insensitive", .caseInsensitive), ("case_sensitive", .caseSensitive)]

def TextMatch.toJson (m : TextMatch) : Json := .text m.name

def Page.toJson {α : Type} (item : α → Json) (p : Page α) : Json := .ofMembers [
  ("items", .array (p.items.map item)), ("total", .natural p.total),
  ("page", .natural p.page.toNat), ("pageSize", .natural p.pageSize.toNat)]

end RecordQuery
