import RecordQuery.Collation
import RecordQuery.Schema.Path
import RecordQuery.Value

/-!
Orders of records: keys compared one after the other. Null and what is not a number come last in
either direction.
-/

namespace RecordQuery

inductive Direction
  | ascending
  | descending
  deriving DecidableEq

def Direction.ofDescending (descending : Bool) : Direction :=
  if descending then .descending else .ascending

def Direction.apply : Direction → Ordering → Ordering
  | .ascending, o => o
  | .descending, o => o.swap

structure SortSpec where
  property : String
  descending : Bool
  deriving DecidableEq

def SortSpec.direction (s : SortSpec) : Direction := .ofDescending s.descending

structure SortKey where
  path : List String
  direction : Direction
  /-- Whether the property can be null. -/
  nullsLast : Bool
  type : FieldType
  sortable : type.isSortable
  deriving DecidableEq

def Value.sortsLast (v : Value) : Bool := v.isNull || v.isNaN

/-- Compares two values under a key; values that cannot be compared are equal. -/
def SortKey.compareValues (k : SortKey) (c : Collation) (a b : Value) : Ordering :=
  match a.sortsLast, b.sortsLast with
  | true, true => .eq
  | true, false => .gt
  | false, true => .lt
  | false, false => ((a.compareBy c.compare b).map k.direction.apply).getD .eq

def SortKey.compare (k : SortKey) (c : Collation) (a b : Record) : Ordering :=
  k.compareValues c (a.read k.path) (b.read k.path)

structure Order where
  keys : List SortKey
  collation : Collation

namespace Order

def empty (c : Collation) : Order := ⟨[], c⟩

def compareKeys (c : Collation) : List SortKey → Record → Record → Ordering
  | [], _, _ => .eq
  | k :: ks, a, b => (k.compare c a b).then (compareKeys c ks a b)

def compare (o : Order) (a b : Record) : Ordering := compareKeys o.collation o.keys a b

def key (type : RecordType) (path : String) (descending : Bool) : Except PropertyError SortKey := do
  let p ← type.property path
  if h : p.type.isSortable then
    return ⟨p.path, .ofDescending descending, p.nullable, p.type, h⟩
  else throw (.notSortable path p.type.name)

def thenBy (o : Order) (type : RecordType) (path : String) (descending : Bool) :
    Except PropertyError Order := do
  let k ← key type path descending
  return { o with keys := o.keys ++ [k] }

def compile (type : RecordType) (c : Collation) (specs : List SortSpec) :
    Except PropertyError Order := do
  let keys ← specs.mapM fun s => key type s.property s.descending
  return ⟨keys, c⟩

/-- Puts an item into a list that is sorted from its greatest down, in front of those that are not
greater. -/
def insertDown {α : Type} (compare : α → α → Ordering) (x : α) : List α → List α
  | [] => [x]
  | y :: ys => if compare x y = .lt then y :: insertDown compare x ys else x :: y :: ys

def sortBy {α : Type} (compare : α → α → Ordering) (items : List α) : List α :=
  (items.foldl (fun sorted x => insertDown compare x sorted) []).reverse

def sortOn {α : Type} (o : Order) (record : α → Record) (items : List α) : List α :=
  if o.keys.isEmpty then items
  else sortBy (fun a b => o.compare (record a) (record b)) items

def sort (o : Order) (items : List Record) : List Record := o.sortOn id items

end Order

end RecordQuery
