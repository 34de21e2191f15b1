import RecordQuery.Filter
import RecordQuery.Order
import RecordQuery.Page

/-!
Queries over lists: filter, then sort, then cut a window. Items may carry more than their record;
`record` gives the record of an item.
-/

namespace RecordQuery

structure Query where
  filter : Filter
  order : Order
  limit : Option UInt64
  offset : Option UInt64

namespace Query

def all : Query := ⟨.always, .empty .folded, none, none⟩

def paged (q : Query) (p : PageRequest) : Query :=
  { q with offset := some p.offset, limit := some p.pageSize }

variable {α : Type}

def holds (q : Query) (record : α → Record) (item : α) : Bool := q.filter.holds (record item)

def matching (q : Query) (record : α → Record) (items : List α) : List α :=
  q.order.sortOn record (items.filter (q.holds record))

def window (offset limit : Option UInt64) (items : List α) : List α :=
  let rest := match offset with
    | some n => items.drop n.toNat
    | none => items
  match limit with
  | some n => rest.take n.toNat
  | none => rest

def run (q : Query) (record : α → Record) (items : List α) : List α :=
  window q.offset q.limit (q.matching record items)

def copies {β : Type} (q : Query) (record : α → Record) (copy : α → β) (items : List α) : List β :=
  (q.run record items).map copy

def narrow (q : Query) (record : α → Record) : StateM (List α) Unit := do
  modify fun items => items.filter (q.holds record)
  modify fun items => q.order.sortOn record items

def count (q : Query) (record : α → Record) (items : List α) : Nat :=
  items.countP (q.holds record)

def holdsAny (q : Query) (record : α → Record) (items : List α) : Bool :=
  items.any (q.holds record)

def holdsAll (q : Query) (record : α → Record) (items : List α) : Bool :=
  items.all (q.holds record)

/-- The first of the items that are least. -/
def least? (compare : α → α → Ordering) : List α → Option α
  | [] => none
  | x :: xs => some (xs.foldl (fun best y => if compare best y = .gt then y else best) x)

def find? (q : Query) (record : α → Record) (items : List α) : Option α :=
  if q.order.keys.isEmpty then items.find? (q.holds record)
  else least? (fun a b => q.order.compare (record a) (record b)) (items.filter (q.holds record))

/-- One page of the matching items. The window of the query does not count, and page zero is the
first page. -/
def fetch (q : Query) (record : α → Record) (items : List α) (p : PageRequest) : Page α :=
  let found := q.matching record items
  { items := (found.drop p.offset.toNat).take p.pageSize.toNat
    total := found.length
    page := max p.page 1
    pageSize := p.pageSize }

end Query

end RecordQuery
