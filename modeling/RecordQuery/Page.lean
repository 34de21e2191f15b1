namespace RecordQuery

def defaultPageSize : UInt64 := 20

structure PageRequest where
  page : UInt64
  pageSize : UInt64
  deriving DecidableEq

namespace PageRequest

def make (page pageSize : UInt64) : PageRequest := ⟨max page 1, pageSize⟩

def default : PageRequest := make 1 defaultPageSize

def offset (p : PageRequest) : UInt64 :=
  .ofNatClamp ((p.page.toNat - 1) * p.pageSize.toNat)

end PageRequest

structure Page (α : Type) where
  items : List α
  total : Nat
  page : UInt64
  pageSize : UInt64

namespace Page

def totalPages {α : Type} (p : Page α) : Nat :=
  if p.pageSize = 0 then 0 else (p.total + p.pageSize.toNat - 1) / p.pageSize.toNat

def hasNext {α : Type} (p : Page α) : Bool := p.page.toNat < p.totalPages

def map {α β : Type} (f : α → β) (p : Page α) : Page β := { p with items := p.items.map f }

end Page

end RecordQuery
