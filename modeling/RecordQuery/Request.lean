import RecordQuery.Condition
import RecordQuery.Order
import RecordQuery.Page

namespace RecordQuery

structure SearchRequest where
  filters : List Condition
  sort : List SortSpec
  page : Option UInt64
  pageSize : Option UInt64
  deriving DecidableEq

namespace SearchRequest

def empty : SearchRequest := ⟨[], [], none, none⟩

def pageRequest? (r : SearchRequest) : Option PageRequest :=
  if r.page.isNone && r.pageSize.isNone then none
  else some (.make (r.page.getD 1) (r.pageSize.getD defaultPageSize))

end SearchRequest

end RecordQuery
