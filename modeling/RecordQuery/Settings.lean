import RecordQuery.Query
import RecordQuery.Request

namespace RecordQuery

structure Settings where
  labels : Labels
  collation : Collation
  textMatch : TextMatch

namespace Settings

def default : Settings := ⟨.declared, .folded, .caseInsensitive⟩

def conditions (s : Settings) : ConditionSettings := ⟨s.labels, s.textMatch⟩

def compileFilter (s : Settings) (type : RecordType) (conditions : List Condition) : Filter :=
  Filter.compile type s.conditions conditions

def compileOrder (s : Settings) (type : RecordType) (specs : List SortSpec) :
    Except PropertyError Order :=
  Order.compile type s.collation specs

def compileRequest (s : Settings) (type : RecordType) (request : SearchRequest) :
    Except PropertyError Query := do
  let order ← s.compileOrder type request.sort
  let query : Query := ⟨s.compileFilter type request.filters, order, none, none⟩
  return match request.pageRequest? with
    | some p => query.paged p
    | none => query

end Settings

end RecordQuery
