import RecordQuery.Schema.Basic
import RecordQuery.Text.Case
import RecordQuery.Text.Search

namespace RecordQuery

abbrev Labels := EnumType → Int64 → Option String

def Labels.declared : Labels := fun e value => (e.variant? value).bind (·.label)

structure LabelTable where
  entries : List ((Nat × Int64) × String)

namespace LabelTable

def empty : LabelTable := ⟨[]⟩

def insert (t : LabelTable) (e : EnumType) (value : Int64) (label : String) : LabelTable :=
  ⟨((e.id, value), label) :: t.entries.filter (·.1 != (e.id, value))⟩

def size (t : LabelTable) : Nat := t.entries.length

def labels (t : LabelTable) : Labels := fun e value =>
  (t.entries.lookup (e.id, value)).or (Labels.declared e value)

end LabelTable

def Labels.display (labels : Labels) (e : EnumType) (v : Variant) : String :=
  (labels e v.value).getD v.name

def EnumType.search (e : EnumType) (labels : Labels) (needle : String) : List Int64 :=
  (e.variants.filter fun v =>
    Text.contains (Text.lower (labels.display e v)) (Text.lower needle)).map (·.value)

end RecordQuery
