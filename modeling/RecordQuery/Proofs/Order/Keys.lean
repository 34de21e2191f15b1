import RecordQuery.Order
import RecordQuery.Proofs.Except

namespace RecordQuery.Order

variable {type : RecordType} {c : Collation} {path : String} {descending : Bool} {k : SortKey}
  {specs : List SortSpec} {o : Order}

theorem key_eq_ok :
    key type path descending = .ok k ↔ ∃ p, ∃ sortable : p.type.isSortable,
      type.property path = .ok p ∧
        k = ⟨p.path, .ofDescending descending, p.nullable, p.type, sortable⟩ := by
  simp only [key, bind_eq_ok]
  constructor
  · rintro ⟨p, found, h⟩
    split at h
    · rename_i sortable
      cases h
      exact ⟨p, sortable, found, rfl⟩
    · cases h
  · rintro ⟨p, sortable, found, rfl⟩
    exact ⟨p, found, dif_pos sortable⟩

theorem key_eq_unknown {path' record : String} :
    key type path descending = .error (.unknown path' record) ↔
      type.property path = .error (.unknown path' record) := by
  rw [key, bind_eq_error, or_iff_left]
  rintro ⟨p, -, h⟩
  split at h <;> cases h

theorem key_eq_error {e : PropertyError} :
    key type path descending = .error e ↔ type.property path = .error e ∨
      ∃ p, type.property path = .ok p ∧ p.type.isSortable = false ∧
        e = .notSortable path p.type.name := by
  rw [key, bind_eq_error]
  refine or_congr_right (exists_congr fun p => and_congr_right fun _ => ?_)
  split
  · rename_i sortable
    simp [pure, Except.pure, sortable]
  · rename_i unsortable
    simp [throw, throwThe, MonadExceptOf.throw, unsortable, eq_comm]

theorem compile_eq_ok :
    compile type c specs = .ok o ↔
      List.Forall₂ (fun (s : SortSpec) k => key type s.property s.descending = .ok k) specs o.keys ∧
        o.collation = c := by
  simp only [compile, bind_eq_ok, mapM_eq_ok]
  constructor
  · rintro ⟨keys, made, h⟩
    cases h
    exact ⟨made, rfl⟩
  · rintro ⟨made, rfl⟩
    exact ⟨o.keys, made, rfl⟩

end RecordQuery.Order
