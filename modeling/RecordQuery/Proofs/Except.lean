import Mathlib.Data.List.Forall2

namespace RecordQuery

variable {ε ε' α β : Type}

@[simp] theorem ok_bind (a : α) (f : α → Except ε β) : (Except.ok a >>= f) = f a := rfl

theorem bind_eq_ok {x : Except ε α} {f : α → Except ε β} {b : β} :
    (x >>= f) = .ok b ↔ ∃ a, x = .ok a ∧ f a = .ok b := by
  cases x <;> simp [bind, Except.bind]

theorem bind_eq_error {x : Except ε α} {f : α → Except ε β} {e : ε} :
    (x >>= f) = .error e ↔ x = .error e ∨ ∃ a, x = .ok a ∧ f a = .error e := by
  cases x <;> simp [bind, Except.bind]

theorem exists_bind_pure_eq_ok {x : Except ε α} {f : α → β} :
    (∃ b, (x >>= fun a => pure (f a)) = .ok b) ↔ ∃ a, x = .ok a := by
  cases x <;> simp [bind, Except.bind, pure, Except.pure]

theorem map_eq_ok {x : Except ε α} {f : α → β} {b : β} :
    x.map f = .ok b ↔ ∃ a, x = .ok a ∧ f a = b := by
  cases x <;> simp [Except.map]

theorem map_eq_error {x : Except ε α} {f : α → β} {e : ε} :
    x.map f = .error e ↔ x = .error e := by
  cases x <;> simp [Except.map]

theorem mapError_eq_ok {x : Except ε α} {f : ε → ε'} {a : α} :
    x.mapError f = .ok a ↔ x = .ok a := by
  cases x <;> simp [Except.mapError]

theorem mapError_eq_error {x : Except ε α} {f : ε → ε'} {e : ε'} :
    x.mapError f = .error e ↔ ∃ e', x = .error e' ∧ f e' = e := by
  cases x <;> simp [Except.mapError]

theorem mapM_eq_ok {f : α → Except ε β} {as : List α} {bs : List β} :
    as.mapM f = .ok bs ↔ List.Forall₂ (fun a b => f a = .ok b) as bs := by
  induction as generalizing bs with
  | nil => simp [pure, Except.pure, eq_comm]
  | cons a as ih =>
    rw [List.mapM_cons, bind_eq_ok, List.forall₂_cons_left_iff]
    simp only [bind_eq_ok, ih, pure, Except.pure, Except.ok.injEq]
    constructor
    · rintro ⟨b, hb, bs, hbs, rfl⟩
      exact ⟨b, bs, hb, hbs, rfl⟩
    · rintro ⟨b, bs, hb, hbs, rfl⟩
      exact ⟨b, hb, bs, hbs, rfl⟩

theorem exists_mapM_eq_ok {f : α → Except ε β} {as : List α} :
    (∃ bs, as.mapM f = .ok bs) ↔ ∀ a ∈ as, ∃ b, f a = .ok b := by
  simp only [mapM_eq_ok]
  induction as with
  | nil => simp
  | cons a as ih =>
    simp only [List.forall₂_cons_left_iff, List.forall_mem_cons, ← ih]
    constructor
    · rintro ⟨_, b, bs, hb, hbs, rfl⟩
      exact ⟨⟨b, hb⟩, bs, hbs⟩
    · rintro ⟨⟨b, hb⟩, bs, hbs⟩
      exact ⟨_, b, bs, hb, hbs, rfl⟩

theorem mapM_eq_error {f : α → Except ε β} {as : List α} {e : ε} :
    as.mapM f = .error e ↔ ∃ before a after, as = before ++ a :: after ∧
      (∀ a' ∈ before, ∃ b, f a' = .ok b) ∧ f a = .error e := by
  induction as with
  | nil => simp [pure, Except.pure]
  | cons a as ih =>
    rw [List.mapM_cons, bind_eq_error]
    constructor
    · rintro (first | ⟨b, made, h⟩)
      · exact ⟨[], a, as, rfl, by simp, first⟩
      · obtain rest | ⟨_, _, h⟩ := bind_eq_error.1 h
        · obtain ⟨before, a', after, rfl, passes, fails⟩ := ih.1 rest
          exact ⟨a :: before, a', after, rfl, List.forall_mem_cons.2 ⟨⟨b, made⟩, passes⟩, fails⟩
        · cases h
    · rintro ⟨before, a', after, split, passes, fails⟩
      cases before with
      | nil =>
        cases split
        exact .inl fails
      | cons _ before =>
        cases split
        obtain ⟨⟨b, made⟩, passes⟩ := List.forall_mem_cons.1 passes
        have rest := ih.2 ⟨before, a', after, rfl, passes, fails⟩
        exact .inr ⟨b, made, bind_eq_error.2 (.inl rest)⟩

theorem exists_of_mapM_eq_error {f : α → Except ε β} {as : List α} {e : ε}
    (h : as.mapM f = .error e) : ∃ a ∈ as, f a = .error e := by
  obtain ⟨before, a, after, rfl, -, fails⟩ := mapM_eq_error.1 h
  exact ⟨a, by simp, fails⟩

theorem exists_mem_of_mapM_eq_ok {f : α → Except ε β} {as : List α} {bs : List β} {a : α}
    (h : as.mapM f = .ok bs) (mem : a ∈ as) : ∃ b ∈ bs, f a = .ok b := by
  have made := mapM_eq_ok.1 h
  clear h
  induction made with
  | nil => cases mem
  | @cons _ b _ _ first _ ih =>
    obtain rfl | mem := List.mem_cons.1 mem
    · exact ⟨b, List.mem_cons_self, first⟩
    · obtain ⟨b', mem', made⟩ := ih mem
      exact ⟨b', List.mem_cons_of_mem b mem', made⟩

theorem mapM_append_eq_ok {f : α → Except ε β} {as as' : List α} {bs : List β} :
    (as ++ as').mapM f = .ok bs ↔
      ∃ front back, as.mapM f = .ok front ∧ as'.mapM f = .ok back ∧ front ++ back = bs := by
  simp only [List.mapM_append, bind_eq_ok, pure, Except.pure, Except.ok.injEq]
  constructor
  · rintro ⟨front, made, back, made', joined⟩
    exact ⟨front, back, made, made', joined⟩
  · rintro ⟨front, back, made, made', joined⟩
    exact ⟨front, made, back, made', joined⟩

theorem mapM_eq_ok_congr {f : α → Except ε β} {as as' : List α}
    (h : List.Forall₂ (fun a a' => ∀ b, f a = .ok b ↔ f a' = .ok b) as as') {bs : List β} :
    as.mapM f = .ok bs ↔ as'.mapM f = .ok bs := by
  induction h generalizing bs with
  | nil => rfl
  | cons first _ ih => simp only [List.mapM_cons, bind_eq_ok, first, ih]

end RecordQuery
