import RecordQuery.Guid
import RecordQuery.Proofs.Text.Digits

namespace RecordQuery

open Text

variable {cs : List Char} {n : Nat}

def HexValue (cs : List Char) (n : Nat) : Prop :=
  ∃ ds, cs.mapM hexValue? = some ds ∧ ds.foldl (fun n d => 16 * n + d) 0 = n

theorem HexValue.isSome (h : HexValue cs n) : ∀ c ∈ cs, (hexValue? c).isSome = true := by
  obtain ⟨ds, read, -⟩ := h
  induction cs generalizing ds with
  | nil => simp
  | cons c cs ih =>
    simp only [List.mapM_cons, Option.bind_eq_bind, Option.bind_eq_some_iff] at read
    obtain ⟨d, first, ds, rest, -⟩ := read
    simp only [List.forall_mem_cons, first, Option.isSome_some, true_and]
    exact ih ds rest

theorem HexValue.concat (h : HexValue cs n) {c : Char} {d : Nat} (digit : hexValue? c = some d) :
    HexValue (cs ++ [c]) (16 * n + d) := by
  obtain ⟨ds, read, rfl⟩ := h
  exact ⟨ds ++ [d], by simp [List.mapM_append, read, digit], by simp⟩

theorem HexValue.replicate_append (h : HexValue cs n) (k : Nat) :
    HexValue (List.replicate k '0' ++ cs) n := by
  induction k with
  | zero => exact h
  | succ k ih =>
    obtain ⟨ds, read, value⟩ := ih
    have zero : hexValue? '0' = some 0 := by decide
    exact ⟨0 :: ds, by simp [List.replicate_succ, zero, read], value⟩

theorem hexValue_toDigits (n : Nat) : HexValue (Nat.toDigits 16 n) n := by
  induction n using Nat.strongRecOn with
  | ind n ih =>
    by_cases small : n < 16
    · rw [Nat.toDigits_of_lt_base small]
      exact ⟨[n], by simp [hexValue?_digitChar n small], by simp⟩
    · have last := hexValue?_digitChar (n % 16) (Nat.mod_lt _ (by decide))
      have value := (ih (n / 16) (by omega)).concat last
      rw [Nat.div_add_mod] at value
      rwa [Nat.toDigits_of_base_le (by decide) (Nat.le_of_not_lt small)]

namespace Guid

def hyphenated (ns : List Nat) (cs : List Char) : List Char :=
  List.intercalate ['-'] (splitGroups ns cs)

theorem hyphenated_cons_cons (n m : Nat) (ns : List Nat) (cs : List Char) :
    hyphenated (n :: m :: ns) cs = cs.take n ++ '-' :: hyphenated (m :: ns) (cs.drop n) := rfl

theorem joinGroups?_hyphenated {ns : List Nat} (filled : ns ≠ [])
    (len : cs.length = ns.foldr (· + ·) 0) :
    joinGroups? ns (hyphenated ns cs) = some cs := by
  induction ns generalizing cs with
  | nil => exact absurd rfl filled
  | cons n ns ih =>
    cases ns with
    | nil =>
      have len : cs.length = n := by simpa using len
      simp [hyphenated, splitGroups, joinGroups?, ← len]
    | cons m ns =>
      have rest := @ih (cs.drop n) (List.cons_ne_nil m ns) (by simp [len])
      have front : (cs.take n).length = n := by
        rw [List.length_take, len, List.foldr_cons]
        omega
      rw [hyphenated_cons_cons, joinGroups?, List.drop_left' front]
      · simp [rest, List.take_left' front]
      · simp

theorem length_hexChars (g : Guid) : g.hexChars.length = 32 := by
  have := (Nat.length_toDigits_le_iff (b := 16) (by decide) (by decide : 0 < 32)).2 g.value.isLt
  simp only [hexChars, List.length_append, List.length_replicate]
  omega

theorem hexValue_hexChars (g : Guid) : HexValue g.hexChars g.value.toNat :=
  (hexValue_toDigits _).replicate_append _

theorem ofHex?_hexChars (g : Guid) : ofHex? g.hexChars = some g := by
  obtain ⟨ds, read, value⟩ := g.hexValue_hexChars
  simp [ofHex?, g.length_hexChars, read, value]

theorem mem_hyphenated {ns : List Nat} {c : Char} (h : c ∈ hyphenated ns cs) :
    c = '-' ∨ c ∈ cs := by
  induction ns generalizing cs with
  | nil => cases h
  | cons n ns ih =>
    cases ns with
    | nil =>
      rw [hyphenated, splitGroups, splitGroups, List.intercalate_singleton] at h
      exact .inr (List.mem_of_mem_take h)
    | cons m ns =>
      rw [hyphenated_cons_cons, List.mem_append, List.mem_cons] at h
      rcases h with front | rfl | rest
      · exact .inr (List.mem_of_mem_take front)
      · exact .inl rfl
      · exact (ih rest).imp_right List.mem_of_mem_drop

theorem toList_render (g : Guid) : g.render.toList = hyphenated groups g.hexChars :=
  String.toList_ofList

theorem isBlank_of_mem_render {g : Guid} {c : Char} (h : c ∈ g.render.toList) :
    isBlank c = false := by
  rw [toList_render] at h
  rcases mem_hyphenated h with rfl | digit
  · decide
  · exact isBlank_of_isSome_hexValue? (g.hexValue_hexChars.isSome c digit)

theorem unwrap_hyphenated (g : Guid) :
    unwrap (hyphenated groups g.hexChars) = hyphenated groups g.hexChars := by
  have front : (g.hexChars.take 8).length = 8 := by simp [g.length_hexChars]
  have split : hyphenated groups g.hexChars =
      g.hexChars.take 8 ++ '-' :: hyphenated [4, 4, 4, 12] (g.hexChars.drop 8) := rfl
  have nine : (hyphenated groups g.hexChars).take 9 = g.hexChars.take 8 ++ ['-'] := by
    rw [split, List.take_append, front, List.take_of_length_le (by omega)]
    rfl
  have scheme : ((hyphenated groups g.hexChars).take 9).map lowerAscii ≠ "urn:uuid:".toList := by
    intro eq
    rw [nine, List.map_append] at eq
    have last := congrArg List.getLast? eq
    rw [List.map_singleton, List.getLast?_concat] at last
    exact absurd last (by decide)
  unfold unwrap
  split
  · rename_i r brace
    obtain ⟨c, cs, first⟩ := List.exists_cons_of_length_eq_add_one front
    rw [split, first] at brace
    cases brace
    have digit := g.hexValue_hexChars.isSome '\x7b'
      (List.mem_of_mem_take (first ▸ List.mem_cons_self))
    exact absurd digit (by decide)
  · rw [if_neg scheme]

theorem read?_render (g : Guid) : read? g.render = some g := by
  have long : (hyphenated groups g.hexChars).length = 36 := by
    simp [hyphenated, groups, splitGroups, List.intercalate, g.length_hexChars]
  have bare : ofHex? (hyphenated groups g.hexChars) = none := by
    rw [ofHex?, long]
    rfl
  rw [read?, toList_render, bare, Option.none_or, unwrap_hyphenated, readHyphenated?,
    joinGroups?_hyphenated (by decide) g.length_hexChars, Option.bind_some, ofHex?_hexChars]

end Guid

end RecordQuery
