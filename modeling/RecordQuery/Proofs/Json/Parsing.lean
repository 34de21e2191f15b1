import RecordQuery.Proofs.Json.Spelling

/-!
Each spelling of a value is read as the value, rendered text among them. The reader is a machine
with a stack of containers, so what is shown of the tokens of a value is shown for any stack below
it.
-/

namespace RecordQuery.Json

inductive WellFormed : Json → Prop
  | null : WellFormed .null
  | bool {b} : WellFormed (.bool b)
  | number {l} : WellFormed (.number l)
  | text {s} : WellFormed (.text s)
  | array {items} : (∀ j ∈ items, WellFormed j) → WellFormed (.array items)
  | object {members : List (String × Json)} : (∀ m ∈ members, WellFormed m.2) →
      WellFormed (.ofMembers members)

theorem Plain.wellFormed {j : Json} (h : j.Plain) : j.WellFormed := by
  induction h with
  | null => exact .null
  | bool => exact .bool
  | natural => exact .number
  | text => exact .text
  | array _ ih => exact .array ih
  | object _ ih => exact .object ih

/-- Where a value is awaited, the tokens of this one are read as it. -/
def Parses (j : Json) : Prop :=
  ∀ stack, (treeTokens j).foldl Awaiting.step (.value stack) = .after stack j

theorem foldl_itemTokens {items : List Json} (h : ∀ j ∈ items, Parses j) (nonempty : items ≠ [])
    (stack : List Frame) (done : List Json) :
    (itemTokens items ++ [Token.rightBracket]).foldl Awaiting.step (.value (.array done :: stack)) =
      .after stack (.array (done ++ items)) := by
  induction items generalizing done with
  | nil => contradiction
  | cons j js ih =>
    have first := h j List.mem_cons_self (.array done :: stack)
    cases js with
    | nil =>
      rw [itemTokens, List.foldl_append, first]
      rfl
    | cons j' js =>
      have ih := ih (fun i hi => h i (List.mem_cons_of_mem j hi)) (List.cons_ne_nil _ _)
        (done ++ [j])
      have next : (Awaiting.after (.array done :: stack) j).step .comma =
          .value (.array (done ++ [j]) :: stack) := rfl
      simpa [itemTokens, first, next] using ih

theorem foldl_memberTokens {members : List (String × Json)} (h : ∀ m ∈ members, Parses m.2)
    (nonempty : members ≠ []) (stack : List Frame) (done : List (Option String × Json)) :
    (memberTokens (named members) ++ [Token.rightBrace]).foldl Awaiting.step (.name stack done) =
      .after stack (.object (done ++ named members) true) := by
  induction members generalizing done with
  | nil => contradiction
  | cons m ms ih =>
    obtain ⟨name, j⟩ := m
    have first := h (name, j) List.mem_cons_self (.object done name :: stack)
    cases ms with
    | nil =>
      calc
        _ = (treeTokens j ++ [Token.rightBrace]).foldl Awaiting.step
            (.value (.object done name :: stack)) := rfl
        _ = .after stack (.object (done ++ named [(name, j)]) true) := by
          rw [List.foldl_append, first]
          rfl
    | cons m ms =>
      have ih := ih (fun i hi => h i (List.mem_cons_of_mem _ hi)) (List.cons_ne_nil _ _)
        (done ++ [(some name, j)])
      calc
        _ = (treeTokens j ++ Token.comma ::
            (memberTokens (named (m :: ms)) ++ [Token.rightBrace])).foldl
            Awaiting.step (.value (.object done name :: stack)) := by
          simp [named, memberTokens, Awaiting.step, Awaiting.readName]
        _ = (memberTokens (named (m :: ms)) ++ [Token.rightBrace]).foldl Awaiting.step
            (.name stack (done ++ [(some name, j)])) := by
          rw [List.foldl_append, first]
          rfl
        _ = .after stack (.object (done ++ named ((name, j) :: m :: ms)) true) := by
          rw [ih]
          simp [named]

theorem foldl_of_wellFormed {j : Json} (h : j.WellFormed) (stack : List Frame) :
    (treeTokens j).foldl Awaiting.step (.firstItem stack) =
      (treeTokens j).foldl Awaiting.step (.value (.array [] :: stack)) := by
  cases h <;> rfl

theorem foldl_firstItem {items : List Json} (h : ∀ j ∈ items, j.WellFormed) (nonempty : items ≠ [])
    (stack : List Frame) :
    (itemTokens items ++ [Token.rightBracket]).foldl Awaiting.step (.firstItem stack) =
      (itemTokens items ++ [Token.rightBracket]).foldl Awaiting.step
        (.value (.array [] :: stack)) := by
  match items with
  | [j] => simp [itemTokens, foldl_of_wellFormed (h j List.mem_cons_self)]
  | j :: j' :: js => simp [itemTokens, foldl_of_wellFormed (h j List.mem_cons_self)]

theorem parses_of_wellFormed {j : Json} (h : j.WellFormed) : Parses j := by
  induction h with
  | null | bool | number | text => exact fun _ => rfl
  | @array items wellFormed ih =>
    intro stack
    rw [treeTokens, List.cons_append, List.foldl_cons]
    by_cases empty : items = []
    · subst empty
      rfl
    · exact (foldl_firstItem wellFormed empty stack).trans (foldl_itemTokens ih empty stack [])
  | @object members _ ih =>
    intro stack
    cases members with
    | nil => rfl
    | cons m ms =>
      -- the reader asks for a name in either state, but for the end of the object only in the first
      have first : (memberTokens (named (m :: ms)) ++ [Token.rightBrace]).foldl Awaiting.step
          (.firstName stack) = (memberTokens (named (m :: ms)) ++ [Token.rightBrace]).foldl
            Awaiting.step (.name stack []) := by
        cases ms <;> rfl
      exact first.trans (foldl_memberTokens ih (List.cons_ne_nil _ _) stack [])

def IsSpelled (j : Json) (s : String) : Prop := j.WellFormed ∧ Spells (treeTokens j) s.toList

theorem parse_of_isSpelled {j : Json} {s : String} (h : j.IsSpelled s) : parse s = ⟨j, true⟩ := by
  rw [parse, tokens, tokensFrom_of_spells h.2, ofTokens, parses_of_wellFormed h.1]
  rfl

theorem isSpelled_render {j : Json} (h : j.Plain) : j.IsSpelled j.render :=
  ⟨h.wellFormed, spells_render h⟩

theorem parse_render {j : Json} (h : j.Plain) : parse j.render = ⟨j, true⟩ :=
  parse_of_isSpelled (isSpelled_render h)

end RecordQuery.Json
