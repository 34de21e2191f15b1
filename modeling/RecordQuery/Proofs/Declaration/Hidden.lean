import RecordQuery.Proofs.Declaration.Naming

namespace RecordQuery.Declaration

namespace FieldItem

variable {f : FieldItem}

inductive SaysSkip (f : FieldItem) : Prop
  | mk {front a back args x} : f.attributes = front ++ a :: back →
      (∀ b ∈ front, b.path.isWord "filter" = false) → a.path.isWord "filter" = true →
      a.arguments = some args → x ∈ args → x.isSkip = true → SaysSkip f

def Hidden (f : FieldItem) : Prop :=
  f.SaysSkip ∨ ∀ x ∈ Attribute.given f.attributes, x.kind? = none

theorem saysSkip_iff : f.SaysSkip ↔ ∃ x ∈ Attribute.given f.attributes, x.isSkip = true := by
  constructor
  · rintro @⟨front, a, back, args, x, split, others, filter, written, mem, skip⟩
    have first : f.attributes.find? (·.path.isWord "filter") = some a :=
      List.find?_eq_some_iff_append.2 ⟨filter, front, back, split, by simpa using others⟩
    exact ⟨x, by simpa [Attribute.given, first, written] using mem, skip⟩
  · rintro ⟨x, mem, skip⟩
    cases first : f.attributes.find? (·.path.isWord "filter") with
    | none => simp [Attribute.given, first] at mem
    | some a =>
      obtain ⟨filter, front, back, split, others⟩ := List.find?_eq_some_iff_append.1 first
      cases written : a.arguments with
      | none => simp [Attribute.given, first, written] at mem
      | some args =>
        have mem : x ∈ args := by simpa [Attribute.given, first, written] using mem
        exact .mk split (by simpa using others) filter written mem skip

theorem kind?_eq_none : f.kind? = none ↔ f.Hidden := by
  have unkinded : f.marks.kind = none ↔ ∀ x ∈ Attribute.given f.attributes, x.kind? = none := by
    simp [marks, FieldMarks.ofArguments]
  rw [Hidden, saysSkip_iff, ← List.any_eq_true, ← unkinded, kind?]
  change ite (f.marks.skipped = true) _ _ = _ ↔ f.marks.skipped = true ∨ _
  split <;> simp_all

end FieldItem

namespace DerivedRecord

variable {i : Item} {r : DerivedRecord} {fields before after : List FieldItem} {f : FieldItem}

theorem exists_of_ofItem (h : ofItem i = .ok r) (named : i.body = .named fields) :
    i.isGeneric = false ∧ (∀ f ∈ fields, f.Passes) ∧
      ofContributions i.name (fields.filterMap fun f => f.kind?.map f.outputs) = r := by
  obtain ⟨plain, _, named', rest⟩ := ofItem_eq_ok.1 h
  cases named.symm.trans named'
  exact ⟨plain, rest⟩

theorem ofItem_without_iff (h : ofItem i = .ok r) (named : i.body = .named (before ++ f :: after)) :
    ofItem { i with body := .named (before ++ after) } = .ok r ↔ f.Hidden := by
  obtain ⟨plain, passes, made⟩ := exists_of_ofItem h named
  have others : ∀ g ∈ before ++ after, g.Passes := fun g mem =>
    passes g (by simp only [List.mem_append, List.mem_cons] at mem ⊢; tauto)
  rw [← FieldItem.kind?_eq_none]
  constructor
  · intro without
    obtain ⟨-, -, made'⟩ := exists_of_ofItem without rfl
    have same := congrArg (List.length ∘ constants) (made.trans made'.symm)
    by_contra visible
    obtain ⟨kind, given⟩ := Option.ne_none_iff_exists'.1 visible
    simp [ofContributions, given] at same
  · intro hidden
    refine ofItem_eq_ok.2 ⟨plain, _, rfl, others, ?_⟩
    rw [← made]
    simp [hidden]

theorem exists_source (h : ofItem i = .ok r) (named : i.body = .named fields) {a : Accessor}
    (mem : a ∈ r.accessors) : ∃ g ∈ fields, ¬g.Hidden ∧ a.field = g.name := by
  obtain ⟨-, -, rfl⟩ := exists_of_ofItem h named
  obtain ⟨o, added, rfl⟩ := List.mem_map.1 mem
  obtain ⟨g, declared, adds⟩ := List.mem_filterMap.1 added
  obtain ⟨kind, given, rfl⟩ := Option.map_eq_some_iff.1 adds
  refine ⟨g, declared, ?_, rfl⟩
  rw [← FieldItem.kind?_eq_none, given]
  exact Option.some_ne_none kind

theorem exists_gives (h : ofItem i = .ok r) (named : i.body = .named fields) (mem : f ∈ fields)
    (visible : ¬f.Hidden) :
    ∃ c ∈ r.constants, ∃ d ∈ r.fields, ∃ a ∈ r.accessors, f.Gives c d a := by
  obtain ⟨-, -, rfl⟩ := exists_of_ofItem h named
  obtain ⟨kind, given⟩ := Option.ne_none_iff_exists'.1 (mt FieldItem.kind?_eq_none.1 visible)
  have added : f.outputs kind ∈ fields.filterMap fun f => f.kind?.map f.outputs :=
    List.mem_filterMap.2 ⟨f, mem, by rw [given, Option.map_some]⟩
  exact ⟨_, List.mem_map_of_mem added, _, List.mem_map_of_mem added, _, List.mem_map_of_mem added,
    FieldItem.gives_outputs given⟩

theorem read_eq_of_agree {held held' : String → Reading → Value}
    (agree : ∀ a ∈ r.accessors, held a.field a.reading = held' a.field a.reading)
    (property : String) : r.read held property = r.read held' property := by
  unfold read
  split
  · rename_i a found
    exact agree a (List.mem_of_find?_eq_some found)
  · rfl

/-- Of the `filter` attributes of a field the first one settles whether the field is hidden. Where
it is, the derived record is the same as without it, and no property reads it; otherwise it has its
constant, its place in the schema and its accessor. -/
theorem leaves_out_iff_hidden (h : ofItem i = .ok r)
    (named : i.body = .named (before ++ f :: after))
    (apart : ∀ g ∈ before ++ after, g.name ≠ f.name) :
    (ofItem { i with body := .named (before ++ after) } = .ok r ↔ f.Hidden) ∧
      (f.Hidden → (∀ a ∈ r.accessors, a.field ≠ f.name) ∧
        ∀ held held' : String → Reading → Value,
          (∀ name reading, name ≠ f.name → held name reading = held' name reading) →
          ∀ property, r.read held property = r.read held' property) ∧
      (¬f.Hidden →
        ∃ c ∈ r.constants, ∃ d ∈ r.fields, ∃ a ∈ r.accessors, f.Gives c d a) := by
  have without := ofItem_without_iff h named
  refine ⟨without, fun hidden => ?_,
    exists_gives h named (List.mem_append_right _ List.mem_cons_self)⟩
  have unread : ∀ a ∈ r.accessors, a.field ≠ f.name := by
    intro a mem
    obtain ⟨g, declared, -, source⟩ := exists_source (without.2 hidden) rfl mem
    rw [source]
    exact apart g declared
  exact ⟨unread, fun held held' agree property =>
    read_eq_of_agree (fun a mem => agree a.field a.reading (unread a mem)) property⟩

theorem leaves_out_iff_hidden_ledger :
    let filter (args : List AttributeArgument) : Attribute := ⟨⟨false, ["filter"]⟩, some args⟩
    let word (w : String) : AttributeArgument := .path ⟨false, [w]⟩
    let journal : AttributeArgument := .set ⟨false, ["rename"]⟩ (.text "journal")
    let amount : FieldItem := ⟨"amount", .path [] "u32" none, [filter [word "Int"]]⟩
    let ledger : FieldItem := ⟨"ledger", .path [] "u32" none,
      [⟨⟨false, ["doc"]⟩, none⟩, filter [word "Int", word "skip", journal], filter [word "Int"]]⟩
    let r : DerivedRecord := ⟨"Lease", [⟨"AMOUNT", "amount"⟩], [⟨"amount", .int, false⟩],
      [⟨"amount", "amount", .converted⟩]⟩
    ofItem ⟨"Lease", [], .named [amount, ledger]⟩ = .ok r ∧ ledger.SaysSkip ∧
      ofItem ⟨"Lease", [], .named [amount]⟩ = .ok r ∧ ∀ a ∈ r.accessors, a.field ≠ "ledger" := by
  intro filter word journal amount ledger r
  have derived : ofItem ⟨"Lease", [], .named ([amount] ++ ledger :: [])⟩ = .ok r := by
    decide +kernel
  have skip : ledger.SaysSkip :=
    @FieldItem.SaysSkip.mk ledger [⟨⟨false, ["doc"]⟩, none⟩]
      (filter [word "Int", word "skip", journal]) [filter [word "Int"]] _ (word "skip") rfl
      (by decide) (by decide) rfl (by decide) (by decide)
  have apart : ∀ g ∈ [amount] ++ [], g.name ≠ ledger.name := by decide
  obtain ⟨without, unread, -⟩ := leaves_out_iff_hidden derived rfl apart
  exact ⟨derived, skip, without.2 (.inl skip), (unread (.inl skip)).1⟩

theorem reads_field_with_late_skip :
    let skip : AttributeArgument := .path ⟨false, ["skip"]⟩
    let secret : FieldItem := ⟨"secret", .path [] "String" none,
      [⟨⟨false, ["filter"]⟩, some [.path ⟨false, ["String"]⟩]⟩, ⟨⟨false, ["filter"]⟩, some [skip]⟩]⟩
    let r : DerivedRecord := ⟨"Account", [⟨"SECRET", "secret"⟩], [⟨"secret", .string, false⟩],
      [⟨"secret", "secret", .converted⟩]⟩
    skip.isSkip ∧ ofItem ⟨"Account", [], .named [secret]⟩ = .ok r ∧
      ∀ held, r.read held "secret" = held "secret" .converted := by
  intro skip secret r
  exact ⟨by decide, by decide +kernel, fun held => rfl⟩

end DerivedRecord

end RecordQuery.Declaration
