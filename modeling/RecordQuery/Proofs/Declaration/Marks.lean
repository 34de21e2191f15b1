import RecordQuery.Declaration.Attribute
import RecordQuery.Proofs.Except

namespace RecordQuery.Declaration

namespace AttributeArgument

def kind? : AttributeArgument → Option FieldKind
  | .path p => p.word?.bind FieldKind.read?
  | .set p (.text s) => if p.isWord "ty" then FieldKind.read? s else none
  | _ => none

def rename? : AttributeArgument → Option String
  | .set p (.text s) => if p.isWord "rename" then some s else none
  | _ => none

def isSkip : AttributeArgument → Bool
  | .path p => p.isWord "skip"
  | _ => false

def label? : AttributeArgument → Option String
  | .set p (.text s) => if p.isWord "label" then some s else none
  | _ => none

inductive Describes : AttributeArgument → Prop
  | label {s : String} : Describes (.set ⟨false, ["label"]⟩ (.text s))
  | rename {s : String} : Describes (.set ⟨false, ["rename"]⟩ (.text s))

theorem Describes.check {a : AttributeArgument} (h : a.Describes) : a.wordPath.check = .ok () := by
  have words : ∀ word ∈ ["label", "rename"], WordPath.check ⟨false, [word]⟩ = .ok () := by decide
  cases h with
  | label => exact words "label" (by simp)
  | rename => exact words "rename" (by simp)

end AttributeArgument

theorem WordPath.isWord_iff {p : WordPath} {word : String} :
    p.isWord word ↔ p = ⟨false, [word]⟩ := by
  obtain ⟨rooted, words⟩ := p
  simp [isWord]

theorem FieldKind.read_eq_ok {name : String} {kind : FieldKind} :
    read name = .ok kind ↔ read? name = some kind := by
  unfold read
  cases read? name <;> simp

theorem Setting.read_eq_ok {name text : String} {value : Setting} :
    value.read name = .ok text ↔ value = .text text := by
  cases value <;> simp [read]

def Attribute.given (as : List Attribute) : List AttributeArgument :=
  ((as.find? (·.path.isWord "filter")).bind (·.arguments)).getD []

theorem Attribute.eq_given_of_filterArguments {as : List Attribute}
    {args : List AttributeArgument} (h : filterArguments as = .ok args) : args = given as := by
  unfold filterArguments at h
  unfold given
  split at h
  · rename_i none
    cases h
    rw [none]
    rfl
  · rename_i a first
    split at h
    · cases h
    · rename_i written
      obtain ⟨_, _, h⟩ := bind_eq_ok.1 h
      cases h
      rw [first, Option.bind_some, written]
      rfl

theorem getLast?_filterMap_cons {α β : Type} (f : α → Option β) (a : α) (as : List α)
    (start : Option β) :
    ((a :: as).filterMap f).getLast?.or start = (as.filterMap f).getLast?.or ((f a).or start) := by
  cases given : f a with
  | none => simp [given]
  | some b => cases last : (as.filterMap f).getLast? <;> simp [given, last, List.getLast?_cons]

namespace FieldMarks

open AttributeArgument

variable {m m' : FieldMarks} {a : AttributeArgument} {args : List AttributeArgument}

def ofArguments (args : List AttributeArgument) : FieldMarks where
  kind := (args.filterMap kind?).getLast?
  skipped := args.any isSkip
  rename := (args.filterMap rename?).getLast?

theorem add_eq_ok (h : m.add a = .ok m') :
    m' = ⟨a.kind?.or m.kind, m.skipped || a.isSkip, a.rename?.or m.rename⟩ := by
  cases a with
  | path p =>
    simp only [add] at h
    split at h
    · rename_i skip
      cases h
      obtain rfl := WordPath.isWord_iff.1 skip
      have unread : FieldKind.read? "skip" = none := by decide
      simp [kind?, rename?, isSkip, WordPath.word?, unread, skip]
    · rename_i counts
      split at h
      · rename_i name lone
        obtain ⟨kind, read, h⟩ := bind_eq_ok.1 h
        cases h
        simp [kind?, rename?, isSkip, lone, FieldKind.read_eq_ok.1 read, counts]
      · cases h
  | set p value =>
    simp only [add] at h
    split at h
    · rename_i rename
      obtain ⟨text, read, h⟩ := bind_eq_ok.1 h
      cases h
      obtain rfl := Setting.read_eq_ok.1 read
      obtain rfl := WordPath.isWord_iff.1 rename
      simp [kind?, rename?, isSkip, WordPath.isWord]
    · rename_i kept
      split at h
      · rename_i ty
        obtain ⟨name, text, h⟩ := bind_eq_ok.1 h
        obtain ⟨kind, read, h⟩ := bind_eq_ok.1 h
        cases h
        obtain rfl := Setting.read_eq_ok.1 text
        simp [kind?, rename?, isSkip, kept, ty, FieldKind.read_eq_ok.1 read]
      · cases h
  | call => cases h

theorem foldlM_add_eq_ok (h : args.foldlM add m = .ok m') :
    m' = ⟨(args.filterMap kind?).getLast?.or m.kind, m.skipped || args.any isSkip,
      (args.filterMap rename?).getLast?.or m.rename⟩ := by
  -- From any start, since what the first argument adds is the start of the others.
  induction args generalizing m with
  | nil =>
    cases h
    simp
  | cons a args ih =>
    obtain ⟨next, added, h⟩ := bind_eq_ok.1 h
    rw [ih h, add_eq_ok added]
    simp only [getLast?_filterMap_cons, List.any_cons, Bool.or_assoc]

theorem read_eq_ok {as : List Attribute} (h : read as = .ok m) :
    m = ofArguments (Attribute.given as) := by
  obtain ⟨args, found, h⟩ := bind_eq_ok.1 h
  obtain rfl := Attribute.eq_given_of_filterArguments found
  simpa [ofArguments] using foldlM_add_eq_ok h

end FieldMarks

def Attribute.Describe (as : List Attribute) : Prop :=
  ∀ a, as.find? (·.path.isWord "filter") = some a →
    ∃ args, a.arguments = some args ∧ ∀ x ∈ args, x.Describes

theorem Attribute.filterArguments_of_describe {as : List Attribute} (h : Describe as) :
    filterArguments as = .ok (given as) ∧ ∀ x ∈ given as, x.Describes := by
  cases first : as.find? (·.path.isWord "filter") with
  | none => simp [filterArguments, given, first]
  | some a =>
    obtain ⟨args, written, describe⟩ := h a first
    have checked : args.forM (·.wordPath.check) = .ok () := by
      clear written
      induction args with
      | nil => rfl
      | cons x args ih =>
        obtain ⟨front, rest⟩ := List.forall_mem_cons.1 describe
        rw [List.forM_eq_forM, List.forM_cons, front.check, ok_bind]
        exact ih rest
    simp only [filterArguments, given, first, written, checked, Option.bind_some, Option.getD_some]
    exact ⟨rfl, describe⟩

namespace VariantMarks

open AttributeArgument

variable {m m' : VariantMarks} {a : AttributeArgument} {args : List AttributeArgument}

def ofArguments (args : List AttributeArgument) : VariantMarks where
  label := (args.filterMap label?).getLast?
  rename := (args.filterMap rename?).getLast?

theorem add_eq_ok_iff :
    m.add a = .ok m' ↔ a.Describes ∧ m' = ⟨a.label?.or m.label, a.rename?.or m.rename⟩ := by
  constructor
  · intro h
    cases a with
    | path | call => cases h
    | set p value =>
      simp only [add] at h
      split at h
      · rename_i label
        obtain ⟨text, read, h⟩ := bind_eq_ok.1 h
        cases h
        obtain rfl := Setting.read_eq_ok.1 read
        obtain rfl := WordPath.isWord_iff.1 label
        exact ⟨.label, rfl⟩
      · split at h
        · rename_i rename
          obtain ⟨text, read, h⟩ := bind_eq_ok.1 h
          cases h
          obtain rfl := Setting.read_eq_ok.1 read
          obtain rfl := WordPath.isWord_iff.1 rename
          exact ⟨.rename, rfl⟩
        · cases h
  · rintro ⟨_ | _, rfl⟩ <;> rfl

theorem foldlM_add_eq_ok_iff :
    args.foldlM add m = .ok m' ↔ (∀ a ∈ args, a.Describes) ∧
      m' = ⟨(args.filterMap label?).getLast?.or m.label,
        (args.filterMap rename?).getLast?.or m.rename⟩ := by
  induction args generalizing m with
  | nil => simp [pure, Except.pure, eq_comm]
  | cons a args ih =>
    simp only [List.foldlM_cons, bind_eq_ok, add_eq_ok_iff, ih, List.forall_mem_cons,
      getLast?_filterMap_cons]
    constructor
    · rintro ⟨_, ⟨first, rfl⟩, others, made⟩
      exact ⟨⟨first, others⟩, made⟩
    · rintro ⟨⟨first, others⟩, made⟩
      exact ⟨_, ⟨first, rfl⟩, others, made⟩

theorem read_eq_ok_iff {as : List Attribute} :
    read as = .ok m ↔ Attribute.Describe as ∧ m = ofArguments (Attribute.given as) := by
  constructor
  · intro h
    obtain ⟨args, found, h⟩ := bind_eq_ok.1 h
    obtain rfl := Attribute.eq_given_of_filterArguments found
    obtain ⟨describe, made⟩ := foldlM_add_eq_ok_iff.1 h
    refine ⟨fun a first => ?_, by simpa [ofArguments] using made⟩
    cases written : a.arguments with
    | none =>
      simp only [Attribute.filterArguments, first, written] at found
      cases found
    | some args => exact ⟨args, rfl, by simpa [Attribute.given, first, written] using describe⟩
  · rintro ⟨describe, rfl⟩
    obtain ⟨found, describe⟩ := Attribute.filterArguments_of_describe describe
    rw [read, found, ok_bind, foldlM_add_eq_ok_iff]
    exact ⟨describe, by simp [ofArguments]⟩

end VariantMarks

end RecordQuery.Declaration
