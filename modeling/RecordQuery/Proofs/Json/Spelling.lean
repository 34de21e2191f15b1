import RecordQuery.Json.Text
import RecordQuery.Proofs.Json.Lexing
import RecordQuery.Proofs.Text.Digits

namespace RecordQuery.Json

open Text

theorem spellsChar_escapeChar (c : Char) : SpellsChar c (escapeChar c) := by
  unfold escapeChar
  split
  case h_8 quote backslash _ _ _ _ _ =>
    split
    · rename_i control
      have high := hexValue?_digitChar (c.toNat / 16) (by omega)
      have low := hexValue?_digitChar (c.toNat % 16) (Nat.mod_lt _ (by decide))
      have zero : hexValue? '0' = some 0 := rfl
      have unit := SpellsUnit.hex zero zero high low
      rw [show 16 * (16 * (16 * 0 + 0) + c.toNat / 16) + c.toNat % 16 = c.toNat by omega] at unit
      exact .unit unit
    · rename_i printed
      exact .plain quote backslash (Nat.not_lt.1 printed)
  all_goals exact .letter (by decide)

theorem spellsChars_escapeChar (cs : List Char) : SpellsChars cs (cs.flatMap escapeChar) := by
  induction cs with
  | nil => exact .nil
  | cons c cs ih => exact .cons (spellsChar_escapeChar c) ih

theorem spells_renderString (s : String) {ts : List Token} {rest : List Char}
    (h : Spells ts rest) : Spells (.string (some s) :: ts) (renderString s ++ rest) := by
  simpa [renderString] using Spells.string (spellsChars_escapeChar s.toList) h

theorem spellsWhole_digits (n : Nat) : SpellsWhole (digits n) := by
  obtain ⟨c, cs, digits_eq, zero⟩ := digits_eq_cons n
  by_cases h : c = '0'
  · rw [zero h]
    exact .zero
  · have all : ∀ d ∈ c :: cs, isDigit d = true := fun d hd =>
      isDigit_of_mem_digits (digits_eq ▸ hd)
    rw [digits_eq]
    exact .digits h ⟨List.cons_ne_nil c cs, all⟩

theorem spellsNumber_ofNat (n : Nat) :
    SpellsNumber (.ofNat n) (NumberLiteral.ofNat n).render := by
  simpa [NumberLiteral.render, NumberLiteral.ofNat] using
    SpellsNumber.parts (l := .ofNat n) (spellsWhole_digits n) .none .none

mutual

def treeTokens : Json → List Token
  | .broken => [.broken]
  | .null => [.null]
  | .bool b => [.bool b]
  | .number l => [.number l]
  | .string s => [.string s]
  | .array items => .leftBracket :: itemTokens items ++ [.rightBracket]
  | .object members _ => .leftBrace :: memberTokens members ++ [.rightBrace]

def itemTokens : List Json → List Token
  | [] => []
  | [j] => treeTokens j
  | j :: js => treeTokens j ++ .comma :: itemTokens js

def memberTokens : List (Option String × Json) → List Token
  | [] => []
  | [(k, j)] => .string k :: .colon :: treeTokens j
  | (k, j) :: ms => .string k :: .colon :: treeTokens j ++ .comma :: memberTokens ms

end

def named (members : List (String × Json)) : List (Option String × Json) :=
  members.map fun (k, v) => (some k, v)

/-- Values as they are written: all numbers are natural, all strings are there, and all objects are
closed. -/
inductive Plain : Json → Prop
  | null : Plain .null
  | bool {b} : Plain (.bool b)
  | natural {n} : Plain (.natural n)
  | text {s} : Plain (.text s)
  | array {items} : (∀ j ∈ items, Plain j) → Plain (.array items)
  | object {members : List (String × Json)} : (∀ m ∈ members, Plain m.2) →
      Plain (.ofMembers members)

def Renders (j : Json) : Prop :=
  ∀ ts rest, Apart rest → Spells ts rest → Spells (treeTokens j ++ ts) (j.renderChars ++ rest)

theorem spells_renderItems {items : List Json} (h : ∀ j ∈ items, Renders j) {ts : List Token}
    {rest : List Char} (behind : Spells ts rest) :
    Spells (itemTokens items ++ .rightBracket :: ts) (renderItems items ++ ']' :: rest) := by
  induction items with
  | nil => simpa [itemTokens, renderItems] using Spells.fixed .rightBracket behind
  | cons j js ih =>
    have first := h j List.mem_cons_self
    have ih := ih fun i hi => h i (List.mem_cons_of_mem j hi)
    cases js with
    | nil => exact first _ _ (by simp [Apart]) (.fixed .rightBracket behind)
    | cons j' js =>
      have more := first _ _ (by simp [Apart]) (.fixed .comma ih)
      simpa [itemTokens, renderItems] using more

theorem spells_renderMembers {members : List (String × Json)} (h : ∀ m ∈ members, Renders m.2)
    {ts : List Token} {rest : List Char} (behind : Spells ts rest) :
    Spells (memberTokens (named members) ++ .rightBrace :: ts)
      (renderMembers (named members) ++ '\x7d' :: rest) := by
  induction members with
  | nil =>
    simpa [named, memberTokens, renderMembers] using Spells.fixed .rightBrace behind
  | cons m ms ih =>
    obtain ⟨name, j⟩ := m
    have first := h (name, j) List.mem_cons_self
    have ih := ih fun i hi => h i (List.mem_cons_of_mem _ hi)
    cases ms with
    | nil =>
      have last := first _ _ (by simp [Apart]) (.fixed .rightBrace behind)
      simpa [named, memberTokens, renderMembers] using
        spells_renderString name (.fixed .colon last)
    | cons m ms =>
      have more := first _ _ (by simp [Apart]) (.fixed .comma ih)
      simpa [named, memberTokens, renderMembers] using
        spells_renderString name (.fixed .colon more)

theorem renders_of_plain {j : Json} (h : j.Plain) : Renders j := by
  induction h with
  | null => exact fun _ _ _ behind => .fixed .null behind
  | @bool b =>
    cases b with
    | true => exact fun _ _ _ behind => .fixed .true behind
    | false => exact fun _ _ _ behind => .fixed .false behind
  | @natural n => exact fun _ _ apart behind => .number (spellsNumber_ofNat n) apart behind
  | @text s => exact fun _ _ _ behind => spells_renderString s behind
  | array _ ih =>
    intro ts rest _ behind
    simpa [renderChars, treeTokens] using
      Spells.fixed .leftBracket (spells_renderItems ih behind)
  | @object members _ ih =>
    intro ts rest _ behind
    rw [show ofMembers members = .object (named members) true from rfl]
    simpa [renderChars, treeTokens] using
      Spells.fixed .leftBrace (spells_renderMembers ih behind)

theorem spells_render {j : Json} (h : j.Plain) : Spells (treeTokens j) j.render.toList := by
  simpa [render] using renders_of_plain h [] [] (by simp [Apart]) .nil

end RecordQuery.Json
