import RecordQuery.Declaration.Discriminant
import RecordQuery.Proofs.Except
import RecordQuery.Proofs.Text.Digits

namespace RecordQuery.Declaration

open Text

namespace WholeNumber

def types : List (List Char) :=
  ["i8", "i16", "i32", "i64", "i128", "isize", "u8", "u16", "u32", "u64", "u128", "usize"].map
    String.toList

inductive Spells : List Char → Nat → Prop
  | mk {d : Char} {ds type : List Char} : isDigit d = true →
      (∀ c ∈ ds, isDigit c = true ∨ c = '_') → type = [] ∨ type ∈ types →
      Spells (d :: ds ++ type) (digitsValue (d :: ds.filter (· != '_')))

def isPart (c : Char) : Bool := isDigitOf 10 c || c == '_'

theorem isPart_iff {c : Char} : isPart c = true ↔ isDigit c = true ∨ c = '_' := by
  simp [isPart, isDigitOf]

theorem hexValue?_of_isDigit {c : Char} (h : isDigit c = true) :
    hexValue? c = some (c.toNat - '0'.toNat) := by
  rw [hexValue?, if_pos h]
  rfl

theorem value?_of_isDigit {cs : List Char} (h : ∀ c ∈ cs, isDigit c = true) :
    value? 10 cs = some (digitsValue cs) := by
  suffices from_ : ∀ n, cs.foldlM (fun n c =>
      (hexValue? c).bind fun d => if d < 10 then some (n * 10 + d) else none) n =
        some (Nat.ofDigitChars 10 cs n) from from_ 0
  induction cs with
  | nil => exact fun n => rfl
  | cons c cs ih =>
    intro n
    obtain ⟨digit, digits⟩ := List.forall_mem_cons.1 h
    have small : c.toNat - '0'.toNat < 10 := by
      have := isDigit_iff.1 digit
      have : '0'.toNat = 48 := rfl
      omega
    rw [List.foldlM_cons, hexValue?_of_isDigit digit, Option.bind_some, if_pos small,
      Nat.ofDigitChars_cons, Nat.mul_comm n 10]
    exact ih digits _

theorem of_type : ∀ type ∈ [] :: types, type.takeWhile isPart = [] ∧
    type.dropWhile isPart = type ∧ isSuffix type = true ∧ isExponent type = false ∧
    type.head? ∉ [some 'x', some 'o', some 'b'] := by
  decide +kernel

theorem base_cons {d : Char} {cs : List Char} (h : cs.head? ∉ [some 'x', some 'o', some 'b']) :
    base (d :: cs) = (10, d :: cs) := by
  unfold base
  split
  · simp_all
  · simp_all
  · simp_all
  · rfl

theorem read?_of_base {cs : List Char} (h : base cs = (10, cs)) :
    read? cs =
      if ((cs.takeWhile isPart).filter (· != '_')).isEmpty || !isSuffix (cs.dropWhile isPart) ||
        isExponent (cs.dropWhile isPart) then none
      else value? 10 ((cs.takeWhile isPart).filter (· != '_')) := by
  rw [read?, h]
  rfl

theorem read?_of_spells {cs : List Char} {n : Nat} (h : Spells cs n) : read? cs = some n := by
  obtain @⟨d, ds, type, digit, parts, known⟩ := h
  obtain ⟨front, back, suffix, exponent, head⟩ := of_type type (by simpa using known)
  have counts : (d != '_') = true := by
    rw [bne_iff_ne]
    rintro rfl
    cases digit
  have digits : ∀ c ∈ d :: ds.filter (· != '_'), isDigit c = true := by
    refine List.forall_mem_cons.2 ⟨digit, fun c mem => ?_⟩
    obtain ⟨mem, other⟩ := List.mem_filter.1 mem
    exact (parts c mem).resolve_right (bne_iff_ne.1 other)
  have all : ∀ c ∈ d :: ds, isPart c = true :=
    List.forall_mem_cons.2 ⟨isPart_iff.2 (.inl digit), fun c mem => isPart_iff.2 (parts c mem)⟩
  have decimal : (ds ++ type).head? ∉ [some 'x', some 'o', some 'b'] := by
    cases ds with
    | nil => exact head
    | cons c ds =>
      have part := all c (by simp)
      intro mark
      obtain rfl | rfl | rfl : c = 'x' ∨ c = 'o' ∨ c = 'b' := by simpa using mark
      all_goals exact absurd part (by decide)
  rw [read?_of_base (by simpa using base_cons decimal), List.takeWhile_append_of_pos all,
    List.dropWhile_append_of_pos all, front, back, List.append_nil, suffix, exponent,
    List.filter_cons, if_pos counts, value?_of_isDigit digits]
  rfl

end WholeNumber

namespace Discriminant

inductive Spells : List Token → Int → Prop
  | literal {s : String} {n : Nat} : WholeNumber.Spells s.toList n → Spells [.literal s] n
  | negated {ts : List Token} {z : Int} : Spells ts z → Spells (.sign '-' :: ts) (-z)
  | enclosed {ts : List Token} {z : Int} : Spells ts z →
      Spells (.sign '(' :: ts ++ [.sign ')']) z

inductive Denotes : Discriminant → Int → Prop
  | literal {n : Nat} : Denotes (.literal n) n
  | negated {d : Discriminant} {z : Int} : Denotes d z → Denotes (.negated d) (-z)
  | enclosed {d : Discriminant} {z : Int} : Denotes d z → Denotes (.enclosed d) z

variable {d : Discriminant} {y z : Int}

theorem Denotes.unique (h : d.Denotes y) (h' : d.Denotes z) : y = z := by
  induction h generalizing z with
  | literal =>
    cases h'
    rfl
  | negated _ ih =>
    cases h' with
    | negated h' => rw [ih h']
  | enclosed _ ih =>
    cases h' with
    | enclosed h' => exact ih h'

theorem denotes_ofTokens {ts : List Token} (h : Spells ts z) : (ofTokens ts).Denotes z := by
  induction h with
  | literal spells =>
    rw [ofTokens, WholeNumber.read?_of_spells spells]
    exact .literal
  | negated _ ih =>
    rw [ofTokens]
    exact ih.negated
  | @enclosed ts _ _ ih =>
    have last : (ts ++ [Token.sign ')']).getLast? = some (.sign ')') := List.getLast?_concat
    rw [List.cons_append, ofTokens, if_pos last, List.dropLast_concat]
    exact ih.enclosed

theorem Denotes.value_eq (h : d.Denotes z) :
    d.value = if (z.natAbs : Int) ≤ Int64.maxValue.toInt then .ok (.ofInt z)
      else .error .tooLarge := by
  induction h with
  | literal => rw [value, Int.natAbs_natCast, Int64.ofInt_eq_ofNat]
  | negated _ ih =>
    rw [value, ih, Int.natAbs_neg, Int64.ofInt_neg]
    split <;> rfl
  | enclosed _ ih => rw [value, ih]

theorem Denotes.value_eq_ok (h : d.Denotes z) (low : Int64.minValue.toInt < z)
    (high : z ≤ Int64.maxValue.toInt) : d.value = .ok (.ofInt z) := by
  have least : Int64.minValue.toInt = -9223372036854775808 := rfl
  have greatest : Int64.maxValue.toInt = 9223372036854775807 := rfl
  rw [h.value_eq, if_pos (by omega)]

theorem Denotes.value_eq_error (h : d.Denotes Int64.minValue.toInt) :
    d.value = .error .tooLarge := by
  rw [h.value_eq, if_neg (by decide)]

end Discriminant

end RecordQuery.Declaration
