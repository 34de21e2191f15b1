import RecordQuery.Json.Token
import RecordQuery.Proofs.Text.Digits

namespace RecordQuery.Json

open Text

inductive SpellsUnit : Nat → List Char → Prop
  | hex {a b c d i j k l} : hexValue? a = some i → hexValue? b = some j → hexValue? c = some k →
      hexValue? d = some l →
      SpellsUnit (16 * (16 * (16 * i + j) + k) + l) ['\\', 'u', a, b, c, d]

inductive SpellsChar : Char → List Char → Prop
  | plain {c} : c ≠ '"' → c ≠ '\\' → 0x20 ≤ c.toNat → SpellsChar c [c]
  | letter {c e} : (e, c) ∈ [('"', '"'), ('\\', '\\'), ('/', '/'), ('b', '\x08'), ('f', '\x0c'),
      ('n', '\n'), ('r', '\r'), ('t', '\t')] → SpellsChar c ['\\', e]
  | unit {c w} : SpellsUnit c.toNat w → SpellsChar c w
  | pair {c w w'} : 0x10000 ≤ c.toNat → SpellsUnit (0xD800 + (c.toNat - 0x10000) / 0x400) w →
      SpellsUnit (0xDC00 + (c.toNat - 0x10000) % 0x400) w' → SpellsChar c (w ++ w')

inductive SpellsChars : List Char → List Char → Prop
  | nil : SpellsChars [] []
  | cons {c cs w ws} : SpellsChar c w → SpellsChars cs ws → SpellsChars (c :: cs) (w ++ ws)

theorem SpellsChars.self {cs : List Char}
    (h : cs.all fun c => c ≠ '"' && c ≠ '\\' && 0x20 ≤ c.toNat) : SpellsChars cs cs := by
  induction cs with
  | nil => exact .nil
  | cons c cs ih =>
    simp only [List.all_cons, Bool.and_eq_true, decide_eq_true_eq] at h
    obtain ⟨⟨⟨quote, backslash⟩, printed⟩, rest⟩ := h
    exact .cons (.plain quote backslash printed) (ih rest)

inductive SpellsWhole : List Char → Prop
  | zero : SpellsWhole ['0']
  | digits {d ds} : d ≠ '0' → AreDigits (d :: ds) → SpellsWhole (d :: ds)

inductive SpellsFraction : List Char → List Char → Prop
  | none : SpellsFraction [] []
  | digits {ds} : AreDigits ds → SpellsFraction ds ('.' :: ds)

inductive SpellsExponent : Bool → List Char → List Char → Prop
  | none : SpellsExponent false [] []
  | plain {e ds} : e ∈ ['e', 'E'] → AreDigits ds → SpellsExponent false ds (e :: ds)
  | plus {e ds} : e ∈ ['e', 'E'] → AreDigits ds → SpellsExponent false ds (e :: '+' :: ds)
  | minus {e ds} : e ∈ ['e', 'E'] → AreDigits ds → SpellsExponent true ds (e :: '-' :: ds)

inductive SpellsNumber (l : NumberLiteral) : List Char → Prop
  | parts {f e} : SpellsWhole l.whole → SpellsFraction l.fraction f →
      SpellsExponent l.negativeExponent l.exponent e →
      SpellsNumber l ((if l.negative then ['-'] else []) ++ l.whole ++ f ++ e)

inductive SpellsFixed : Token → List Char → Prop
  | leftBrace : SpellsFixed .leftBrace ['\x7b']
  | rightBrace : SpellsFixed .rightBrace ['\x7d']
  | leftBracket : SpellsFixed .leftBracket ['[']
  | rightBracket : SpellsFixed .rightBracket [']']
  | colon : SpellsFixed .colon [':']
  | comma : SpellsFixed .comma [',']
  | null : SpellsFixed .null ['n', 'u', 'l', 'l']
  | true : SpellsFixed (.bool true) ['t', 'r', 'u', 'e']
  | false : SpellsFixed (.bool false) ['f', 'a', 'l', 's', 'e']

def blanks : List Char := [' ', '\n', '\t', '\r']

/-- Text that does not go on with a number: it ends, or a blank follows, or what ends a value. -/
def Apart (rest : List Char) : Prop := ∀ c ∈ rest.head?, c ∈ blanks ++ [',', ']', '\x7d']

inductive Spells : List Token → List Char → Prop
  | nil : Spells [] []
  | blank {c ts cs} : c ∈ blanks → Spells ts cs → Spells ts (c :: cs)
  | fixed {t w ts cs} : SpellsFixed t w → Spells ts cs → Spells (t :: ts) (w ++ cs)
  | string {s : String} {w ts cs} : SpellsChars s.toList w → Spells ts cs →
      Spells (.string (some s) :: ts) ('"' :: w ++ '"' :: cs)
  | number {l w ts cs} : SpellsNumber l w → Apart cs → Spells ts cs →
      Spells (.number l :: ts) (w ++ cs)

theorem joinParts_unit {n : Nat} {ps : List StringPart} (h : ¬(0xD800 ≤ n ∧ n < 0xE000)) :
    joinParts (.unit n :: ps) = (joinParts ps).map (Char.ofNat n :: ·) := by
  match ps with
  | [] => simp [joinParts, h]
  | .char _ :: _ => simp [joinParts, h]
  | .unit _ :: _ => rw [joinParts, if_neg (by omega), if_neg (by omega)]

theorem tokensFrom_spellsUnit {n : Nat} {w : List Char} (h : SpellsUnit n w)
    (parts : List StringPart) (rest : List Char) :
    tokensFrom (.string parts) (w ++ rest) = tokensFrom (.string (parts ++ [.unit n])) rest := by
  cases h with
  | hex a b c d => simp [tokensFrom, Mode.step, a, b, c, d]

theorem joinParts_unit_of_char (c : Char) (ps : List StringPart) :
    joinParts (.unit c.toNat :: ps) = (joinParts ps).map (c :: ·) := by
  have valid : c.toNat < 0xD800 ∨ 0xDFFF < c.toNat ∧ c.toNat < 0x110000 := c.valid
  rw [joinParts_unit (by omega), Char.ofNat_toNat]

theorem joinParts_pair {c : Char} (h : 0x10000 ≤ c.toNat) (ps : List StringPart) :
    joinParts (.unit (0xD800 + (c.toNat - 0x10000) / 0x400) ::
        .unit (0xDC00 + (c.toNat - 0x10000) % 0x400) :: ps) = (joinParts ps).map (c :: ·) := by
  have valid : c.toNat < 0xD800 ∨ 0xDFFF < c.toNat ∧ c.toNat < 0x110000 := c.valid
  have whole : 0x10000 + (0xD800 + (c.toNat - 0x10000) / 0x400 - 0xD800) * 0x400 +
      (0xDC00 + (c.toNat - 0x10000) % 0x400 - 0xDC00) = c.toNat := by omega
  rw [joinParts, if_pos (by omega), if_pos (by omega), whole, Char.ofNat_toNat]

theorem exists_parts_of_spellsChar {c : Char} {w : List Char} (h : SpellsChar c w) :
    ∃ ps, (∀ qs, joinParts (ps ++ qs) = (joinParts qs).map (c :: ·)) ∧ ∀ parts rest,
      tokensFrom (.string parts) (w ++ rest) = tokensFrom (.string (parts ++ ps)) rest := by
  cases h with
  | plain quote backslash printed =>
    refine ⟨[.char c], fun _ => rfl, fun parts rest => ?_⟩
    simp [tokensFrom, Mode.step, quote, backslash, Nat.not_lt.2 printed]
  | letter h =>
    refine ⟨[.char c], fun _ => rfl, fun parts rest => ?_⟩
    simp only [List.mem_cons, Prod.mk.injEq, List.not_mem_nil, or_false] at h
    rcases h with ⟨rfl, rfl⟩ | ⟨rfl, rfl⟩ | ⟨rfl, rfl⟩ | ⟨rfl, rfl⟩ | ⟨rfl, rfl⟩ | ⟨rfl, rfl⟩ |
      ⟨rfl, rfl⟩ | ⟨rfl, rfl⟩ <;> rfl
  | unit h =>
    exact ⟨[.unit c.toNat], joinParts_unit_of_char c, tokensFrom_spellsUnit h⟩
  | pair wide high low =>
    refine ⟨[.unit _, .unit _], joinParts_pair wide, fun parts rest => ?_⟩
    rw [List.append_assoc, tokensFrom_spellsUnit high, tokensFrom_spellsUnit low]
    simp

theorem exists_parts_of_spellsChars {cs w : List Char} (h : SpellsChars cs w) :
    ∃ ps, joinParts ps = some cs ∧ ∀ parts rest,
      tokensFrom (.string parts) (w ++ rest) = tokensFrom (.string (parts ++ ps)) rest := by
  induction h with
  | nil => exact ⟨[], rfl, fun parts rest => by simp⟩
  | cons first _ ih =>
    obtain ⟨ps, joined, reads⟩ := exists_parts_of_spellsChar first
    obtain ⟨qs, joined', reads'⟩ := ih
    refine ⟨ps ++ qs, by rw [joined, joined']; rfl, fun parts rest => ?_⟩
    rw [List.append_assoc, reads, reads', List.append_assoc]

theorem tokensFrom_spellsChars {s : String} {w : List Char} (h : SpellsChars s.toList w)
    (rest : List Char) :
    tokensFrom .between ('"' :: w ++ '"' :: rest) =
      .string (some s) :: tokensFrom .between rest := by
  obtain ⟨ps, joined, reads⟩ := exists_parts_of_spellsChars h
  calc
    _ = tokensFrom (.string []) (w ++ '"' :: rest) := rfl
    _ = tokensFrom (.string ps) ('"' :: rest) := reads [] _
    _ = .string ((joinParts ps).map String.ofList) :: tokensFrom .between rest := rfl
    _ = .string (some s) :: tokensFrom .between rest := by simp [joined]

theorem tokensFrom_number {stage stage' : NumberStage} {l l' : NumberLiteral} {c : Char}
    (h : stage.next? l c = some (stage', l')) (cs : List Char) :
    tokensFrom (.number stage l) (c :: cs) = tokensFrom (.number stage' l') cs := by
  simp [tokensFrom, Mode.step, h]

theorem tokensFrom_run {stage : NumberStage} (put : List Char → NumberLiteral)
    (h : ∀ done d, isDigit d → stage.next? (put done) d = some (stage, put (done ++ [d])))
    {ds : List Char} (digits : ∀ d ∈ ds, isDigit d) (done rest : List Char) :
    tokensFrom (.number stage (put done)) (ds ++ rest) =
      tokensFrom (.number stage (put (done ++ ds))) rest := by
  induction ds generalizing done with
  | nil => simp
  | cons d ds ih =>
    have step := h done d (digits d List.mem_cons_self)
    have others : ∀ d' ∈ ds, isDigit d' := fun d' hd => digits d' (List.mem_cons_of_mem d hd)
    rw [List.cons_append, tokensFrom_number step, ih others]
    simp

theorem tokensFrom_areDigits {stage stage' : NumberStage} (put : List Char → NumberLiteral)
    (first : ∀ d, isDigit d → stage.next? (put []) d = some (stage', put [d]))
    (next : ∀ done d, isDigit d → stage'.next? (put done) d = some (stage', put (done ++ [d])))
    {ds : List Char} (h : AreDigits ds) (rest : List Char) :
    tokensFrom (.number stage (put [])) (ds ++ rest) =
      tokensFrom (.number stage' (put ds)) rest := by
  obtain ⟨some, digits⟩ := h
  obtain ⟨d, ds, rfl⟩ := List.exists_cons_of_ne_nil some
  obtain ⟨digit, digits⟩ := List.forall_mem_cons.1 digits
  rw [List.cons_append, tokensFrom_number (first d digit), tokensFrom_run put next digits]
  rfl

section

variable {negative negativeExponent : Bool} {whole fraction exponent w rest : List Char}
  {stage : NumberStage}

theorem tokensFrom_spellsWhole (h : SpellsWhole whole) :
    ∃ stage, (stage = .zero ∨ stage = .whole) ∧ ∀ rest,
      tokensFrom (.number .minus { negative }) (whole ++ rest) =
        tokensFrom (.number stage { negative, whole }) rest := by
  cases h with
  | zero => exact ⟨.zero, .inl rfl, tokensFrom_number rfl⟩
  | @digits d ds nonzero digits =>
    refine ⟨.whole, .inr rfl, fun rest => ?_⟩
    have first : NumberStage.minus.next? { negative } d =
        some (.whole, { negative, whole := [d] }) := by
      simp [NumberStage.next?, nonzero, digits.2 d List.mem_cons_self]
    let put (whole : List Char) : NumberLiteral := { negative, whole }
    have next (done : List Char) (d : Char) (digit : isDigit d) :
        NumberStage.whole.next? (put done) d = some (.whole, put (done ++ [d])) := by
      simp [NumberStage.next?, digit, put]
    rw [List.cons_append, tokensFrom_number first]
    exact tokensFrom_run put next (fun d' h => digits.2 d' (List.mem_cons_of_mem d h)) [d] rest

theorem tokensFrom_spellsFraction (h : SpellsFraction fraction w)
    (before : stage = .zero ∨ stage = .whole) :
    ∃ stage', (stage' = .zero ∨ stage' = .whole ∨ stage' = .fraction) ∧ ∀ rest,
      tokensFrom (.number stage { negative, whole }) (w ++ rest) =
        tokensFrom (.number stage' { negative, whole, fraction }) rest := by
  cases h with
  | none => exact ⟨stage, before.imp_right .inl, fun _ => rfl⟩
  | @digits ds digits =>
    refine ⟨.fraction, .inr (.inr rfl), fun rest => ?_⟩
    have point : stage.next? { negative, whole } '.' = some (.point, { negative, whole }) := by
      rcases before with rfl | rfl <;> rfl
    let put (fraction : List Char) : NumberLiteral := { negative, whole, fraction }
    rw [List.cons_append, tokensFrom_number point]
    apply tokensFrom_areDigits put _ _ digits
    · exact fun d digit => by simp [NumberStage.next?, digit, put]
    · exact fun done d digit => by simp [NumberStage.next?, digit, put]

theorem tokensFrom_spellsExponent (h : SpellsExponent negativeExponent exponent w)
    (before : stage = .zero ∨ stage = .whole ∨ stage = .fraction) :
    ∃ stage', (stage' = .zero ∨ stage' = .whole ∨ stage' = .fraction ∨ stage' = .exponent) ∧
      ∀ rest, tokensFrom (.number stage { negative, whole, fraction }) (w ++ rest) =
        tokensFrom (.number stage'
          { negative, whole, fraction, negativeExponent, exponent }) rest := by
  have mark (e : Char) (h : e ∈ ['e', 'E']) : stage.next? { negative, whole, fraction } e =
      some (.mark, { negative, whole, fraction }) := by
    simp only [List.mem_cons, List.not_mem_nil, or_false] at h
    rcases before with rfl | rfl | rfl <;> rcases h with rfl | rfl <;> rfl
  let put (negativeExponent : Bool) (exponent : List Char) : NumberLiteral :=
    { negative, whole, fraction, negativeExponent, exponent }
  have next (b : Bool) (done : List Char) (d : Char) (digit : isDigit d) :
      NumberStage.exponent.next? (put b done) d = some (.exponent, put b (done ++ [d])) := by
    simp [NumberStage.next?, digit, put]
  have signed (b : Bool) (d : Char) (digit : isDigit d) :
      NumberStage.sign.next? (put b []) d = some (.exponent, put b [d]) := by
    simp [NumberStage.next?, digit, put]
  cases h with
  | none => exact ⟨stage, before.imp_right (.imp_right .inl), fun _ => rfl⟩
  | plain e digits =>
    refine ⟨.exponent, by simp, fun rest => ?_⟩
    rw [List.cons_append, tokensFrom_number (mark _ e)]
    refine tokensFrom_areDigits (put false) (fun d digit => ?_) (next false) digits rest
    have plus : d ≠ '+' := fun h => absurd (h ▸ digit) (by decide)
    have minus : d ≠ '-' := fun h => absurd (h ▸ digit) (by decide)
    simp [NumberStage.next?, digit, plus, minus, put]
  | plus e digits =>
    refine ⟨.exponent, by simp, fun rest => ?_⟩
    rw [List.cons_append, List.cons_append, tokensFrom_number (mark _ e), tokensFrom_number rfl]
    exact tokensFrom_areDigits (put false) (signed false) (next false) digits rest
  | minus e digits =>
    refine ⟨.exponent, by simp, fun rest => ?_⟩
    rw [List.cons_append, List.cons_append, tokensFrom_number (mark _ e), tokensFrom_number rfl]
    exact tokensFrom_areDigits (put true) (signed true) (next true) digits rest

theorem tokensFrom_of_apart (l : NumberLiteral)
    (h : stage = .zero ∨ stage = .whole ∨ stage = .fraction ∨ stage = .exponent)
    (apart : Apart rest) :
    tokensFrom (.number stage l) rest = .number l :: tokensFrom .between rest := by
  cases rest with
  | nil => rcases h with rfl | rfl | rfl | rfl <;> rfl
  | cons c cs =>
    have follows := apart c rfl
    simp only [blanks, List.mem_cons, List.mem_append, List.not_mem_nil, or_false] at follows
    rcases h with rfl | rfl | rfl | rfl <;>
      rcases follows with (rfl | rfl | rfl | rfl) | rfl | rfl | rfl <;> rfl

theorem start_of_isDigit {c : Char} (h : isDigit c) :
    start c = ([], .number (if c = '0' then .zero else .whole) { whole := [c] }) := by
  unfold start
  split
  case h_16 =>
    by_cases zero : c = '0' <;> simp [NumberStage.next?, h, zero]
  all_goals exact absurd h (by decide)

theorem tokensFrom_sign (h : SpellsWhole whole) :
    tokensFrom .between ((if negative then ['-'] else []) ++ whole ++ rest) =
      tokensFrom (.number .minus { negative }) (whole ++ rest) := by
  cases negative with
  | true => rfl
  | false =>
    have digit : ∃ d ds, whole = d :: ds ∧ isDigit d := by
      cases h with
      | zero => exact ⟨'0', [], rfl, rfl⟩
      | digits _ digits => exact ⟨_, _, rfl, digits.2 _ List.mem_cons_self⟩
    obtain ⟨d, ds, rfl, digit⟩ := digit
    have first : NumberStage.minus.next? {} d =
        some (if d = '0' then .zero else .whole, { whole := [d] }) := by
      by_cases zero : d = '0' <;> simp [NumberStage.next?, digit, zero]
    calc
      _ = (start d).1 ++ tokensFrom (start d).2 (ds ++ rest) := rfl
      _ = _ := by
        rw [start_of_isDigit digit]
        exact (tokensFrom_number first _).symm

end

theorem tokensFrom_spellsNumber {l : NumberLiteral} {w rest : List Char} (h : SpellsNumber l w)
    (apart : Apart rest) :
    tokensFrom .between (w ++ rest) = .number l :: tokensFrom .between rest := by
  obtain ⟨negative, whole, fraction, negativeExponent, exponent⟩ := l
  cases h with
  | @parts f e spelled fraction' exponent' =>
    obtain ⟨stage₁, read₁, first⟩ := tokensFrom_spellsWhole spelled
    obtain ⟨stage₂, read₂, second⟩ := tokensFrom_spellsFraction fraction' read₁
    obtain ⟨stage₃, read₃, third⟩ := tokensFrom_spellsExponent exponent' read₂
    rw [List.append_assoc, List.append_assoc, tokensFrom_sign spelled, first, second, third,
      tokensFrom_of_apart _ read₃ apart]

theorem tokensFrom_of_spells {ts : List Token} {cs : List Char} (h : Spells ts cs) :
    tokensFrom .between cs = ts := by
  induction h with
  | nil => rfl
  | blank blank _ ih =>
    simp only [blanks, List.mem_cons, List.not_mem_nil, or_false] at blank
    rcases blank with rfl | rfl | rfl | rfl <;> exact ih
  | fixed fixed _ ih =>
    rw [← ih]
    cases fixed <;> rfl
  | string chars _ ih => rw [tokensFrom_spellsChars chars, ih]
  | number number apart _ ih => rw [tokensFrom_spellsNumber number apart, ih]

end RecordQuery.Json
