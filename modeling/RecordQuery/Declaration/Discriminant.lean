import RecordQuery.Declaration.Token

namespace RecordQuery.Declaration

open Text

namespace WholeNumber

def base : List Char → Nat × List Char
  | '0' :: 'x' :: cs => (16, cs)
  | '0' :: 'o' :: cs => (8, cs)
  | '0' :: 'b' :: cs => (2, cs)
  | cs => (10, cs)

def isDigitOf (base : Nat) (c : Char) : Bool :=
  isDigit c || (base == 16 && (hexValue? c).isSome)

def value? (base : Nat) (cs : List Char) : Option Nat :=
  cs.foldlM (fun n c =>
    (hexValue? c).bind fun d => if d < base then some (n * base + d) else none) 0

def isSuffix : List Char → Bool
  | [] => true
  | c :: cs => isIdentifierStart c && cs.all isIdentifierContinue

def isExponent : List Char → Bool
  | c :: cs =>
    let isPart := fun d => isDigit d || d == '_'
    (c == 'e' || c == 'E') && (cs.takeWhile isPart).any isDigit && isSuffix (cs.dropWhile isPart)
  | [] => false

/-- Reads a whole number. Underscores may stand among its digits; text with an exponent is none. -/
def read? (cs : List Char) : Option Nat :=
  let (base, body) := base cs
  let digits := (body.takeWhile fun c => isDigitOf base c || c == '_').filter (· != '_')
  let rest := body.dropWhile fun c => isDigitOf base c || c == '_'
  if digits.isEmpty || !isSuffix rest || (base == 10 && isExponent rest) then none
  else value? base digits

end WholeNumber

/-- The value given to a variant. Brackets around it may be parentheses or not be seen at all. -/
inductive Discriminant
  | literal (n : Nat)
  | negated (d : Discriminant)
  | enclosed (d : Discriminant)
  | other
  deriving DecidableEq

inductive DiscriminantFault
  | tooLarge
  | notWhole
  deriving DecidableEq

namespace Discriminant

def afterBracket (depth : Nat) : List Token → List Token
  | [] => []
  | .sign '[' :: ts => afterBracket (depth + 1) ts
  | .sign ']' :: ts => if depth = 0 then ts else afterBracket (depth - 1) ts
  | _ :: ts => afterBracket depth ts

theorem length_afterBracket_le (depth : Nat) (ts : List Token) :
    (afterBracket depth ts).length ≤ ts.length := by
  fun_induction afterBracket depth ts with
  | case1 => simp
  | case2 depth ts ih => simp only [List.length_cons]; omega
  | case3 ts => simp
  | case4 depth ts _ ih => simp only [List.length_cons]; omega
  | case5 depth t ts _ _ ih => simp only [List.length_cons]; omega

def ofTokens (ts : List Token) : Discriminant :=
  match ts with
  | .sign '#' :: .sign '[' :: rest => ofTokens (afterBracket 0 rest)
  | [.literal s] =>
    match WholeNumber.read? s.toList with
    | some n => .literal n
    | none => .other
  | .sign '-' :: rest => .negated (ofTokens rest)
  | .sign '(' :: rest =>
    if rest.getLast? = some (.sign ')') then .enclosed (ofTokens rest.dropLast) else .other
  | _ => .other
termination_by ts.length
decreasing_by
  · have := length_afterBracket_le 0 rest
    simp only [List.length_cons]
    omega
  · simp
  · simp only [List.length_cons, List.length_dropLast]
    omega

/-- The literal has to be a signed 64-bit number before a sign is applied to it. -/
def value : Discriminant → Except DiscriminantFault Int64
  | .literal n => if (n : Int) ≤ Int64.maxValue.toInt then .ok (.ofNat n) else .error .tooLarge
  | .negated d => (value d).map (- ·)
  | .enclosed d => value d
  | .other => .error .notWhole

end Discriminant

end RecordQuery.Declaration
