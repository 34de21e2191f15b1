import RecordQuery.Json.Number

namespace RecordQuery.Json

open Text

/-- A string is missing from its token if escapes in it name half a surrogate pair. -/
inductive Token
  | leftBrace
  | rightBrace
  | leftBracket
  | rightBracket
  | colon
  | comma
  | null
  | bool (b : Bool)
  | number (l : NumberLiteral)
  | string (s : Option String)
  | broken
  deriving DecidableEq

inductive StringPart
  | char (c : Char)
  | unit (n : Nat)

def joinParts : List StringPart → Option (List Char)
  | [] => some []
  | .char c :: ps => (joinParts ps).map (c :: ·)
  | .unit high :: .unit low :: ps =>
    if 0xD800 ≤ high ∧ high < 0xDC00 then
      if 0xDC00 ≤ low ∧ low < 0xE000 then
        (joinParts ps).map (Char.ofNat (0x10000 + (high - 0xD800) * 0x400 + (low - 0xDC00)) :: ·)
      else none
    else if 0xDC00 ≤ high ∧ high < 0xE000 then none
    else (joinParts (.unit low :: ps)).map (Char.ofNat high :: ·)
  | .unit n :: ps =>
    if 0xD800 ≤ n ∧ n < 0xE000 then none else (joinParts ps).map (Char.ofNat n :: ·)

inductive NumberStage
  | minus
  | zero
  | whole
  | point
  | fraction
  | mark
  | sign
  | exponent

def NumberStage.next? (stage : NumberStage) (l : NumberLiteral) (c : Char) :
    Option (NumberStage × NumberLiteral) :=
  let isMark := c = 'e' ∨ c = 'E'
  match stage with
  | .minus =>
    if c = '0' then some (.zero, { l with whole := l.whole ++ [c] })
    else if isDigit c then some (.whole, { l with whole := l.whole ++ [c] })
    else none
  | .zero => if c = '.' then some (.point, l) else if isMark then some (.mark, l) else none
  | .whole =>
    if isDigit c then some (.whole, { l with whole := l.whole ++ [c] })
    else if c = '.' then some (.point, l)
    else if isMark then some (.mark, l)
    else none
  | .point => if isDigit c then some (.fraction, { l with fraction := l.fraction ++ [c] }) else none
  | .fraction =>
    if isDigit c then some (.fraction, { l with fraction := l.fraction ++ [c] })
    else if isMark then some (.mark, l)
    else none
  | .mark =>
    if c = '+' then some (.sign, l)
    else if c = '-' then some (.sign, { l with negativeExponent := true })
    else if isDigit c then some (.exponent, { l with exponent := l.exponent ++ [c] })
    else none
  | .sign | .exponent =>
    if isDigit c then some (.exponent, { l with exponent := l.exponent ++ [c] }) else none

def NumberStage.mayEnd (stage : NumberStage) (next : Option Char) : Bool :=
  match stage with
  | .zero => !next.any isDigit
  | .whole | .fraction | .exponent => true
  | _ => false

inductive Mode
  | between
  | word (rest : List Char) (token : Token)
  | number (stage : NumberStage) (l : NumberLiteral)
  | string (parts : List StringPart)
  | escape (parts : List StringPart)
  | unicode (parts : List StringPart) (left value : Nat)
  | stopped

def start (c : Char) : List Token × Mode :=
  match c with
  | ' ' | '\n' | '\t' | '\r' => ([], .between)
  | '\x7b' => ([.leftBrace], .between)
  | '\x7d' => ([.rightBrace], .between)
  | '[' => ([.leftBracket], .between)
  | ']' => ([.rightBracket], .between)
  | ':' => ([.colon], .between)
  | ',' => ([.comma], .between)
  | '"' => ([], .string [])
  | 'n' => ([], .word ['u', 'l', 'l'] .null)
  | 't' => ([], .word ['r', 'u', 'e'] (.bool true))
  | 'f' => ([], .word ['a', 'l', 's', 'e'] (.bool false))
  | '-' => ([], .number .minus { negative := true })
  | _ =>
    match NumberStage.next? .minus {} c with
    | some (stage, l) => ([], .number stage l)
    | none => ([.broken], .stopped)

def simpleEscape? : Char → Option Char
  | '"' => some '"'
  | '\\' => some '\\'
  | '/' => some '/'
  | 'b' => some '\x08'
  | 'f' => some '\x0c'
  | 'n' => some '\n'
  | 'r' => some '\r'
  | 't' => some '\t'
  | _ => none

def Mode.step (c : Char) : Mode → List Token × Mode
  | .between => start c
  | .word [d] token => if c = d then ([token], .between) else ([.broken], .stopped)
  | .word (d :: ds) token => if c = d then ([], .word ds token) else ([.broken], .stopped)
  | .word [] _ => ([.broken], .stopped)
  | .number stage l =>
    match stage.next? l c with
    | some (stage, l) => ([], .number stage l)
    | none =>
      if stage.mayEnd (some c) then (.number l :: (start c).1, (start c).2)
      else ([.broken], .stopped)
  | .string parts =>
    if c = '"' then ([.string ((joinParts parts).map String.ofList)], .between)
    else if c = '\\' then ([], .escape parts)
    else if c.toNat < 0x20 then ([.broken], .stopped)
    else ([], .string (parts ++ [.char c]))
  | .escape parts =>
    if c = 'u' then ([], .unicode parts 4 0)
    else match simpleEscape? c with
      | some d => ([], .string (parts ++ [.char d]))
      | none => ([.broken], .stopped)
  | .unicode parts left value =>
    match hexValue? c with
    | some d =>
      if left = 1 then ([], .string (parts ++ [.unit (16 * value + d)]))
      else ([], .unicode parts (left - 1) (16 * value + d))
    | none => ([.broken], .stopped)
  | .stopped => ([], .stopped)

def Mode.finish : Mode → List Token
  | .between | .stopped => []
  | .number stage l => if stage.mayEnd none then [.number l] else [.broken]
  | _ => [.broken]

def tokensFrom (mode : Mode) : List Char → List Token
  | [] => mode.finish
  | c :: cs => (mode.step c).1 ++ tokensFrom (mode.step c).2 cs

def tokens (cs : List Char) : List Token := tokensFrom .between cs

end RecordQuery.Json
