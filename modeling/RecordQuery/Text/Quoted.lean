import RecordQuery.Text.Printable

namespace RecordQuery.Text

def hexDigits (n : Nat) : List Char := Nat.toDigits 16 n

def quotedChar (c : Char) : List Char :=
  match c with
  | '\x00' => ['\\', '0']
  | '\t' => ['\\', 't']
  | '\n' => ['\\', 'n']
  | '\r' => ['\\', 'r']
  | '"' => ['\\', '"']
  | '\\' => ['\\', '\\']
  | _ =>
    if isGraphemeExtend c || !isPrintable c then
      ['\\', 'u', '\x7b'] ++ hexDigits c.toNat ++ ['\x7d']
    else [c]

def quote (s : String) : String :=
  String.ofList ('"' :: s.toList.flatMap quotedChar ++ ['"'])

/-- Quoted for program text, where a NUL in front of an octal digit takes its long form. -/
def literalChars : List Char → List Char
  | [] => []
  | '\x00' :: cs =>
    (match cs with
      | d :: _ => if '0' ≤ d ∧ d ≤ '7' then ['\\', 'x', '0', '0'] else ['\\', '0']
      | [] => ['\\', '0']) ++ literalChars cs
  | c :: cs => quotedChar c ++ literalChars cs

def literal (s : String) : String := String.ofList ('"' :: literalChars s.toList ++ ['"'])

end RecordQuery.Text
