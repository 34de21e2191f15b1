import RecordQuery.Json.Basic

namespace RecordQuery.Json

open RecordQuery.Text

def escapeChar (c : Char) : List Char :=
  match c with
  | '"' => ['\\', '"']
  | '\\' => ['\\', '\\']
  | '\x08' => ['\\', 'b']
  | '\x0c' => ['\\', 'f']
  | '\n' => ['\\', 'n']
  | '\r' => ['\\', 'r']
  | '\t' => ['\\', 't']
  | _ =>
    if c.toNat < 0x20 then
      ['\\', 'u', '0', '0', Nat.digitChar (c.toNat / 16), Nat.digitChar (c.toNat % 16)]
    else [c]

def renderString (s : String) : List Char := '"' :: s.toList.flatMap escapeChar ++ ['"']

mutual

def renderChars : Json → List Char
  | .broken => []
  | .null => ['n', 'u', 'l', 'l']
  | .bool true => ['t', 'r', 'u', 'e']
  | .bool false => ['f', 'a', 'l', 's', 'e']
  | .number l => l.render
  | .string s => renderString (s.getD "")
  | .array items => '[' :: renderItems items ++ [']']
  | .object members _ => '\x7b' :: renderMembers members ++ ['\x7d']

def renderItems : List Json → List Char
  | [] => []
  | [j] => j.renderChars
  | j :: js => j.renderChars ++ ',' :: renderItems js

def renderMembers : List (Option String × Json) → List Char
  | [] => []
  | [(k, j)] => renderString (k.getD "") ++ ':' :: j.renderChars
  | (k, j) :: ms => renderString (k.getD "") ++ ':' :: j.renderChars ++ ',' :: renderMembers ms

end

def render (j : Json) : String := String.ofList j.renderChars

end RecordQuery.Json
