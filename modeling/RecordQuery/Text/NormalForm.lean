import RecordQuery.Text.CombiningClass
import RecordQuery.Text.Decomposition

/-!
Canonical decomposition (normal form D): every character is taken apart, then marks after one base
letter are put in the order of their classes.
-/

namespace RecordQuery.Text

def hangulParts (n : Nat) : List Nat :=
  let i := n - 0xAC00
  let open_ := [0x1100 + i / 588, 0x1161 + i % 588 / 28]
  if i % 28 = 0 then open_ else open_ ++ [0x11A7 + i % 28]

def decomposeChar (c : Char) : List Char :=
  let n := c.toNat
  if n < 0xC0 then [c]
  else if 0xAC00 ≤ n ∧ n ≤ 0xD7A3 then (hangulParts n).map Char.ofNat
  else match decomposition? n with
    | some parts => parts.map Char.ofNat
    | none => [c]

/-- Puts a character in front of ordered text, behind the marks of lower class that open it. -/
def placeMark (c : Char) : List Char → List Char
  | [] => [c]
  | d :: ds =>
    if 0 < combiningClass d ∧ combiningClass d < combiningClass c then d :: placeMark c ds
    else c :: d :: ds

def orderMarks : List Char → List Char
  | [] => []
  | c :: cs => placeMark c (orderMarks cs)

def decompose (cs : List Char) : List Char := orderMarks (cs.flatMap decomposeChar)

end RecordQuery.Text
