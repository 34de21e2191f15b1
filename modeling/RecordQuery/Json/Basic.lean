import RecordQuery.Json.Token

/-!
JSON documents as trees. A tree also stands for text that is not JSON: it records how far the text
goes, so that whoever reads a tree in the order of its text meets the first fault first.
-/

namespace RecordQuery

open Json (NumberLiteral Token)

/-- A value. A string is missing where it would hold half a surrogate pair. An object keeps its
members in order; it is not `closed` where something else follows them than its end. -/
inductive Json
  | broken
  | null
  | bool (b : Bool)
  | number (l : NumberLiteral)
  | string (s : Option String)
  | array (items : List Json)
  | object (members : List (Option String × Json)) (closed : Bool)

namespace Json

def text (s : String) : Json := .string (some s)

def natural (n : Nat) : Json := .number (.ofNat n)

def ofMembers (members : List (String × Json)) : Json :=
  .object (members.map fun (k, v) => (some k, v)) true

mutual

def isWhole : Json → Bool
  | .broken => false
  | .array items => areWhole items
  | .object members closed => closed && haveWhole members
  | _ => true

def areWhole : List Json → Bool
  | [] => true
  | j :: js => j.isWhole && areWhole js

def haveWhole : List (Option String × Json) → Bool
  | [] => true
  | (_, j) :: ms => j.isWhole && haveWhole ms

end

inductive Frame
  | array (items : List Json)
  | object (members : List (Option String × Json)) (key : Option String)

def Frame.close (j : Json) : Frame → Json
  | .array items => .array (items ++ [j])
  | .object members key => .object (members ++ [(key, j)]) true

def abandon (stack : List Frame) (j : Json) : Json := stack.foldl (fun j f => f.close j) j

inductive Awaiting
  | value (stack : List Frame)
  | firstItem (stack : List Frame)
  | firstName (stack : List Frame)
  | name (stack : List Frame) (members : List (Option String × Json))
  | colon (stack : List Frame) (members : List (Option String × Json)) (key : Option String)
  | after (stack : List Frame) (j : Json)
  | nothing (root : Json)

namespace Awaiting

def readValue (stack : List Frame) : Token → Awaiting
  | .null => .after stack .null
  | .bool b => .after stack (.bool b)
  | .number l => .after stack (.number l)
  | .string s => .after stack (.string s)
  | .leftBracket => .firstItem stack
  | .leftBrace => .firstName stack
  | _ => .nothing (abandon stack .broken)

def readName (stack : List Frame) (members : List (Option String × Json)) : Token → Awaiting
  | .string s => .colon stack members s
  | _ => .nothing (abandon stack (.object members false))

def step : Awaiting → Token → Awaiting
  | .value stack, t => readValue stack t
  | .firstItem stack, .rightBracket => .after stack (.array [])
  | .firstItem stack, t => readValue (.array [] :: stack) t
  | .firstName stack, .rightBrace => .after stack (.object [] true)
  | .firstName stack, t => readName stack [] t
  | .name stack members, t => readName stack members t
  | .colon stack members key, .colon => .value (.object members key :: stack)
  | .colon stack members key, _ =>
    .nothing (abandon stack (.object (members ++ [(key, .broken)]) true))
  | .after (.array items :: stack) j, .comma => .value (.array (items ++ [j]) :: stack)
  | .after (.array items :: stack) j, .rightBracket => .after stack (.array (items ++ [j]))
  | .after (.array items :: stack) j, _ =>
    .nothing (abandon stack (.array (items ++ [j, .broken])))
  | .after (.object members key :: stack) j, .comma => .name stack (members ++ [(key, j)])
  | .after (.object members key :: stack) j, .rightBrace =>
    .after stack (.object (members ++ [(key, j)]) true)
  | .after (.object members key :: stack) j, _ =>
    .nothing (abandon stack (.object (members ++ [(key, j)]) false))
  | .after [] j, _ => .nothing j
  | .nothing root, _ => .nothing root

end Awaiting

structure Document where
  root : Json
  complete : Bool

def Awaiting.finish : Awaiting → Document
  | .after [] j => ⟨j, true⟩
  | .nothing root => ⟨root, false⟩
  | s =>
    match s.step .broken with
    | .nothing root => ⟨root, false⟩
    | _ => ⟨.broken, false⟩

def ofTokens (ts : List Token) : Document := (ts.foldl Awaiting.step (.value [])).finish

def parse (s : String) : Document := ofTokens (tokens s.toList)

end Json

end RecordQuery
