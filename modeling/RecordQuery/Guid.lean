import RecordQuery.Text.Ascii

namespace RecordQuery

open Text

structure Guid where
  value : BitVec 128
  deriving DecidableEq

namespace Guid

def groups : List Nat := [8, 4, 4, 4, 12]

def ofHex? (cs : List Char) : Option Guid :=
  if cs.length = 32 then
    (cs.mapM hexValue?).map fun ds => ⟨.ofNat 128 (ds.foldl (fun n d => 16 * n + d) 0)⟩
  else none

def joinGroups? : List Nat → List Char → Option (List Char)
  | [], _ => none
  | [n], cs => if cs.length = n then some cs else none
  | n :: ns, cs =>
    match cs.drop n with
    | '-' :: rest => (joinGroups? ns rest).map (cs.take n ++ ·)
    | _ => none

def readHyphenated? (cs : List Char) : Option Guid := (joinGroups? groups cs).bind ofHex?

def unwrap (cs : List Char) : List Char :=
  match cs with
  | '\x7b' :: r => if r.getLast? = some '\x7d' then r.dropLast else cs
  | _ => if (cs.take 9).map lowerAscii = "urn:uuid:".toList then cs.drop 9 else cs

/-- Reads 32 digits, or digits in groups with hyphens between them, then also in braces or behind
`urn:uuid:`. -/
def read? (s : String) : Option Guid :=
  (ofHex? s.toList).or (readHyphenated? (unwrap s.toList))

def hexChars (g : Guid) : List Char :=
  let ds := Nat.toDigits 16 g.value.toNat
  List.replicate (32 - ds.length) '0' ++ ds

def splitGroups : List Nat → List Char → List (List Char)
  | [], _ => []
  | n :: ns, cs => cs.take n :: splitGroups ns (cs.drop n)

def render (g : Guid) : String :=
  String.ofList (List.intercalate ['-'] (splitGroups groups g.hexChars))

def compare (a b : Guid) : Ordering := Ord.compare a.value.toNat b.value.toNat

end Guid

end RecordQuery
