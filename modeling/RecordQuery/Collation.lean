import RecordQuery.Text.Case
import RecordQuery.Text.LatinSpelling
import RecordQuery.Text.Mark
import RecordQuery.Text.NormalForm

namespace RecordQuery

open Text

structure Collation where
  name : String
  compare : String → String → Ordering

def foldChar (c : Char) : List Char :=
  match (if isExtendedLatin c then latinSpelling? c else none) with
  | some s => s.toList
  | none => lowerChar c

def foldedChars (cs : List Char) : List Char :=
  ((decompose cs).filter (!isMark ·)).flatMap foldChar

def foldedKey (s : String) : String := String.ofList (foldedChars s.toList)

def Collation.folded : Collation where
  name := "FoldedCollation"
  compare a b := if a = b then .eq else Ord.compare (foldedKey a) (foldedKey b)

theorem Collation.compare_folded (a b : String) :
    folded.compare a b = Ord.compare (foldedKey a) (foldedKey b) := by
  simp only [folded]
  split
  · rename_i same
    rw [same]
    exact Std.ReflCmp.compare_self.symm
  · rfl

def Collation.ordinal : Collation where
  name := "OrdinalCollation"
  compare := Ord.compare

end RecordQuery
