import RecordQuery.Text.Ascii
import RecordQuery.Text.Identifier

namespace RecordQuery.Declaration

open Text

/-- Capitals with an underscore in front of each one that follows a small letter, digit or other
letter without case; only the letters of ASCII change. -/
def capitalized (afterSmall : Bool) : List Char → List Char
  | [] => []
  | c :: cs =>
    if isUppercase c then (if afterSmall then ['_', c] else [c]) ++ capitalized false cs
    else if c = '_' ∨ c = '-' ∨ c = '.' then '_' :: capitalized false cs
    else upperAscii c :: capitalized (isAlphanumeric c) cs

def constantName (property : String) : String :=
  String.ofList (capitalized false property.toList)

def isIdentifier (s : String) : Bool :=
  match s.toList with
  | [] => false
  | c :: cs => (isIdentifierStart c || c == '_') && cs.all isIdentifierContinue

end RecordQuery.Declaration
