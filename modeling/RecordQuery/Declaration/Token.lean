import RecordQuery.Text.Ascii
import RecordQuery.Text.Blank
import RecordQuery.Text.Identifier
import RecordQuery.Text.Quoted

/-!
Tokens of declarations. Every text has tokens. Blanks and comments between them are dropped, but
documentation is an attribute and has the tokens of one.
-/

namespace RecordQuery.Declaration

open Text

inductive Token
  | word (s : String)
  | lifetime (s : String)
  | literal (s : String)
  | sign (c : Char)
  | join
  | arrow
  deriving DecidableEq

namespace Token

def text : Token → String
  | .word s => s
  | .lifetime s => "'" ++ s
  | .literal s => s
  | .sign c => c.toString
  | .join => "::"
  | .arrow => "->"

/-- The attribute that a piece of documentation stands for. Inner documentation belongs to what it
stands in, and other documentation to what follows it. -/
def documentation (inner : Bool) (cs : List Char) : List Token :=
  .sign '#' :: (if inner then [.sign '!'] else [])
    ++ [.sign '[', .word "doc", .sign '=', .literal (Text.literal (.ofList cs)), .sign ']']

/-- The tokens of a comment that ends with its line, read behind its two slashes. A third slash
makes it documentation, and a fourth an ordinary comment again. -/
def ofLineComment : List Char → List Token
  | '!' :: cs => documentation true cs
  | '/' :: cs => if cs.head? = some '/' then [] else documentation false cs
  | _ => []

/-- The tokens of a comment between its two marks. A second star makes it documentation, and a third
or the end an ordinary comment again. -/
def ofBlockComment : List Char → List Token
  | '!' :: cs => documentation true cs
  | '*' :: c :: cs => if c = '*' then [] else documentation false (c :: cs)
  | _ => []

inductive Mode
  | between
  | word (cs : List Char)
  | number (cs : List Char)
  | quote
  | quoted (c : Char)
  | lifetime (cs : List Char)
  /-- In a literal that ends with `close`; `escaped` behind a backslash. -/
  | delimited (close : Char) (cs : List Char) (escaped : Bool)
  | hashed (mark : List Char) (hashes : Nat)
  /-- In a raw literal, which ends with a quote and as many number signs as it began with; `seen`
  counts those behind the last quote. -/
  | raw (hashes : Nat) (cs : List Char) (seen : Option Nat)
  | colon
  | minus
  | slash
  | lineComment (cs : List Char)
  /-- In a comment with `depth` others inside it still open; `last` may begin one of the two
  marks. -/
  | blockComment (depth : Nat) (cs : List Char) (last : Option Char)

def isSpacing (c : Char) : Bool := isBlank c || c == '\u200e' || c == '\u200f'

def start (c : Char) : List Token × Mode :=
  if isSpacing c then ([], .between)
  else if isIdentifierStart c || c = '_' then ([], .word [c])
  else if isDigit c then ([], .number [c])
  else if c = '\'' then ([], .quote)
  else if c = '"' then ([], .delimited c [c] false)
  else if c = ':' then ([], .colon)
  else if c = '-' then ([], .minus)
  else if c = '/' then ([], .slash)
  else ([.sign c], .between)

def endBefore (c : Char) (ts : List Token) : List Token × Mode := (ts ++ (start c).1, (start c).2)

def isLiteralMark (cs : List Char) : Bool := [['b'], ['c']].contains cs

def isRawMark (cs : List Char) : Bool := [['r'], ['b', 'r'], ['c', 'r']].contains cs

def ofHashed (mark : List Char) (hashes : Nat) : List Token :=
  .word (.ofList mark) :: List.replicate hashes (.sign '#')

def Mode.step (c : Char) : Mode → List Token × Mode
  | .between => start c
  | .word cs =>
    if isIdentifierContinue c then ([], .word (cs ++ [c]))
    else if c = '#' ∧ isRawMark cs then ([], .hashed cs 1)
    else if c = '"' ∧ isRawMark cs then ([], .raw 0 (cs ++ [c]) none)
    else if c = '"' ∧ isLiteralMark cs ∨ c = '\'' ∧ cs = ['b'] then
      ([], .delimited c (cs ++ [c]) false)
    else endBefore c [.word (.ofList cs)]
  | .number cs =>
    if isIdentifierContinue c then ([], .number (cs ++ [c]))
    else endBefore c [.literal (.ofList cs)]
  | .quote =>
    if c = '\\' then ([], .delimited '\'' ['\'', c] true) else ([], .quoted c)
  | .quoted d =>
    if c = '\'' then ([.literal (.ofList ['\'', d, c])], .between)
    else if isIdentifierContinue c ∨ d = 'r' ∧ c = '#' then ([], .lifetime [d, c])
    else endBefore c [.lifetime (.ofList [d])]
  | .lifetime cs =>
    if isIdentifierContinue c then ([], .lifetime (cs ++ [c]))
    else endBefore c [.lifetime (.ofList cs)]
  | .delimited close cs escaped =>
    if escaped then ([], .delimited close (cs ++ [c]) false)
    else if c = close then ([.literal (.ofList (cs ++ [c]))], .between)
    else ([], .delimited close (cs ++ [c]) (c = '\\'))
  | .hashed mark hashes =>
    if c = '#' then ([], .hashed mark (hashes + 1))
    else if c = '"' then ([], .raw hashes (mark ++ List.replicate hashes '#' ++ [c]) none)
    else if mark = ['r'] ∧ hashes = 1 ∧ (isIdentifierStart c ∨ c = '_') then
      ([], .word (mark ++ ['#', c]))
    else endBefore c (ofHashed mark hashes)
  | .raw hashes cs seen =>
    let seen := if c = '"' then some 0 else if c = '#' then seen.map (· + 1) else none
    if seen = some hashes then ([.literal (.ofList (cs ++ [c]))], .between)
    else ([], .raw hashes (cs ++ [c]) seen)
  | .colon => if c = ':' then ([.join], .between) else endBefore c [.sign ':']
  | .minus => if c = '>' then ([.arrow], .between) else endBefore c [.sign '-']
  | .slash =>
    if c = '/' then ([], .lineComment [])
    else if c = '*' then ([], .blockComment 0 [] none)
    else endBefore c [.sign '/']
  | .lineComment cs =>
    if c = '\n' then
      (ofLineComment (if cs.getLast? = some '\r' then cs.dropLast else cs), .between)
    else ([], .lineComment (cs ++ [c]))
  | .blockComment depth cs last =>
    if last = some '/' ∧ c = '*' then ([], .blockComment (depth + 1) (cs ++ [c]) none)
    else if last = some '*' ∧ c = '/' then
      if depth = 0 then (ofBlockComment cs.dropLast, .between)
      else ([], .blockComment (depth - 1) (cs ++ [c]) none)
    else ([], .blockComment depth (cs ++ [c]) (some c))

def Mode.finish : Mode → List Token
  | .between => []
  | .word cs => [.word (.ofList cs)]
  | .number cs => [.literal (.ofList cs)]
  | .quote => [.sign '\'']
  | .quoted c => [.lifetime (.ofList [c])]
  | .lifetime cs => [.lifetime (.ofList cs)]
  | .delimited _ cs _ => [.literal (.ofList cs)]
  | .hashed mark hashes => ofHashed mark hashes
  | .raw _ cs _ => [.literal (.ofList cs)]
  | .colon => [.sign ':']
  | .minus => [.sign '-']
  | .slash => [.sign '/']
  | .lineComment cs => ofLineComment cs
  | .blockComment _ _ _ => []

def scanFrom (mode : Mode) : List Char → List Token
  | [] => mode.finish
  | c :: cs => (mode.step c).1 ++ scanFrom (mode.step c).2 cs

def scan (s : String) : List Token :=
  match s.toList with
  | '\ufeff' :: cs => scanFrom .between cs
  | cs => scanFrom .between cs

def render (ts : List Token) : String := " ".intercalate (ts.map text)

end Token

end RecordQuery.Declaration
