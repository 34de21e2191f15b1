import RecordQuery.Declaration.Token

namespace RecordQuery.Declaration

structure Nesting where
  angles : Nat := 0
  groups : Nat := 0
  deriving DecidableEq

namespace Nesting

def isOutermost (n : Nesting) : Bool := n.angles == 0 && n.groups == 0

/-- The nesting behind a token. Inside a group of another kind, `<` and `>` may be comparisons
and do not count. -/
def step (n : Nesting) : Token → Nesting
  | .sign '(' | .sign '[' | .sign '\x7b' => { n with groups := n.groups + 1 }
  | .sign ')' | .sign ']' | .sign '\x7d' => { n with groups := n.groups - 1 }
  | .sign '<' => if n.groups = 0 then { n with angles := n.angles + 1 } else n
  | .sign '>' => if n.groups = 0 then { n with angles := n.angles - 1 } else n
  | _ => n

end Nesting

/-- A bracket that is open, with what has been read behind it. The arguments that a comma has ended
are kept apart between angle brackets only. -/
structure OpenBracket where
  sign : Char
  ended : List (List Token)
  last : List Token

namespace OpenBracket

def isAngle (b : OpenBracket) : Bool := b.sign == '<'

def add (b : OpenBracket) (ts : List Token) : OpenBracket := { b with last := b.last ++ ts }

def tokens (b : OpenBracket) : List Token :=
  .sign b.sign :: b.ended.flatMap (· ++ [.sign ',']) ++ b.last

def isLifetime : List Token → Bool
  | [.lifetime _] => true
  | _ => false

def closed (b : OpenBracket) : List Token :=
  let (lifetimes, others) := b.ended.partition isLifetime
  let between := fun (as : List (List Token)) => as.flatMap (· ++ [Token.sign ','])
  .sign b.sign :: between lifetimes
    ++ (if isLifetime b.last && !others.isEmpty then
        b.last ++ [.sign ','] ++ between others
      else between others ++ b.last)
    ++ [.sign '>']

end OpenBracket

structure Arrangement where
  opened : List OpenBracket := []
  finished : List Token := []

namespace Arrangement

def add (a : Arrangement) (ts : List Token) : Arrangement :=
  match a.opened with
  | [] => { a with finished := a.finished ++ ts }
  | b :: bs => { a with opened := b.add ts :: bs }

def step (a : Arrangement) (t : Token) : Arrangement :=
  match t, a.opened with
  | .sign c, opened =>
    if c = '<' ∨ c = '(' ∨ c = '[' ∨ c = '\x7b' then { a with opened := ⟨c, [], []⟩ :: opened }
    else match opened with
      | [] => a.add [t]
      | b :: bs =>
        if b.isAngle then
          if c = ',' then { a with opened := ⟨b.sign, b.ended ++ [b.last], []⟩ :: bs }
          else if c = '>' then add { a with opened := bs } b.closed
          else a.add [t]
        else if c = ')' ∨ c = ']' ∨ c = '\x7d' then add { a with opened := bs } (b.tokens ++ [t])
        else a.add [t]
  | t, _ => a.add [t]

def finish (a : Arrangement) : List Token :=
  a.finished ++ a.opened.reverse.flatMap (·.tokens)

end Arrangement

/-- The tokens of a type with the lifetimes of each argument list in front of its other arguments,
which is the order for writing them out. -/
def lifetimesFirst (ts : List Token) : List Token :=
  (ts.foldl Arrangement.step {}).finish

end RecordQuery.Declaration
