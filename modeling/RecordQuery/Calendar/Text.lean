import RecordQuery.Calendar.DateTime
import RecordQuery.Number.Power
import RecordQuery.Text.Blank
import RecordQuery.Text.Digits

namespace RecordQuery

open Text

def readNumber? (least most : Nat) (cs : List Char) : Option (Nat × List Char) :=
  let ds := (cs.take most).takeWhile isDigit
  if ds.length < least then none else some (digitsValue ds, cs.drop ds.length)

def readChar? (c : Char) : List Char → Option (List Char)
  | d :: cs => if c = d then some cs else none
  | [] => none

def readNanos? (cs : List Char) : Option (Nat × List Char) :=
  let ds := cs.takeWhile isDigit
  let used := ds.take 9
  if ds.isEmpty then none
  else some (digitsValue used * tenTo (9 - used.length), cs.drop ds.length)

def readFraction? : List Char → Option (Nat × List Char)
  | '.' :: cs => readNanos? cs
  | cs => some (0, cs)

structure Reading where
  year : Int := 0
  month : Nat := 1
  day : Nat := 1
  hour : Nat := 0
  minute : Nat := 0
  second : Nat := 0
  nano : Nat := 0

def Reading.date? (r : Reading) : Option Date :=
  if -262143 ≤ r.year ∧ r.year ≤ 262142 then Date.make? r.year r.month r.day else none

def Reading.dateTime? (r : Reading) : Option DateTime := do
  let date ← r.date?
  let clock ← Clock.make? r.hour r.minute r.second r.nano
  return ⟨date, clock⟩

inductive PatternItem
  | year
  | month
  | day
  | hour
  | minute
  | second
  | fraction
  | mark (c : Char)
  | blanks

/-- Reads a year: up to four digits, or a sign and any number of digits. -/
def readYear? (cs : List Char) : Option (Int × List Char) :=
  match cs with
  | '-' :: r => (readNumber? 1 r.length r).map fun (n, rest) => (-n, rest)
  | '+' :: r => (readNumber? 1 r.length r).map fun (n, rest) => (n, rest)
  | _ => (readNumber? 1 4 cs).map fun (n, rest) => (n, rest)

/-- Reads one item. Numbers look past blanks in front of them. -/
def PatternItem.read? (r : Reading) (cs : List Char) : PatternItem → Option (Reading × List Char)
  | .year => (readYear? (cs.dropWhile isBlank)).map fun (n, rest) => ({ r with year := n }, rest)
  | .month => (two cs).map fun (n, rest) => ({ r with month := n }, rest)
  | .day => (two cs).map fun (n, rest) => ({ r with day := n }, rest)
  | .hour => (two cs).map fun (n, rest) => ({ r with hour := n }, rest)
  | .minute => (two cs).map fun (n, rest) => ({ r with minute := n }, rest)
  | .second => (two cs).map fun (n, rest) => ({ r with second := n }, rest)
  | .fraction => (readFraction? cs).map fun (n, rest) => ({ r with nano := n }, rest)
  | .mark c => (readChar? c cs).map (r, ·)
  | .blanks => some (r, cs.dropWhile isBlank)
where
  two (cs : List Char) : Option (Nat × List Char) := readNumber? 1 2 (cs.dropWhile isBlank)

def readPattern? (r : Reading) : List PatternItem → List Char → Option Reading
  | [], [] => some r
  | [], _ :: _ => none
  | item :: items, cs => (item.read? r cs).bind fun (r, rest) => readPattern? r items rest

def datePattern : List PatternItem := [.year, .mark '-', .month, .mark '-', .day]

def dateTimePatterns : List (List PatternItem) := [
  datePattern ++ [.mark 'T', .hour, .mark ':', .minute, .mark ':', .second, .fraction],
  datePattern ++ [.blanks, .hour, .mark ':', .minute, .mark ':', .second, .fraction],
  datePattern ++ [.mark 'T', .hour, .mark ':', .minute],
  datePattern ++ [.blanks, .hour, .mark ':', .minute]]

def readOffset? : List Char → Option (Int × List Char)
  | 'Z' :: cs => some (0, cs)
  | 'z' :: cs => some (0, cs)
  | '+' :: cs => amount? cs
  | '-' :: cs => (amount? cs).map fun (m, rest) => (-m, rest)
  | '−' :: cs => (amount? cs).map fun (m, rest) => (-m, rest)
  | _ => none
where
  amount? (cs : List Char) : Option (Int × List Char) := do
    let (hours, cs) ← readNumber? 2 2 cs
    let cs ← readChar? ':' cs
    let (minutes, cs) ← readNumber? 2 2 cs
    if hours < 24 ∧ minutes < 60 then some (60 * hours + minutes, cs) else none

def readTimestamp? (cs : List Char) : Option DateTime := do
  let (year, cs) ← readNumber? 4 4 cs
  let cs ← readChar? '-' cs
  let (month, cs) ← readNumber? 2 2 cs
  let cs ← readChar? '-' cs
  let (day, cs) ← readNumber? 2 2 cs
  let cs ← match cs with
    | 'T' :: r => some r
    | 't' :: r => some r
    | ' ' :: r => some r
    | _ => none
  let (hour, cs) ← readNumber? 2 2 cs
  let cs ← readChar? ':' cs
  let (minute, cs) ← readNumber? 2 2 cs
  let cs ← readChar? ':' cs
  let (second, cs) ← readNumber? 2 2 cs
  let (nano, cs) ← readFraction? cs
  let (offset, cs) ← readOffset? cs
  if cs.isEmpty then
    let t ← Reading.dateTime? ⟨year, month, day, hour, minute, second, nano⟩
    return t.minusMinutes offset
  else none

def Date.readChars? (cs : List Char) : Option Date :=
  (readPattern? {} datePattern cs).bind (·.date?)

def Date.read? (s : String) : Option Date := Date.readChars? s.toList

def readLocal? (cs : List Char) : Option DateTime :=
  dateTimePatterns.findSome? fun p => (readPattern? {} p cs).bind (·.dateTime?)

/-- Reads a timestamp with an offset, a date with a time of day, or a date alone, which stands for
its midnight. -/
def DateTime.read? (s : String) : Option DateTime :=
  let cs := s.toList
  (readTimestamp? cs).or ((readLocal? cs).or ((Date.readChars? cs).map .startOf))

def yearChars (year : Int) : List Char :=
  if 0 ≤ year ∧ year ≤ 9999 then padded 4 year.toNat
  else (if year < 0 then '-' else '+') :: padded 4 year.natAbs

def Date.renderChars (d : Date) : List Char :=
  yearChars d.year ++ '-' :: padded 2 d.month ++ '-' :: padded 2 d.day

def fractionChars (nano : Nat) : List Char :=
  if nano = 0 then []
  else if nano % 1000000 = 0 then '.' :: padded 3 (nano / 1000000)
  else if nano % 1000 = 0 then '.' :: padded 6 (nano / 1000)
  else '.' :: padded 9 nano

def Clock.renderChars (c : Clock) : List Char :=
  padded 2 c.hour ++ ':' :: padded 2 c.minute ++ ':' :: padded 2 c.second ++ fractionChars c.nano

def DateTime.renderChars (t : DateTime) : List Char :=
  t.date.renderChars ++ 'T' :: t.clock.renderChars

def Date.render (d : Date) : String := String.ofList d.renderChars

def DateTime.render (t : DateTime) : String := String.ofList t.renderChars

end RecordQuery
