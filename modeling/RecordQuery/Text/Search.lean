namespace RecordQuery.Text

def occursIn (needle : List Char) : List Char → Bool
  | [] => needle.isEmpty
  | c :: cs => needle.isPrefixOf (c :: cs) || occursIn needle cs

theorem occursIn_iff {needle cs : List Char} : occursIn needle cs = true ↔ needle <:+: cs := by
  induction cs with
  | nil => simp [occursIn]
  | cons c cs ih =>
    simp [occursIn, ih, List.infix_cons_iff]

def contains (s needle : String) : Bool := occursIn needle.toList s.toList

def startsWith (s needle : String) : Bool := needle.toList.isPrefixOf s.toList

def endsWith (s needle : String) : Bool := needle.toList.isSuffixOf s.toList

end RecordQuery.Text
