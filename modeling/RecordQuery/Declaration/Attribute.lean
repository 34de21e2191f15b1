/-!
Attributes of fields and variants. The first `filter` attribute tells what becomes of a field or
variant; the others are left alone.
-/

namespace RecordQuery.Declaration

/-- A path of words; `rooted` if it starts with two colons. -/
structure WordPath where
  rooted : Bool
  words : List String
  deriving DecidableEq

inductive Setting
  | text (s : String)
  | other
  deriving DecidableEq

inductive AttributeArgument
  | path (p : WordPath)
  | set (p : WordPath) (value : Setting)
  | call (p : WordPath)
  deriving DecidableEq

structure Attribute where
  path : WordPath
  arguments : Option (List AttributeArgument)
  deriving DecidableEq

inductive FieldKind
  | string
  | int
  | float
  | decimal
  | guid
  | dateTime
  | enum
  | bool
  | record
  deriving DecidableEq

inductive AttributeFault
  | argumentsMissing
  | reservedWord (word : String)
  | wordMissing
  | unknownKind (name : String)
  | kindMissing
  | textMissing (setting : String)
  | unknownFieldSetting
  | unknownFieldArgument
  | unknownVariantArgument
  deriving DecidableEq

structure FieldMarks where
  kind : Option FieldKind := none
  skipped : Bool := false
  rename : Option String := none
  deriving DecidableEq

structure VariantMarks where
  label : Option String := none
  rename : Option String := none
  deriving DecidableEq

namespace WordPath

def isWord (p : WordPath) (word : String) : Bool := !p.rooted && p.words == [word]

def word? (p : WordPath) : Option String :=
  match p with
  | ⟨false, [word]⟩ => some word
  | _ => none

def reserved : List String :=
  ["_", "abstract", "as", "async", "await", "become", "box", "break", "const", "continue", "do",
    "dyn", "else", "enum", "extern", "false", "final", "fn", "for", "if", "impl", "in", "let",
    "loop", "macro", "match", "mod", "move", "mut", "override", "priv", "pub", "ref", "return",
    "static", "struct", "trait", "true", "try", "type", "typeof", "unsized", "use", "virtual",
    "where", "while", "yield"]

/-- A reserved word is named in front of a path, and elsewhere is no word at all. -/
def check (p : WordPath) : Except AttributeFault Unit :=
  match p.words with
  | [] => .ok ()
  | word :: words =>
    if reserved.contains word then .error (.reservedWord word)
    else if words.any reserved.contains then .error .wordMissing
    else .ok ()

end WordPath

namespace AttributeArgument

def wordPath : AttributeArgument → WordPath
  | .path p => p
  | .set p _ => p
  | .call p => p

end AttributeArgument

namespace FieldKind

def read? : String → Option FieldKind
  | "String" | "string" | "str" => some .string
  | "Int" | "int" | "integer" => some .int
  | "Float" | "float" => some .float
  | "Decimal" | "decimal" => some .decimal
  | "Guid" | "guid" | "Uuid" | "uuid" => some .guid
  | "DateTime" | "datetime" | "date" => some .dateTime
  | "Enum" | "enum" | "enumeration" => some .enum
  | "Bool" | "bool" | "boolean" => some .bool
  | "Record" | "record" | "nested" => some .record
  | _ => none

def read (name : String) : Except AttributeFault FieldKind :=
  match read? name with
  | some kind => .ok kind
  | none => .error (.unknownKind name)

end FieldKind

namespace Setting

def read (name : String) : Setting → Except AttributeFault String
  | .text s => .ok s
  | .other => .error (.textMissing name)

end Setting

namespace Attribute

/-- The arguments that count. Their paths are checked before any of them is looked at. -/
def filterArguments (as : List Attribute) : Except AttributeFault (List AttributeArgument) :=
  match as.find? (·.path.isWord "filter") with
  | none => .ok []
  | some a =>
    match a.arguments with
    | none => .error .argumentsMissing
    | some args => do
      args.forM (·.wordPath.check)
      return args

end Attribute

namespace FieldMarks

def add (m : FieldMarks) : AttributeArgument → Except AttributeFault FieldMarks
  | .path p =>
    if p.isWord "skip" then .ok { m with skipped := true }
    else match p.word? with
      | some name => do return { m with kind := some (← FieldKind.read name) }
      | none => .error .kindMissing
  | .set p value =>
    if p.isWord "rename" then do return { m with rename := some (← value.read "rename") }
    else if p.isWord "ty" then do
      return { m with kind := some (← FieldKind.read (← value.read "ty")) }
    else .error .unknownFieldSetting
  | .call _ => .error .unknownFieldArgument

def read (as : List Attribute) : Except AttributeFault FieldMarks := do
  (← Attribute.filterArguments as).foldlM add {}

end FieldMarks

namespace VariantMarks

def add (m : VariantMarks) : AttributeArgument → Except AttributeFault VariantMarks
  | .set p value =>
    if p.isWord "label" then do return { m with label := some (← value.read "label") }
    else if p.isWord "rename" then do return { m with rename := some (← value.read "rename") }
    else .error .unknownVariantArgument
  | _ => .error .unknownVariantArgument

def read (as : List Attribute) : Except AttributeFault VariantMarks := do
  (← Attribute.filterArguments as).foldlM add {}

end VariantMarks

end RecordQuery.Declaration
