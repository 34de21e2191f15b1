import RecordQuery.Declaration.Brackets

namespace RecordQuery.Declaration

inductive TypeArgument
  | type (source : List Token)
  | other (source : List Token)
  deriving DecidableEq

/-- The arguments of a path's last name; `joined` tells that two colons stand in front of them. -/
structure TypeArguments where
  joined : Bool
  items : List TypeArgument
  commaAtEnd : Bool
  deriving DecidableEq

inductive TypeExpr
  | path (qualifier : List Token) (name : String) (arguments : Option TypeArguments)
  | other (source : List Token)
  deriving DecidableEq

namespace TypeArgument

def source : TypeArgument → List Token
  | .type ts => ts
  | .other ts => ts

def hasOutermost (p : Token → Bool) (n : Nesting) : List Token → Bool
  | [] => false
  | t :: ts => (n.isOutermost && p t) || hasOutermost p (n.step t) ts

def isTypeSource : List Token → Bool
  | .lifetime _ :: ts => ts.head? == some (.sign '+')
  | .literal _ :: _ => false
  | .sign '-' :: .literal _ :: _ => false
  | .sign '\x7b' :: _ => false
  | .word "true" :: _ | .word "false" :: _ => false
  | ts => !hasOutermost (fun t => t == .sign '=' || t == .sign ':') {} ts

def ofSource (ts : List Token) : TypeArgument := if isTypeSource ts then .type ts else .other ts

@[simp] theorem source_ofSource (ts : List Token) : (ofSource ts).source = ts := by
  unfold ofSource
  split <;> rfl

end TypeArgument

namespace TypeArguments

def split (n : Nesting) (piece : List Token) :
    List Token → Option (List (List Token) × List Token)
  | [] => none
  | t :: ts =>
    if n.isOutermost ∧ t = .sign '>' then some ([piece], ts)
    else if n.isOutermost ∧ t = .sign ',' then
      (split {} [] ts).map fun (pieces, rest) => (piece :: pieces, rest)
    else split (n.step t) (piece ++ [t]) ts

theorem split_eq {n : Nesting} {piece ts : List Token} {pieces : List (List Token)}
    {rest : List Token} (h : split n piece ts = some (pieces, rest)) :
    pieces ≠ [] ∧ [Token.sign ','].intercalate pieces ++ .sign '>' :: rest = piece ++ ts := by
  fun_induction split n piece ts generalizing pieces with
  | case1 => simp at h
  | case2 n piece t ts ht =>
    simp only [Option.some.injEq, Prod.mk.injEq] at h
    obtain ⟨rfl, rfl⟩ := h
    simp [ht.2]
  | case3 n piece t ts _ ht ih =>
    obtain ⟨⟨qs, r⟩, hq, he⟩ := Option.map_eq_some_iff.1 h
    simp only [Prod.mk.injEq] at he
    obtain ⟨rfl, rfl⟩ := he
    obtain ⟨hne, hj⟩ := ih hq
    refine ⟨by simp, ?_⟩
    rw [List.intercalate_cons_of_ne_nil hne, ht.2]
    simpa using hj
  | case4 n piece t ts _ _ ih =>
    obtain ⟨hne, hj⟩ := ih h
    exact ⟨hne, by simpa using hj⟩

theorem length_of_split {n : Nesting} {ts : List Token} {pieces : List (List Token)}
    {rest : List Token} (h : split n [] ts = some (pieces, rest)) : rest.length < ts.length := by
  have cut := congrArg List.length (split_eq h).2
  simp only [List.length_append, List.length_cons, List.length_nil] at cut
  omega

def ofPieces (joined : Bool) (pieces : List (List Token)) : TypeArguments :=
  let endsEmpty := pieces.getLast? == some []
  { joined
    items := (if endsEmpty then pieces.dropLast else pieces).map .ofSource
    commaAtEnd := endsEmpty && 1 < pieces.length }

def tokens (a : TypeArguments) : List Token :=
  (if a.joined then [.join] else []) ++ [.sign '<']
    ++ [Token.sign ','].intercalate (a.items.map (·.source))
    ++ (if a.commaAtEnd then [.sign ','] else []) ++ [.sign '>']

theorem intercalate_concat_nil {sep : List Token} (pieces : List (List Token)) :
    sep.intercalate (pieces ++ [[]]) =
      sep.intercalate pieces ++ if pieces.isEmpty then [] else sep := by
  induction pieces with
  | nil => simp
  | cons p ps ih =>
    cases ps with
    | nil => simp [List.intercalate_cons_cons]
    | cons q qs =>
      simp only [List.cons_append] at ih ⊢
      rw [List.intercalate_cons_cons, List.intercalate_cons_cons, ih]
      simp

theorem tokens_ofPieces (joined : Bool) (pieces : List (List Token)) :
    (ofPieces joined pieces).tokens = (if joined then [.join] else []) ++ .sign '<' ::
      [Token.sign ','].intercalate pieces ++ [.sign '>'] := by
  have same (qs : List (List Token)) : (qs.map TypeArgument.ofSource).map (·.source) = qs := by
    simp [Function.comp_def]
  by_cases h : pieces.getLast? = some []
  · obtain ⟨ys, rfl⟩ := List.getLast?_eq_some_iff.1 h
    simp only [tokens, ofPieces, List.getLast?_concat, List.dropLast_concat, BEq.rfl, if_true, same,
      intercalate_concat_nil]
    cases ys <;> simp
  · simp [tokens, ofPieces, h, Function.comp_def]

end TypeArguments

namespace TypeExpr

def tokens : TypeExpr → List Token
  | .path qualifier name arguments =>
    qualifier ++ [.word name] ++ (arguments.map (·.tokens)).getD []
  | .other ts => ts

def opening? : List Token → Option (Bool × List Token)
  | .sign '<' :: rest => some (false, rest)
  | .join :: .sign '<' :: rest => some (true, rest)
  | _ => none

theorem tokens_of_opening {ts rest : List Token} {joined : Bool}
    (h : opening? ts = some (joined, rest)) :
    ts = (if joined then [.join] else []) ++ .sign '<' :: rest := by
  unfold opening? at h
  split at h
  · cases h
    rfl
  · cases h
    rfl
  · simp at h

theorem length_of_opening {ts rest : List Token} {joined : Bool}
    (h : opening? ts = some (joined, rest)) : rest.length < ts.length := by
  rw [tokens_of_opening h]
  simp only [List.length_append, List.length_cons]
  omega

def readPath? (qualifier : List Token) : List Token → Option TypeExpr
  | .word name :: ts =>
    match ho : opening? ts with
    | none =>
      match ts with
      | [] => some (.path qualifier name none)
      | .join :: rest => readPath? (qualifier ++ [.word name, .join]) rest
      | _ => none
    | some (joined, rest) =>
      match hs : TypeArguments.split {} [] rest with
      | none => none
      | some (pieces, after) =>
        let arguments := TypeArguments.ofPieces joined pieces
        match after with
        | [] => some (.path qualifier name (some arguments))
        | .join :: later =>
          readPath? (qualifier ++ [.word name] ++ arguments.tokens ++ [.join]) later
        | _ => none
  | _ => none
termination_by ts => ts.length
decreasing_by
  · simp only [List.length_cons]
    omega
  · have opened := length_of_opening ho
    have cut := TypeArguments.length_of_split hs
    simp only [List.length_cons] at *
    omega

theorem tokens_readPath {qualifier ts : List Token} {e : TypeExpr}
    (h : readPath? qualifier ts = some e) : e.tokens = qualifier ++ ts := by
  fun_induction readPath? qualifier ts with
  | case1 q name ho =>
    cases h
    simp [tokens]
  | case2 q name rest ho ih =>
    rw [ih h]
    simp
  | case3 => simp at h
  | case4 => simp at h
  | case5 q name ts joined rest ho pieces arguments hs =>
    cases h
    have cut : _ = rest := (TypeArguments.split_eq hs).2
    simp [tokens, arguments, TypeArguments.tokens_ofPieces, tokens_of_opening ho, ← cut]
  | case6 q name ts joined rest ho pieces arguments later hs _ ih =>
    have cut : _ = rest := (TypeArguments.split_eq hs).2
    rw [ih h]
    simp [arguments, TypeArguments.tokens_ofPieces, tokens_of_opening ho, ← cut]
  | case7 => simp at h
  | case8 => simp at h

def ofTokens (ts : List Token) : TypeExpr :=
  (match ts with
    | .join :: rest => readPath? [.join] rest
    | _ => readPath? [] ts).getD (.other ts)

/-- Reading loses no token. -/
theorem tokens_ofTokens (ts : List Token) : (ofTokens ts).tokens = ts := by
  unfold ofTokens
  split
  · next rest =>
    cases h : readPath? [.join] rest with
    | none => rfl
    | some e => simp [tokens_readPath h]
  · cases h : readPath? [] ts with
    | none => rfl
    | some e => simp [tokens_readPath h]

/-- The type inside an optional one: the only argument, if a type, of a path to `Option`. -/
def optional? : TypeExpr → Option (List Token)
  | .path _ "Option" (some { items := [.type inner], .. }) => some inner
  | _ => none

end TypeExpr

end RecordQuery.Declaration
