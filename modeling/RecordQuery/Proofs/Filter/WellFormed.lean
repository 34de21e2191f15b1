import RecordQuery.Proofs.Condition.Operators
import RecordQuery.Proofs.Filter.Grouping
import RecordQuery.Proofs.Schema.Path

namespace RecordQuery

def Operator.comparisons : List Operator := [.eq, .ne, .gt, .gte, .lt, .lte]

inductive Test.Fits : Test → FieldType → Prop
  | null {type} : Fits .null type
  | nullOrEmpty : Fits .nullOrEmpty .string
  | compare {op c type} : op ∈ Operator.comparisons → c.ReadsAs type →
      (type = .dateTime → op ∈ [Operator.gt, .gte, .lt, .lte]) → Fits (.compare op c) type
  | compareDate {op d} : op ∈ Operator.comparisons → Fits (.compareDate op d) .dateTime
  | text {op needle mode} : needle ≠ "" → Fits (.text op needle mode) .string

structure RecordType.Clause (t : RecordType) (path : List String) (test : Test) : Prop where
  ne_nil : path ≠ []
  fits : ∃ p, t.property (joinPath path) = .ok p ∧ p.path = path ∧ test.Fits p.type

namespace Predicate

inductive Proper (ok : List String → Test → Prop) : Predicate → Prop
  | never : Proper ok .never
  | clause {path test} : ok path test → Proper ok (.clause path test)
  | all {ps} : 2 ≤ ps.length → (∀ p ∈ ps, Proper ok p) → Proper ok (.all ps)
  | any {ps} : 2 ≤ ps.length → (∀ p ∈ ps, Proper ok p) → Proper ok (.any ps)
  | not {p} : Proper ok p → Proper ok (.not p)

inductive HasClause (path : List String) (test : Test) : Predicate → Prop
  | here : HasClause path test (.clause path test)
  | all {ps p} : p ∈ ps → HasClause path test p → HasClause path test (.all ps)
  | any {ps p} : p ∈ ps → HasClause path test p → HasClause path test (.any ps)
  | not {p} : HasClause path test p → HasClause path test (.not p)

variable {ok : List String → Test → Prop} {q : Predicate}

theorem Proper.of_hasClause {path : List String} {test : Test} (h : q.HasClause path test)
    (proper : q.Proper ok) : ok path test := by
  induction h with
  | here =>
    cases proper with
    | clause h => exact h
  | all mem _ ih =>
    cases proper with
    | all _ h => exact ih (h _ mem)
  | any mem _ ih =>
    cases proper with
    | any _ h => exact ih (h _ mem)
  | not _ ih =>
    cases proper with
    | not h => exact ih h

theorem proper_combine? {logic : Logic} {ps : List Predicate} (proper : ∀ p ∈ ps, p.Proper ok)
    (h : logic.combine? ps = some q) : q.Proper ok := by
  match ps with
  | [] => cases h
  | [_] =>
    cases h
    exact proper _ (by simp)
  | p :: p' :: ps =>
    cases logic with
    | and =>
      cases h
      exact .all (by simp) proper
    | or =>
      cases h
      exact .any (by simp) proper

end Predicate

theorem Text.lowerChar_ne_nil (c : Char) : lowerChar c ≠ [] := by
  simp only [lowerChar]
  split <;> simp

theorem Text.lower_ne_empty {s : String} (h : s ≠ "") : lower s ≠ "" := by
  intro empty
  have chars : lowerChars s.toList = [] := by simpa using congrArg String.toList empty
  cases hs : s.toList with
  | nil => exact h (String.toList_inj.1 hs)
  | cons c cs =>
    rw [hs, lowerChars, lowerAfter] at chars
    have first := (List.append_eq_nil_iff.1 chars).1
    split at first
    · split at first <;> cases first
    · exact lowerChar_ne_nil c first

theorem TextMatch.prepare_ne_empty {mode : TextMatch} {s : String} (h : s ≠ "") :
    mode.prepare s ≠ "" := by
  cases mode with
  | caseInsensitive => exact Text.lower_ne_empty h
  | caseSensitive => exact h

namespace Property

variable {p : Property} {settings : ConditionSettings} {value value2 : Option String}
  {op : Operator} {q : Predicate} {ok : List String → Test → Prop}

theorem fits_equalityTest {c : Scalar} {type : FieldType} (h : c.ReadsAs type)
    (equality : op = .eq ∨ op = .ne) : (equalityTest op c).Fits type := by
  have mem : op ∈ Operator.comparisons := by rcases equality with rfl | rfl <;> decide
  by_cases date : type = .dateTime
  · subst date
    cases h
    exact .compareDate mem
  · rw [equalityTest_of_ne h date]
    exact .compare mem h fun e => absurd e date

theorem fits_compare_order {c : Scalar} {type : FieldType}
    (order : op ∈ [Operator.gt, .gte, .lt, .lte]) (h : c.ReadsAs type) :
    (Test.compare op c).Fits type := by
  refine .compare ?_ h fun _ => order
  simp only [List.mem_cons, List.not_mem_nil, or_false] at order
  rcases order with rfl | rfl | rfl | rfl <;> decide

theorem labelPredicate_eq (e : EnumType) (labels : Labels) (needle : String) :
    p.labelPredicate e labels needle =
      (Logic.or.combine? ((e.search labels needle).map fun n =>
        p.clause (.compare .eq (.member n)))).getD .never := by
  simp only [labelPredicate]
  cases (e.search labels needle).map fun n => p.clause (.compare .eq (.member n)) with
  | nil => rfl
  | cons _ qs => cases qs <;> rfl

section

variable (fitting : ∀ test : Test, test.Fits p.type → ok p.path test)

include fitting

theorem proper_clause {test : Test} (h : test.Fits p.type) : (p.clause test).Proper ok :=
  .clause (fitting test h)

theorem proper_nullPredicate (op : Operator) : (p.nullPredicate op).Proper ok := by
  have test : (p.clause (if p.type.isString then .nullOrEmpty else .null)).Proper ok := by
    split
    · rename_i string
      exact proper_clause fitting (FieldType.isString_iff.1 string ▸ .nullOrEmpty)
    · exact proper_clause fitting .null
  simp only [nullPredicate]
  split
  · exact .not test
  · exact test

theorem proper_labelPredicate {e : EnumType} (type : p.type = .enum e) (labels : Labels)
    (needle : String) : (p.labelPredicate e labels needle).Proper ok := by
  rw [labelPredicate_eq]
  cases found : Logic.or.combine? _ with
  | none => exact .never
  | some q =>
    refine Predicate.proper_combine? ?_ found
    intro q' member
    obtain ⟨n, hn, rfl⟩ := List.mem_map.1 member
    obtain ⟨v, hv, rfl⟩ := EnumType.exists_mem_of_mem_search hn
    exact proper_clause fitting
      (.compare (by decide) (type ▸ .member hv) fun date => by rw [type] at date; cases date)

theorem proper_textPredicate (type : p.type = .string) {s : String} (some : s ≠ "")
    (op : Operator) (mode : TextMatch) : (p.textPredicate op s mode).Proper ok := by
  have test (o : TextOperator) : (p.clause (.text o (mode.prepare s) mode)).Proper ok :=
    proper_clause fitting (type ▸ .text (TextMatch.prepare_ne_empty some))
  have negation : (Predicate.any [p.clause .null,
      .not (p.clause (.text .contains (mode.prepare s) mode))]).Proper ok :=
    .any (Nat.le_refl 2) (by simpa using ⟨proper_clause fitting .null, .not (test .contains)⟩)
  cases op <;> first | exact test _ | exact negation

theorem proper_rangePredicate {low high : Scalar} (first : low.ReadsAs p.type)
    (second : high.ReadsAs p.type) (op : Operator) :
    (p.rangePredicate op low high).Proper ok := by
  have least : (p.clause (.compare .gte low)).Proper ok :=
    proper_clause fitting (fits_compare_order (by decide) first)
  have most : (p.clause (.compare .lte high)).Proper ok :=
    proper_clause fitting (fits_compare_order (by decide) second)
  have range : (Predicate.all [p.clause (.compare .gte low),
      p.clause (.compare .lte high)]).Proper ok :=
    .all (Nat.le_refl 2) (by simpa using ⟨least, most⟩)
  simp only [rangePredicate]
  split
  · exact .not range
  · exact range

theorem proper_of_built (h : p.Built settings value value2 op q) : q.Proper ok := by
  cases h with
  | null => exact proper_nullPredicate fitting op
  | label _ type => exact proper_labelPredicate fitting type _ _
  | text _ type _ some => exact proper_textPredicate fitting type some op _
  | eq _ operand => exact proper_clause fitting (fits_equalityTest operand.readsAs (.inl rfl))
  | ne operand =>
    have test := proper_clause fitting (fits_equalityTest operand.readsAs (.inr rfl))
    exact .any (Nat.le_refl 2) (by simpa using ⟨test, proper_clause fitting .null⟩)
  | range _ _ first second => exact proper_rangePredicate fitting first.readsAs second.readsAs op
  | order ordering single _ operand =>
    have mem : op ∈ [Operator.gt, .gte, .lt, .lte] := by
      cases op <;> simp [Operator.isOrdering, Operator.isRange] at ordering single ⊢
    exact proper_clause fitting (fits_compare_order mem operand.readsAs)

end

end Property

theorem RecordType.clause_of_fits {t : RecordType} {path : String} {p : Property} {test : Test}
    (h : t.property path = .ok p) (fits : test.Fits p.type) : t.Clause p.path test where
  ne_nil := path_ne_nil_of_property h
  fits := ⟨p, by rw [dotted_of_property h, h], rfl, fits⟩

theorem Condition.proper_of_compile {c : Condition} {type : RecordType}
    {settings : ConditionSettings} {q : Predicate} (h : c.compile type settings = .ok q) :
    q.Proper type.Clause := by
  obtain ⟨p, op, found, -, built⟩ := built_of_compile h
  exact Property.proper_of_built (fun _ => RecordType.clause_of_fits found) built

namespace Filter

theorem proper_compile (type : RecordType) (settings : ConditionSettings)
    (conditions : List Condition) :
    (compile type settings conditions).predicate = .always ∨
      (compile type settings conditions).predicate.Proper type.Clause := by
  have read := Progress.hasRead_foldl (f := (·.compile type settings)) conditions.zipIdx
  simp only [compile, Progress.filter]
  cases found : Logic.and.combine? _ with
  | none => exact .inl rfl
  | some q =>
    refine .inr (Predicate.proper_combine? ?_ found)
    intro q' member
    obtain ⟨g, hg, joined⟩ := List.mem_filterMap.1 member
    refine Predicate.proper_combine? ?_ joined
    intro p hp
    -- what a group joins was compiled from conditions of the list
    rw [read.groups g hg, List.zipIdx_map_fst, mem_predicates_ofConditions] at hp
    obtain ⟨c, -, -, compiled⟩ := hp
    exact Condition.proper_of_compile compiled

/-- A compiled filter is `always` or has it nowhere, joins two parts at least by each connective,
and tests each property in a way that fits its type. On a record that conforms to its schema, a
value can be compared unless it is null or not a number. -/
theorem wellFormed_compile (type : RecordType) (settings : ConditionSettings)
    (conditions : List Condition) :
    ((compile type settings conditions).predicate = .always ∨
      (compile type settings conditions).predicate.Proper type.Clause) ∧
    ∀ r, type.Conforms r → ∀ path op c,
      (compile type settings conditions).predicate.HasClause path (.compare op c) →
      Value.order? (Record.read r path) c = none →
        (Record.read r path).isNull ∨ (Record.read r path).isNaN := by
  have proper := proper_compile type settings conditions
  refine ⟨proper, ?_⟩
  intro r conforms path op c clause incomparable
  rcases proper with always | proper
  · rw [always] at clause
    cases clause
  · obtain ⟨-, p, found, rfl, fits⟩ := proper.of_hasClause clause
    cases fits with
    | compare _ reads =>
      have typed := RecordType.hasType_of_property found conforms
      simpa [Value.sortsLast] using Value.sortsLast_of_order?_eq_none typed reads incomparable

theorem wellFormed_compile_price :
    let type : RecordType := ⟨fun _ => ⟨"Item", [⟨"price", .float, false⟩]⟩, 0⟩
    let filter := compile type ⟨.declared, .caseInsensitive⟩
      [⟨"price", "GT", some "1.5", none, none⟩]
    let item : Record := [("price", .scalar (.number (.float .nan)))]
    let bound : Scalar := .number (.float ⟨0x3FF8000000000000⟩)
    type.Conforms item ∧ filter.predicate.HasClause ["price"] (.compare .gt bound) ∧
      Value.order? (item.read ["price"]) bound = none ∧
      ((item.read ["price"]).isNull ∨ (item.read ["price"]).isNaN) := by
  intro type filter item bound
  have conforms : type.Conforms item := by
    refine .mk ?_ ?_
    · intro name f found
      obtain ⟨rfl, rfl⟩ := Schema.eq_of_field?_singleton found
      exact .float
    · intro name f next inner found nested
      obtain ⟨rfl, rfl⟩ := Schema.eq_of_field?_singleton found
      cases nested
  have clause : filter.predicate.HasClause ["price"] (.compare .gt bound) := .here
  have incomparable : Value.order? (item.read ["price"]) bound = none := rfl
  exact ⟨conforms, clause, incomparable,
    (wellFormed_compile type _ _).2 item conforms _ _ _ clause incomparable⟩

end Filter

end RecordQuery
