import RecordQuery.Proofs.Filter.WellFormed
import RecordQuery.Proofs.Order.Keys
import RecordQuery.Settings

namespace RecordQuery

inductive Value.Agrees : Value → Value → Prop
  | null : Agrees .null .null
  | scalar {s} : Agrees (.scalar s) (.scalar s)
  | record {r r'} : Agrees (.record r) (.record r')

def RecordType.Agree (t : RecordType) (r r' : Record) : Prop :=
  ∀ path p, t.property path = .ok p → (r.read p.path).Agrees (r'.read p.path)

/-- The declared fields of the records agree, and so do those of the records among them; all other
fields are free. -/
inductive Catalog.SameDeclared (catalog : Catalog) : Schema → Record → Record → Prop
  | mk {s r r'} : (∀ name f, s.field? name = some f → (r.get name).Agrees (r'.get name)) →
      (∀ name f next inner inner', s.field? name = some f → f.type = .record next →
        r.get name = .record inner → r'.get name = .record inner' →
        SameDeclared catalog (catalog next) inner inner') →
      SameDeclared catalog s r r'

theorem Catalog.Leads.agrees_read {catalog : Catalog} {s : Schema} {names : List String}
    {p : Property} {r r' : Record} (h : catalog.Leads s names p)
    (same : catalog.SameDeclared s r r') : (r.read names).Agrees (r'.read names) := by
  induction h generalizing r r' with
  | last found =>
    cases same with
    | mk fields => exact fields _ _ found
  | @step s name names f next p found type rest ih =>
    cases same with
    | mk fields records =>
      obtain ⟨_, names, rfl⟩ := List.exists_cons_of_ne_nil rest.ne_nil
      -- the first name decides whether both reads go on or both end at null
      have first := fields _ _ found
      have nested := fun inner inner' => records _ _ _ inner inner' found type
      simp only [Record.read]
      generalize r.get name = v at first nested
      generalize r'.get name = v' at first nested
      cases first with
      | null => exact .null
      | scalar => exact .null
      | record => exact ih (nested _ _ rfl rfl)

theorem RecordType.agree_of_sameDeclared {t : RecordType} {r r' : Record}
    (h : t.catalog.SameDeclared t.schema r r') : t.Agree r r' := by
  intro path p found
  rw [(leads_of_property found).path_eq]
  exact (leads_of_property found).agrees_read h

theorem Value.Agrees.refl (v : Value) : v.Agrees v := by
  cases v <;> constructor

theorem RecordType.Agree.refl (t : RecordType) (r : Record) : t.Agree r r :=
  fun _ p _ => Value.Agrees.refl (r.read p.path)

theorem Test.holds_eq_of_agrees {v w : Value} (h : v.Agrees w) (test : Test) :
    test.holds v = test.holds w := by
  cases h with
  | null => rfl
  | scalar => rfl
  | record => cases test <;> rfl

theorem Predicate.Proper.holds_eq {ok : List String → Test → Prop} {q : Predicate} {r r' : Record}
    (proper : q.Proper ok)
    (same : ∀ path test, ok path test → test.holds (r.read path) = test.holds (r'.read path)) :
    q.holds r = q.holds r' := by
  induction proper with
  | never => rfl
  | clause h => exact same _ _ h
  | all _ _ ih =>
    simp only [holds, holdAll_eq]
    rw [Bool.eq_iff_iff, List.all_eq_true, List.all_eq_true]
    exact forall₂_congr fun p hp => by rw [ih p hp]
  | any _ _ ih =>
    simp only [holds, holdAny_eq]
    rw [Bool.eq_iff_iff, List.any_eq_true, List.any_eq_true]
    exact exists_congr fun p => and_congr_right fun hp => by rw [ih p hp]
  | not _ ih => simp only [holds, ih]

theorem Filter.holds_compile_eq {type : RecordType} {r r' : Record} (agree : type.Agree r r')
    (settings : ConditionSettings) (conditions : List Condition) :
    (compile type settings conditions).holds r = (compile type settings conditions).holds r' := by
  simp only [holds]
  rcases proper_compile type settings conditions with always | proper
  · rw [always]
    rfl
  · apply proper.holds_eq
    rintro path test ⟨-, p, found, rfl, -⟩
    exact Test.holds_eq_of_agrees (agree _ p found) test

namespace SortKey

variable {k : SortKey} {c : Collation}

theorem compareValues_eq_of_agrees {v v' w w' : Value} (h : v.Agrees v') (h' : w.Agrees w') :
    k.compareValues c v w = k.compareValues c v' w' := by
  cases h <;> cases h' <;> rfl

end SortKey

namespace Order

variable {type : RecordType} {r r' x x' : Record}

theorem compareKeys_eq_of_agree {c : Collation} {specs : List SortSpec} {keys : List SortKey}
    (h : List.Forall₂ (fun (s : SortSpec) k => key type s.property s.descending = .ok k) specs keys)
    (agree : type.Agree r r') (agree' : type.Agree x x') :
    compareKeys c keys r x = compareKeys c keys r' x' := by
  induction h with
  | nil => rfl
  | cons first _ ih =>
    obtain ⟨p, _, found, rfl⟩ := key_eq_ok.1 first
    simp only [compareKeys, SortKey.compare, ih]
    rw [SortKey.compareValues_eq_of_agrees (agree _ p found) (agree' _ p found)]

theorem compare_eq_of_agree {c : Collation} {specs : List SortSpec} {o : Order}
    (h : compile type c specs = .ok o) (agree : type.Agree r r') (agree' : type.Agree x x') :
    o.compare r x = o.compare r' x' := by
  obtain ⟨made, rfl⟩ := compile_eq_ok.1 h
  exact compareKeys_eq_of_agree made agree agree'

end Order

namespace Settings

/-- Records that agree along all paths of their type are kept by the same filters, and stand in the
same places of all orders. -/
theorem indistinguishable_of_agree (s : Settings) {type : RecordType} {r r' : Record}
    (agree : type.Agree r r') :
    (∀ conditions, (s.compileFilter type conditions).holds r =
      (s.compileFilter type conditions).holds r') ∧
    ∀ specs o, s.compileOrder type specs = .ok o →
      ∀ x, o.compare r x = o.compare r' x ∧ o.compare x r = o.compare x r' := by
  refine ⟨fun conditions => Filter.holds_compile_eq agree s.conditions conditions, ?_⟩
  intro specs o compiled x
  have same := RecordType.Agree.refl type x
  exact ⟨Order.compare_eq_of_agree compiled agree same,
    Order.compare_eq_of_agree compiled same agree⟩

theorem indistinguishable_of_agree_title :
    let schema (id : SchemaId) : Schema :=
      if id = 0 then ⟨"Item", [⟨"unit", .record 1, false⟩]⟩
      else ⟨"Unit", [⟨"title", .string, false⟩]⟩
    let type : RecordType := ⟨schema, 0⟩
    let unit (owner : String) : Value :=
      .record [("title", .scalar (.text "flat")), ("owner", .scalar (.text owner))]
    let r : Record := [("unit", unit "ann")]
    let r' : Record := [("unit", unit "bob"), ("paid", .scalar (.flag true))]
    type.Agree r r' ∧
      (∀ conditions, (default.compileFilter type conditions).holds r =
        (default.compileFilter type conditions).holds r') ∧
      ∀ specs o, default.compileOrder type specs = .ok o →
        ∀ x, o.compare r x = o.compare r' x ∧ o.compare x r = o.compare x r' := by
  intro schema type unit r r'
  have agree : type.Agree r r' := by
    apply RecordType.agree_of_sameDeclared
    refine .mk ?_ ?_
    · intro name f found
      obtain ⟨rfl, rfl⟩ := Schema.eq_of_field?_singleton found
      exact .record
    · intro name f next inner inner' found nested read read'
      obtain ⟨rfl, rfl⟩ := Schema.eq_of_field?_singleton found
      cases nested
      cases read
      cases read'
      refine .mk ?_ ?_
      · intro name f found
        obtain ⟨rfl, rfl⟩ := Schema.eq_of_field?_singleton found
        exact .scalar
      · intro name f next inner inner' found nested
        obtain ⟨rfl, rfl⟩ := Schema.eq_of_field?_singleton found
        cases nested
  exact ⟨agree, indistinguishable_of_agree default agree⟩

end Settings

end RecordQuery
