import RecordQuery.Proofs.Json.Acceptance
import RecordQuery.RequestJson

namespace RecordQuery

open Json

namespace Condition

def contents : Contents Key where
  admits
    | .property | .operation => IsText
    | .value | .value2 | .logic => IsOptional IsText
  default?
    | .property | .operation => none
    | .value | .value2 | .logic => some .null
  alike _ := Eq

theorem holds_contents : layout.Holds contents where
  all k := by cases k <;> decide
  known := by decide
  required k := by cases k <;> decide
  stores k s := by
    cases k with
    | property | operation => exact Takes.text.bind_pure
    | value | value2 | logic => exact Takes.text.option.bind_pure
  commute k k' distinct j j' s t := by
    cases k <;> cases k' <;> first
      | contradiction
      | exact Layout.storeAll_swap (fun _ => rfl) (fun _ => rfl) fun _ _ _ => rfl
  default k j default := by cases k <;> cases default <;> rfl
  alike k j j' same s t := by rw [show j = j' from same]

end Condition

namespace SortSpec

def contents : Contents Key where
  admits
    | .property => IsText
    | .descending => IsBool
  default?
    | .property => none
    | .descending => some (.bool false)
  alike _ := Eq

theorem holds_contents : layout.Holds contents where
  all k := by cases k <;> decide
  known := by decide
  required k := by cases k <;> decide
  stores k s := by
    cases k with
    | property => exact Takes.text.bind_pure
    | descending => exact Takes.bool.bind_pure
  commute k k' distinct j j' s t := by
    cases k <;> cases k' <;> first
      | contradiction
      | exact Layout.storeAll_swap (fun _ => rfl) (fun _ => rfl) fun _ _ _ => rfl
  default k j default := by
    cases k with
    | property => cases default
    | descending =>
      cases default
      rfl
  alike k j j' same s t := by rw [show j = j' from same]

end SortSpec

namespace PageRequest

def contents : Contents Key where
  admits _ := IsWord
  default? _ := none
  alike _ := Eq

theorem holds_contents : layout.Holds contents where
  all k := by cases k <;> decide
  known := by decide
  required k := by cases k <;> decide
  stores k s := by cases k <;> exact Takes.word.bind_pure
  commute k k' distinct j j' s t := by
    cases k <;> cases k' <;> first
      | contradiction
      | exact Layout.storeAll_swap (fun _ => rfl) (fun _ => rfl) fun _ _ _ => rfl
  default k j default := by cases default
  alike k j j' same s t := by rw [show j = j' from same]

end PageRequest

namespace SearchRequest

def contents : Contents Key where
  admits
    | .filters => IsList (Condition.layout.Document Condition.contents)
    | .sort => IsList (SortSpec.layout.Document SortSpec.contents)
    | .page | .pageSize => IsOptional IsWord
  default?
    | .filters | .sort => some (.array [])
    | .page | .pageSize => some .null
  alike
    | .filters => Json.AreLists (Condition.layout.Alike Condition.contents)
    | .sort => Json.AreLists (SortSpec.layout.Alike SortSpec.contents)
    | .page | .pageSize => Eq

theorem holds_contents : layout.Holds contents where
  all k := by cases k <;> decide
  known := by decide
  required k := by cases k <;> decide
  stores k s := by
    cases k with
    | filters => exact Condition.holds_contents.takes_document.list.bind_pure
    | sort => exact SortSpec.holds_contents.takes_document.list.bind_pure
    | page | pageSize => exact Takes.word.option.bind_pure
  commute k k' distinct j j' s t := by
    cases k <;> cases k' <;> first
      | contradiction
      | exact Layout.storeAll_swap (fun _ => rfl) (fun _ => rfl) fun _ _ _ => rfl
  default k j default := by cases k <;> cases default <;> rfl
  alike k j j' alike s t := by
    have conditions i i' (h : Condition.layout.Alike Condition.contents i i') c :
        Condition.ofJson i = .ok c ↔ Condition.ofJson i' = .ok c :=
      Condition.holds_contents.read_iff_of_alike h
    have specs i i' (h : SortSpec.layout.Alike SortSpec.contents i i') c :
        SortSpec.ofJson i = .ok c ↔ SortSpec.ofJson i' = .ok c :=
      SortSpec.holds_contents.read_iff_of_alike h
    cases k with
    | filters => simp only [layout, bind_eq_ok, Json.readList_iff_of_areLists conditions alike]
    | sort => simp only [layout, bind_eq_ok, Json.readList_iff_of_areLists specs alike]
    | page | pageSize => rw [show j = j' from alike]

end SearchRequest

/-- Requests and their parts are read from the objects that say them, in any spelling, with any
names, in any order, and with or without what does not count. -/
theorem requests_read_in_any_spelling :
    Condition.layout.IsReadBy Condition.contents Condition.ofJson ∧
    SortSpec.layout.IsReadBy SortSpec.contents SortSpec.ofJson ∧
    PageRequest.layout.IsReadBy PageRequest.contents PageRequest.ofJson ∧
    SearchRequest.layout.IsReadBy SearchRequest.contents SearchRequest.ofJson :=
  ⟨Condition.holds_contents.isReadBy, SortSpec.holds_contents.isReadBy,
    PageRequest.holds_contents.isReadBy, SearchRequest.holds_contents.isReadBy⟩

theorem sortSpec_read_in_any_spelling :
    (∃ t, readFrom SortSpec.ofJson "\x7b\"propertyName\":\"a\"\x7d" = .ok t) ∧
    ∀ t, readFrom SortSpec.ofJson "\x7b\"propertyName\":\"a\"\x7d" = .ok t ↔
      readFrom SortSpec.ofJson
        "\x7b\"x\": 0, \"property\": \"\\u0061\", \"descending\": false\x7d" = .ok t := by
  obtain ⟨-, ⟨accepts, alike⟩, -⟩ := requests_read_in_any_spelling
  have self (s : String) (h : s.toList.all fun c => c ≠ '"' && c ≠ '\\' && 0x20 ≤ c.toNat) :
      SpellsChars s.toList s.toList := .self h
  have spelled : (Json.ofMembers [("propertyName", .text "a")]).IsSpelled
      "\x7b\"propertyName\":\"a\"\x7d" := by
    constructor
    · exact .object (by simp [WellFormed.text])
    · exact .fixed .leftBrace <| .string (self "propertyName" (by decide)) <| .fixed .colon <|
        .string (self "a" (by decide)) <| .fixed .rightBrace .nil
  have respelled : (Json.ofMembers [("x", .natural 0), ("property", .text "a"),
      ("descending", .bool false)]).IsSpelled
      "\x7b\"x\": 0, \"property\": \"\\u0061\", \"descending\": false\x7d" := by
    have zero : SpellsNumber (.ofNat 0) ['0'] := .parts (f := []) (e := []) .zero .none .none
    have apart (cs : List Char) : Apart (',' :: cs) := by simp [Apart]
    have unit : SpellsUnit 'a'.toNat ['\\', 'u', '0', '0', '6', '1'] :=
      .hex (i := 0) (j := 0) (k := 6) (l := 1) rfl rfl rfl rfl
    have escaped : SpellsChars "a".toList "\\u0061".toList := .cons (.unit unit) .nil
    constructor
    · exact .object (by simp [WellFormed.text, WellFormed.bool, Json.natural, WellFormed.number])
    · exact .fixed .leftBrace <| .string (self "x" (by decide)) <| .fixed .colon <|
        .blank (by decide) <| .number zero (apart _) <| .fixed .comma <| .blank (by decide) <|
        .string (self "property" (by decide)) <| .fixed .colon <| .blank (by decide) <|
        .string escaped <| .fixed .comma <| .blank (by decide) <|
        .string (self "descending" (by decide)) <| .fixed .colon <| .blank (by decide) <|
        .fixed .false <| .fixed .rightBrace .nil
  refine ⟨(accepts _ _ spelled).2 ⟨?once, ?complete, ?admitted⟩,
    alike _ _ _ _ spelled respelled ?alike⟩
  case once => exact List.pairwise_singleton _ _
  case complete =>
    rintro (_ | _) required
    · exact ⟨_, List.mem_cons_self, .inl rfl⟩
    · cases required
  case admitted =>
    intro m hm k named
    cases List.mem_singleton.1 hm
    cases k with
    | property => exact .text
    | descending => simp [Layout.Names, SortSpec.layout] at named
  case alike =>
    have renamed : SortSpec.layout.Respells SortSpec.contents
        (.ofMembers [("propertyName", .text "a")]) (.ofMembers [("property", .text "a")]) :=
      .name (k := .property) (.inl rfl) (.inr (by decide))
    have added : SortSpec.layout.Respells SortSpec.contents
        (.ofMembers [("property", .text "a")])
        (.ofMembers [("descending", .bool false), ("property", .text "a")]) :=
      .default (k := .descending) (.inl rfl) rfl (by simp [Layout.Names, SortSpec.layout])
    have swapped : SortSpec.layout.Respells SortSpec.contents
        (.ofMembers [("descending", .bool false), ("property", .text "a")])
        (.ofMembers [("property", .text "a"), ("descending", .bool false)]) :=
      .order (.swap _ _ _)
    have unknown : SortSpec.layout.Respells SortSpec.contents
        (.ofMembers [("property", .text "a"), ("descending", .bool false)])
        (.ofMembers [("x", .natural 0), ("property", .text "a"), ("descending", .bool false)]) :=
      .unknown (by rintro (_ | _) <;> simp [Layout.Names, SortSpec.layout]) .number
    exact .trans _ _ _ (.rel _ _ renamed) <| .trans _ _ _ (.rel _ _ added) <|
      .trans _ _ _ (.rel _ _ swapped) (.rel _ _ unknown)

end RecordQuery
