import RecordQuery.Proofs.Except
import RecordQuery.Proofs.Query.Execution
import RecordQuery.Settings

namespace RecordQuery

namespace SearchRequest

variable {request : SearchRequest} {f : Filter} {o : Order}

def asked (request : SearchRequest) : PageRequest :=
  ⟨max (request.page.getD 1) 1, request.pageSize.getD 20⟩

def query (request : SearchRequest) (f : Filter) (o : Order) : Query :=
  match request.pageRequest? with
  | none => ⟨f, o, none, none⟩
  | some p => (⟨f, o, none, none⟩ : Query).paged p

theorem query_of_none (page : request.page = none) (size : request.pageSize = none) :
    request.query f o = ⟨f, o, none, none⟩ := by
  have none : request.pageRequest? = none := by simp [pageRequest?, page, size]
  rw [query, none]

theorem query_of_some (given : request.page.isSome ∨ request.pageSize.isSome) :
    request.query f o = (⟨f, o, none, none⟩ : Query).paged request.asked := by
  have some : request.pageRequest? = some request.asked := by
    rw [pageRequest?, if_neg]
    · rfl
    · rw [Bool.and_eq_true, Option.isNone_iff_eq_none, Option.isNone_iff_eq_none]
      rintro ⟨page, size⟩
      simp [page, size] at given
  rw [query, some]

theorem filter_query : (request.query f o).filter = f := by
  rw [query]
  split <;> rfl

theorem order_query : (request.query f o).order = o := by
  rw [query]
  split <;> rfl

/-- How the query of a request runs, told by the filter and the order: without numbers of a page it
shows all matches, and else the page asked for. -/
structure RunsBy (request : SearchRequest) (f : Filter) (o : Order) (q : Query) : Prop where
  filter : q.filter = f
  order : q.order = o
  sorted : o.collation.IsPreorder → ∀ {α : Type} (record : α → Record) (items : List α),
    (∀ x ∈ items, o.Fits (record x)) →
      IsStableSort (fun a b => o.compare (record a) (record b))
        (items.filter fun x => f.holds (record x))
        (o.sortOn record (items.filter fun x => f.holds (record x)))
  all : request.page = none → request.pageSize = none →
    ∀ {α : Type} (record : α → Record) (items : List α),
      q.run record items = o.sortOn record (items.filter fun x => f.holds (record x))
  page : request.page.isSome ∨ request.pageSize.isSome →
    ∀ {α : Type} (record : α → Record) (items : List α),
      q.run record items = (q.fetch record items request.asked).items
  window : request.page.isSome ∨ request.pageSize.isSome →
    ∀ {α : Type} (record : α → Record) (items : List α), items.length < UInt64.size →
      let found := o.sortOn record (items.filter fun x => f.holds (record x))
      let size := request.asked.pageSize.toNat
      q.run record items = (found.drop ((request.asked.page.toNat - 1) * size)).take size
  count : ∀ {α : Type} (record : α → Record) (items : List α),
    q.count record items = items.countP fun x => f.holds (record x)

theorem runsBy_query (request : SearchRequest) (f : Filter) (o : Order) :
    request.RunsBy f o (request.query f o) where
  filter := filter_query
  order := order_query
  sorted := fun hc _ record items fits =>
    Order.isStableSort_sortOn hc fun x hx => fits x (List.mem_filter.1 hx).1
  all := by
    intro page size α record items
    rw [query_of_none page size]
    rfl
  page := by
    intro given α record items
    rw [query_of_some given]
    exact (Query.items_fetch request.asked).symm
  window := by
    intro given α record items small
    rw [query_of_some given]
    exact Query.items_page small
  count := by
    intro α record items
    have holds : (request.query f o).holds record = fun x => f.holds (record x) := by
      funext x
      rw [Query.holds, filter_query]
    rw [Query.count, holds]

end SearchRequest

namespace Settings

variable {s : Settings} {type : RecordType} {request : SearchRequest}

theorem compileRequest_eq_map : s.compileRequest type request =
    (s.compileOrder type request.sort).map
      (request.query (s.compileFilter type request.filters)) := by
  rw [compileRequest]
  cases s.compileOrder type request.sort with
  | error e => rfl
  | ok o =>
    simp only [ok_bind, Except.map, SearchRequest.query]
    cases request.pageRequest? <;> rfl

/-- A request fails as its sort specs do, whatever its conditions are. Else it becomes a query of
what its conditions are compiled to, which runs over the page asked for; what it counts does not
depend on the numbers of that page. -/
theorem compileRequest_fails_or_runs (s : Settings) (type : RecordType) (request : SearchRequest) :
    (∀ e, s.compileRequest type request = .error e ↔
      s.compileOrder type request.sort = .error e) ∧
      ∀ o, s.compileOrder type request.sort = .ok o →
        ∃ q, s.compileRequest type request = .ok q ∧
          request.RunsBy (s.compileFilter type request.filters) o q ∧
          ∀ page pageSize, ∃ q',
            s.compileRequest type { request with page := page, pageSize := pageSize } = .ok q' ∧
              ∀ {α : Type} (record : α → Record) (items : List α),
                q'.count record items = q.count record items := by
  constructor
  · intro e
    rw [compileRequest_eq_map, map_eq_error]
  · intro o compiled
    let f := s.compileFilter type request.filters
    have runs := request.runsBy_query f o
    refine ⟨request.query f o, ?_, runs, fun page pageSize => ?_⟩
    · rw [compileRequest_eq_map, compiled]
      rfl
    · let other : SearchRequest := { request with page := page, pageSize := pageSize }
      refine ⟨other.query f o, ?_, fun record items => ?_⟩
      · rw [compileRequest_eq_map, compiled]
        rfl
      · rw [runs.count, (other.runsBy_query f o).count]

theorem compileRequest_fails_or_runs_page :
    let type : RecordType := ⟨fun _ => ⟨"Track", [⟨"year", .int, false⟩]⟩, 0⟩
    let request : SearchRequest :=
      ⟨[⟨"label", "eq", some "Tresor", none, none⟩], [⟨"year", true⟩], some 0, none⟩
    let o : Order := ⟨[⟨["year"], .descending, false, .int, rfl⟩], .folded⟩
    let track (year : Int64) : Record := [("year", .scalar (.number (.signed year)))]
    let tracks := [track 1974, track 1982]
    default.compileOrder type request.sort = .ok o ∧
      ∃ q, default.compileRequest type request = .ok q ∧
        q.run id tracks = (q.fetch id tracks ⟨1, 20⟩).items := by
  intro type request o track tracks
  have compiled : default.compileOrder type request.sort = .ok o := rfl
  obtain ⟨q, compiled', runs, -⟩ := (compileRequest_fails_or_runs default type request).2 o compiled
  exact ⟨compiled, q, compiled', runs.page (.inl rfl) id tracks⟩

end Settings

end RecordQuery
