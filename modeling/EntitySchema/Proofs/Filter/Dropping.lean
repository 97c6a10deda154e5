import EntitySchema.Proofs.Filter.Binding
import EntitySchema.Proofs.Sql.Select

set_option autoImplicit false

namespace EntitySchema

namespace FilterInput

def filters : FilterInput → List Filter
  | .single filter => [filter]
  | .many filters => filters
  | .malformed _ _ => []

def Fruitless (e : Entity) (modes : MatchModes) (field : String) (input : FilterInput) : Prop :=
  ∀ filter ∈ input.filters, ∃ anomaly, (filter.compileOnto e modes field []).1 = .error anomaly

end FilterInput

namespace SelectRequest

def without (request : SelectRequest) (field : String) : SelectRequest :=
  { request with filters := request.filters.filter fun entry => entry.1 != field }

end SelectRequest

theorem compile_refused (e : Entity) (modes : MatchModes) (field : String) (filter : Filter)
    (args : List Json) (anomaly : FilterAnomaly) :
    (filter.compileOnto e modes field args).1 = .error anomaly ↔
      Interpretation.condition e modes field filter = .error anomaly := by
  rw [compileOnto_eq, Filter.compile]
  cases Interpretation.condition e modes field filter <;> simp [Except.map]

theorem refused_restores (e : Entity) (modes : MatchModes) (field : String) (filter : Filter)
    (args : List Json) (anomaly : FilterAnomaly)
    (refused : (filter.compileOnto e modes field args).1 = .error anomaly) :
    (filter.compileOnto e modes field args).2 = args := by
  rw [compileOnto_eq] at refused ⊢
  cases compiled : filter.compile e modes field args.length with
  | ok emitted => simp [compiled] at refused
  | error anomaly => rfl

structure Compiled.Barren (field : String) (c : Compiled) : Prop where
  fragments : c.fragments = []
  values : c.values = []
  dropped : ∀ d ∈ c.dropped, d.field = field

theorem skip_barren (field : String) (anomaly : FilterAnomaly) :
    (Compiled.skip field anomaly).Barren field :=
  ⟨rfl, rfl, by simp [Compiled.skip]⟩

theorem append_barren (field : String) (a b : Compiled) (first : a.Barren field)
    (second : b.Barren field) : (a.append b).Barren field := by
  refine ⟨?_, ?_, ?_⟩
  · simp [Compiled.append, first.fragments, second.fragments]
  · simp [Compiled.append, first.values, second.values]
  · intro d member
    rcases List.mem_append.mp member with inFirst | inSecond
    · exact first.dropped d inFirst
    · exact second.dropped d inSecond

namespace FilterInput

variable (e : Entity) (modes : MatchModes) (field : String)

theorem compileFilter_barren (bound : Nat) (filter : Filter)
    (refused : ∃ anomaly, (filter.compileOnto e modes field []).1 = .error anomaly) :
    (compileFilter e modes field bound filter).Barren field := by
  obtain ⟨anomaly, refused⟩ := refused
  have meaningless := (compile_refused e modes field filter [] anomaly).mp refused
  have skipped : compileFilter e modes field bound filter = .skip field anomaly := by
    rw [compileFilter, Filter.compile, meaningless]
    rfl
  rw [skipped]
  exact skip_barren field anomaly

theorem compileFilters_barren (bound : Nat) (filters : List Filter)
    (refused : ∀ filter ∈ filters, ∃ anomaly,
      (filter.compileOnto e modes field []).1 = .error anomaly) :
    (compileFilters e modes field bound filters).Barren field := by
  induction filters generalizing bound with
  | nil => exact ⟨rfl, rfl, by simp [compileFilters, Compiled.nothing]⟩
  | cons filter rest ih =>
      exact append_barren field _ _
        (compileFilter_barren e modes field bound filter (refused filter (by simp)))
        (ih _ fun other member => refused other (by simp [member]))

theorem compile_barren (bound : Nat) (input : FilterInput) (fruitless : input.Fruitless e modes field) :
    (compile e modes field bound input).Barren field := by
  cases input with
  | single filter =>
      exact compileFilter_barren e modes field bound filter (fruitless filter (by simp [filters]))
  | malformed raw reason => exact skip_barren field _
  | many filters =>
      cases filters with
      | nil => exact skip_barren field _
      | cons first rest =>
          have parts := compileFilters_barren e modes field bound (first :: rest) fruitless
          exact ⟨by simp [compile, parts.fragments, joinFragments], parts.values, parts.dropped⟩

theorem compileFilter_dropped (bound : Nat) (filter : Filter) :
    ∀ d ∈ (compileFilter e modes field bound filter).dropped, d.field = field := by
  unfold compileFilter
  cases filter.compile e modes field bound <;> simp [Compiled.one, Compiled.skip]

theorem compileFilters_dropped (bound : Nat) (filters : List Filter) :
    ∀ d ∈ (compileFilters e modes field bound filters).dropped, d.field = field := by
  induction filters generalizing bound with
  | nil => simp [compileFilters, Compiled.nothing]
  | cons filter rest ih =>
      intro d member
      rcases List.mem_append.mp member with here | later
      · exact compileFilter_dropped e modes field bound filter d here
      · exact ih _ d later

theorem compile_dropped (bound : Nat) (input : FilterInput) :
    ∀ d ∈ (compile e modes field bound input).dropped, d.field = field := by
  cases input with
  | single filter => exact compileFilter_dropped e modes field bound filter
  | malformed raw reason => simp [compile, Compiled.skip]
  | many filters =>
      cases filters with
      | nil => simp [compile, Compiled.skip]
      | cons first rest => exact compileFilters_dropped e modes field bound (first :: rest)

end FilterInput

theorem filterMap_without (e : Entity) (modes : MatchModes) (field : String) (filters : FilterMap)
    (bound : Nat)
    (fruitless : ∀ input, (field, input) ∈ filters → input.Fruitless e modes field) :
    let all := filters.compile e modes bound
    let others := FilterMap.compile e modes bound (filters.filter fun entry => entry.1 != field)
    others.fragments = all.fragments ∧ others.values = all.values ∧
      others.dropped = all.dropped.filter fun d => d.field != field := by
  induction filters generalizing bound with
  | nil => exact ⟨rfl, rfl, rfl⟩
  | cons entry rest ih =>
      obtain ⟨name, input⟩ := entry
      have restFruitless : ∀ input, (field, input) ∈ rest → input.Fruitless e modes field :=
        fun input member => fruitless input (by simp [member])
      by_cases same : name = field
      · subst same
        have barren := FilterInput.compile_barren e modes name bound input (fruitless input (by simp))
        have others := ih bound restFruitless
        have gone : (input.compile e modes name bound).dropped.filter (fun d => d.field != name) = [] := by
          apply List.filter_eq_nil_iff.mpr
          intro d member
          simp [barren.dropped d member]
        simpa [FilterMap.compile, Compiled.append, barren.fragments, barren.values, gone] using others
      · have others := ih (bound + (input.compile e modes name bound).values.length) restFruitless
        have kept : (input.compile e modes name bound).dropped.filter (fun d => d.field != field) =
            (input.compile e modes name bound).dropped := by
          apply List.filter_eq_self.mpr
          intro d member
          simpa [FilterInput.compile_dropped e modes name bound input d member] using same
        have stays : (name != field) = true := by simpa using same
        simp only [List.filter_cons, stays, if_true, FilterMap.compile, Compiled.append, kept,
          List.filter_append]
        simp [others]

theorem whereClause_congr (a b : Compiled) (connective : Connective)
    (same : a.fragments = b.fragments) : a.whereClause connective = b.whereClause connective := by
  simp only [Compiled.whereClause, Compiled.predicate?, same]

-- A refused filter leaves no argument behind, whatever it has bound before it failed. A field none
-- of whose filters compiles changes a select only by what is said of the filters that were dropped.
theorem dropped_without_trace (e : Entity) (modes : MatchModes) :
    (∀ (field : String) (filter : Filter) (args : List Json) (anomaly : FilterAnomaly),
      (filter.compileOnto e modes field args).1 = .error anomaly →
        (filter.compileOnto e modes field args).2 = args) ∧
    ∀ (request : SelectRequest) (field : String),
      (∀ input, (field, input) ∈ request.filters → input.Fruitless e modes field) →
        let whole := e.select modes request
        let less := e.select modes (request.without field)
        less.sql.render = whole.sql.render ∧ less.args = whole.args ∧
          less.dropped = whole.dropped.filter fun d => d.field != field := by
  refine ⟨refused_restores e modes, ?_⟩
  intro request field fruitless whole less
  obtain ⟨fragments, values, dropped⟩ :=
    filterMap_without e modes field request.filters 0 fruitless
  have condition := whereClause_congr _ _ request.connective fragments
  have sql : less.sql = whole.sql := by
    simp only [less, whole, Entity.select, SelectRequest.without, values, condition]
    rfl
  have args : less.args = whole.args := by
    simp only [less, whole, Entity.select, SelectRequest.without, values]
    rfl
  exact ⟨congrArg Sql.Fragment.render sql, args, dropped⟩

def emptyElement : Filter := ⟨.array [.string "red", .object []], none, some ["a", "b"], none⟩

theorem emptyElement_traceless :
    ((Binding.condition orders .standard "itemsJsonAgg" emptyElement).onto [.null]).2.length = 4 ∧
      (emptyElement.compileOnto orders .standard "itemsJsonAgg" [.null]).2 = [.null] ∧
      (∀ input, ("itemsJsonAgg", input) ∈ ordersPage.filters →
        input.Fruitless orders .standard "itemsJsonAgg") ∧
      (orders.select .standard ordersPage).dropped.map DroppedFilter.field =
        ["itemsJsonAgg", "name"] ∧
      (orders.select .standard (ordersPage.without "itemsJsonAgg")).sql.render =
        (orders.select .standard ordersPage).sql.render ∧
      (orders.select .standard (ordersPage.without "itemsJsonAgg")).dropped =
        (orders.select .standard ordersPage).dropped.filter fun d => d.field != "itemsJsonAgg" := by
  have fruitless : ∀ input, ("itemsJsonAgg", input) ∈ ordersPage.filters →
      input.Fruitless orders .standard "itemsJsonAgg" := by
    intro input member
    obtain rfl : input = .single emptyElement := by simpa [ordersPage, emptyElement] using member
    intro filter single
    obtain rfl : filter = emptyElement := by simpa [FilterInput.filters] using single
    exact error_of_isOk _ (by decide +kernel)
  obtain ⟨anomaly, refused⟩ : ∃ anomaly,
      (emptyElement.compileOnto orders .standard "itemsJsonAgg" [.null]).1 = .error anomaly :=
    error_of_isOk _ (by decide +kernel)
  obtain ⟨restored, traceless⟩ := dropped_without_trace orders .standard
  obtain ⟨sql, _, dropped⟩ := traceless ordersPage "itemsJsonAgg" fruitless
  exact ⟨by decide +kernel, restored _ _ _ anomaly refused, fruitless, by decide +kernel, sql,
    dropped⟩

end EntitySchema
