import EntitySchema.Proofs.Entity.Visible
import EntitySchema.Proofs.Filter.Dropping

set_option autoImplicit false

namespace EntitySchema

def FilterAnomaly.whenMissing : FilterAnomaly → FilterAnomaly
  | .notSelectable => .unknownField
  | other => other

def Entity.whenMissing (e : Entity) (d : DroppedFilter) : DroppedFilter :=
  if e.isSelectable d.field then d else ⟨d.field, d.anomaly.whenMissing⟩

variable (e : Entity) (modes : MatchModes)

theorem condition_selectable (wellFormed : e.WellFormed) (field : String) (filter : Filter)
    (selectable : e.isSelectable field = true) :
    Interpretation.condition e.visible modes field filter =
      Interpretation.condition e modes field filter := by
  obtain ⟨p, found, applies⟩ := selectable_found e field selectable
  have kept : (some p).filter (·.appliesTo .select) = some p := by simp [Option.filter, applies]
  rw [Interpretation.condition, property_visible e wellFormed, Interpretation.condition, found, kept]

theorem condition_hidden (wellFormed : e.WellFormed) (field : String) (filter : Filter)
    (hidden : e.isSelectable field = false) :
    Interpretation.condition e.visible modes field filter = .error .unknownField ∧
      ∃ anomaly, Interpretation.condition e modes field filter = .error anomaly ∧
        anomaly.whenMissing = .unknownField := by
  unfold Interpretation.condition
  rw [property_visible e wellFormed]
  unfold Entity.isSelectable at hidden
  cases found : e.property? field with
  | none => exact ⟨rfl, _, rfl, rfl⟩
  | some p =>
      have unread : p.appliesTo .select = false := by simpa [found] using hidden
      simp [Option.filter, unread, FilterAnomaly.whenMissing]

structure Compiled.SameBut (visible whole : Compiled) : Prop where
  fragments : visible.fragments = whole.fragments
  values : visible.values = whole.values
  dropped : visible.dropped = whole.dropped.map e.whenMissing

theorem append_sameBut (a b a' b' : Compiled) (first : a.SameBut e a') (second : b.SameBut e b') :
    (a.append b).SameBut e (a'.append b') := by
  constructor
  · simp [Compiled.append, first.fragments, second.fragments]
  · simp [Compiled.append, first.values, second.values]
  · simp [Compiled.append, first.dropped, second.dropped]

theorem skip_sameBut (field : String) (anomaly : FilterAnomaly)
    (possible : anomaly ≠ .notSelectable) :
    (Compiled.skip field anomaly).SameBut e (Compiled.skip field anomaly) := by
  have same : anomaly.whenMissing = anomaly := by
    cases anomaly <;> first | rfl | exact absurd rfl possible
  exact ⟨rfl, rfl, by simp [Compiled.skip, Entity.whenMissing, same]⟩

namespace FilterInput

theorem compileFilter_visible (wellFormed : e.WellFormed) (field : String) (bound : Nat)
    (filter : Filter) :
    (compileFilter e.visible modes field bound filter).SameBut e
      (compileFilter e modes field bound filter) := by
  unfold compileFilter Filter.compile
  cases selectable : e.isSelectable field with
  | true =>
      rw [condition_selectable e modes wellFormed field filter selectable]
      cases Interpretation.condition e modes field filter with
      | ok condition => exact ⟨rfl, rfl, rfl⟩
      | error anomaly =>
          exact ⟨rfl, rfl, by simp [Except.map, Compiled.skip, Entity.whenMissing, selectable]⟩
  | false =>
      obtain ⟨missing, anomaly, hidden, same⟩ :=
        condition_hidden e modes wellFormed field filter selectable
      rw [missing, hidden]
      exact ⟨rfl, rfl, by simp [Except.map, Compiled.skip, Entity.whenMissing, selectable, same]⟩

theorem compileFilters_visible (wellFormed : e.WellFormed) (field : String) (bound : Nat)
    (filters : List Filter) :
    (compileFilters e.visible modes field bound filters).SameBut e
      (compileFilters e modes field bound filters) := by
  induction filters generalizing bound with
  | nil => exact ⟨rfl, rfl, rfl⟩
  | cons filter rest ih =>
      have here := compileFilter_visible e modes wellFormed field bound filter
      have later := ih (bound + (compileFilter e modes field bound filter).values.length)
      rw [compileFilters, here.values]
      exact append_sameBut e _ _ _ _ here later

theorem compile_visible (wellFormed : e.WellFormed) (field : String) (bound : Nat)
    (input : FilterInput) :
    (compile e.visible modes field bound input).SameBut e (compile e modes field bound input) := by
  cases input with
  | single filter => exact compileFilter_visible e modes wellFormed field bound filter
  | malformed raw reason => exact skip_sameBut e field _ (by simp)
  | many filters =>
      cases filters with
      | nil => exact skip_sameBut e field _ (by simp)
      | cons first rest =>
          have parts := compileFilters_visible e modes wellFormed field bound (first :: rest)
          exact ⟨by simp [compile, parts.fragments], parts.values, parts.dropped⟩

end FilterInput

theorem filterMap_visible (wellFormed : e.WellFormed) (filters : FilterMap) (bound : Nat) :
    (filters.compile e.visible modes bound).SameBut e (filters.compile e modes bound) := by
  induction filters generalizing bound with
  | nil => exact ⟨rfl, rfl, rfl⟩
  | cons entry rest ih =>
      obtain ⟨field, input⟩ := entry
      have here := FilterInput.compile_visible e modes wellFormed field bound input
      have later := ih (bound + (input.compile e modes field bound).values.length)
      rw [FilterMap.compile, here.values]
      exact append_sameBut e _ _ _ _ here later

theorem select_visible (wellFormed : e.WellFormed) (request : SelectRequest) :
    (e.visible.select modes request).sql = (e.select modes request).sql ∧
      (e.visible.select modes request).args = (e.select modes request).args ∧
      (e.visible.select modes request).dropped =
        (e.select modes request).dropped.map e.whenMissing := by
  have filters := filterMap_visible e modes wellFormed request.filters 0
  have condition := whereClause_congr _ _ request.connective filters.fragments
  have head : e.visible.selectHead request.pagination = e.selectHead request.pagination := by
    simp only [Entity.selectHead, Entity.columnList, Entity.renderedColumns, columns_visible]
    rfl
  have order : e.visible.orderClause request = e.orderClause request := by
    simp only [Entity.orderClause, isSelectable_visible e wellFormed]
  refine ⟨?_, ?_, filters.dropped⟩
  · simp only [Entity.select, head, condition, order, filters.values]
  · simp only [Entity.select, filters.values]

-- Whether hidden properties are declared at all makes no difference to a select, but for the reason
-- why a filter on one of them is dropped.
theorem hidden_without_influence (name table : String) (descriptors : List Descriptor)
    (types : TypeRegistry) (e : Entity)
    (built : Entity.build name table descriptors types = .ok e) :
    ∃ visible, Entity.build name table (descriptors.filter Descriptor.selects) types = .ok visible ∧
      visible.properties = e.properties.filter (·.appliesTo .select) ∧
      ∀ (modes : MatchModes) (request : SelectRequest),
        let whole := e.select modes request
        let shown := visible.select modes request
        shown.sql.render = whole.sql.render ∧ shown.args = whole.args ∧
          shown.dropped.map DroppedFilter.field = whole.dropped.map DroppedFilter.field ∧
          shown.dropped = whole.dropped.map e.whenMissing := by
  have wellFormed := build_wellFormed name table descriptors types e built
  refine ⟨e.visible, build_visible name table descriptors types e built, rfl, ?_⟩
  intro modes request whole shown
  obtain ⟨sql, args, dropped⟩ := select_visible e modes wellFormed request
  have field : ∀ d : DroppedFilter, (e.whenMissing d).field = d.field := by
    intro d
    unfold Entity.whenMissing
    split <;> rfl
  have fields : shown.dropped.map DroppedFilter.field = whole.dropped.map DroppedFilter.field := by
    rw [dropped, List.map_map]
    exact List.map_congr_left fun d _ => field d
  exact ⟨congrArg Sql.Fragment.render sql, args, fields, dropped⟩

def accountDescriptors : List Descriptor :=
  [(Declaration.of "id" "integer").plain, (Declaration.of "name" "string").plain,
   { Declaration.of "password" "string" with operations := some ["insert", "update"] }.plain]

def accounts : Entity :=
  (Entity.build "Account" "accounts" accountDescriptors (.builtin .standard)).toOption.getD
    ⟨"", "", [], .standard, .standard⟩

def accountsPage : SelectRequest :=
  { SelectRequest.all with
    rows := some 1, sortField := some "password"
    filters :=
      [("age", .single ⟨.ofCount 7, none, none, none⟩),
       ("name", .many
          [⟨.string "a%", some "startsWith", none, none⟩, ⟨.string "b", some "near", none, none⟩]),
       ("password", .single ⟨.string "s", some "startsWith", none, none⟩)] }

theorem accounts_hidden :
    accountDescriptors.map Descriptor.selects = [true, true, false] ∧
      Entity.build "Account" "accounts" accountDescriptors (.builtin .standard) = .ok accounts ∧
      (accounts.select .standard accountsPage).sql.render =
        "SELECT \"id\", \"name\" FROM \"accounts\" WHERE LOWER(\"name\") LIKE $1 LIMIT $2 OFFSET $3" ∧
      ((accounts.select .standard accountsPage).dropped.map fun d => (d.field, d.anomaly.kind)) =
        [("age", "UnknownField"), ("name", "UnknownMode"), ("password", "NotSelectable")] ∧
      ∃ visible, Entity.build "Account" "accounts" (accountDescriptors.take 2) (.builtin .standard) =
          .ok visible ∧
        (visible.select .standard accountsPage).sql.render =
          (accounts.select .standard accountsPage).sql.render ∧
        ((visible.select .standard accountsPage).dropped.map fun d => (d.field, d.anomaly.kind)) =
          [("age", "UnknownField"), ("name", "UnknownMode"), ("password", "UnknownField")] := by
  have built : Entity.build "Account" "accounts" accountDescriptors (.builtin .standard) =
      .ok accounts := ok_getD _ _ (by decide +kernel)
  have selected : accountDescriptors.filter Descriptor.selects = accountDescriptors.take 2 := rfl
  obtain ⟨visible, visibleBuilt, _, alike⟩ := hidden_without_influence _ _ _ _ _ built
  rw [selected] at visibleBuilt
  obtain ⟨sql, _, _, dropped⟩ := alike .standard accountsPage
  refine ⟨by decide +kernel, built, by decide +kernel, by decide +kernel, visible, visibleBuilt, sql, ?_⟩
  rw [dropped, List.map_map]
  decide +kernel

end EntitySchema
