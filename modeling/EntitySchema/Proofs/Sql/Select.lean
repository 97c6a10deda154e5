import EntitySchema.Proofs.Filter.Predicate
import EntitySchema.Sql.Select

set_option autoImplicit false

namespace EntitySchema

open Sql Sql.Fragment

theorem names_row (identifiers : List String) (known : Nat)
    (clean : ∀ identifier ∈ identifiers, '"' ∉ identifier.toList) :
    RowNumbered known known (identifiers.map fun identifier => [.name identifier]) := by
  induction identifiers with
  | nil => exact row_nil known
  | cons identifier rest ih =>
      have here := name_numbered identifier known (clean identifier (by simp))
      exact row_cons _ _ _ _ _ here (ih fun other member => clean other (by simp [member]))

theorem table_numbered (e : Entity) (wellFormed : e.WellFormed) (known : Nat) :
    e.quotedTable.Numbered known known :=
  join_numbered _ _ "." _
    (names_row _ known (tableParts_unquoted e.table wellFormed.table)) (by decide)

theorem selectHead_numbered (e : Entity) (wellFormed : e.WellFormed) (withTotal : Bool) :
    (e.selectHead withTotal).Numbered 0 0 := by
  have columns := names_row _ 0 (columns_unquoted e wellFormed .select)
  have total : RowNumbered 0 0 (if withTotal && Operation.select = .select then [Entity.totalColumn] else []) := by
    cases withTotal with
    | false => exact row_nil 0
    | true =>
        exact row_single 0 0 _ ⟨readable_single _ (show plainText _ = true by decide), .done 0⟩
  have list := join_numbered _ _ ", " _ (row_append _ _ _ _ _ columns total) (by decide)
  exact numbered_append _ _ _ _ _ " FROM " (numbered_text_cons _ _ _ "SELECT " list (by decide))
    (by decide) (table_numbered e wellFormed 0)

theorem whereClause_numbered (c : Compiled) (connective : Connective) (head : Fragment)
    (headNumbered : head.Numbered 0 0) (compiled : c.Numbered 0) :
    (head ++ c.whereClause connective).Numbered 0 c.values.length := by
  unfold Compiled.Numbered at compiled
  rw [Nat.zero_add] at compiled
  unfold Compiled.whereClause Compiled.predicate?
  cases shape : c.fragments with
  | nil =>
      have unbound : Counted 0 [] c.values.length := by simpa [shape] using compiled.counted
      refine ⟨by simpa using headNumbered.readable, ?_⟩
      simpa using counted_append _ _ _ _ _ headNumbered.counted unbound
  | cons fragment rest =>
      rw [shape] at compiled
      have predicate := join_numbered _ _ (" " ++ connective.name ++ " ") _ compiled
        (by cases connective <;> decide)
      exact numbered_append _ _ _ _ _ " WHERE " headNumbered (by decide) predicate

theorem orderClause_numbered (e : Entity) (wellFormed : e.WellFormed) (request : SelectRequest)
    (head : Fragment) (last : Nat) (headNumbered : head.Numbered 0 last) :
    (head ++ e.orderClause request).Numbered 0 last := by
  unfold Entity.orderClause
  cases request.sortField with
  | none => simpa using headNumbered
  | some field =>
      simp only
      split
      · rename_i selectable
        have clean : '"' ∉ field.toList := by
          obtain ⟨p, found, _⟩ := selectable_found e field selectable
          exact property_unquoted e wellFormed field p found
        have sorted := numbered_append _ _ _ _ _ " ORDER BY " headNumbered (by decide)
          (name_numbered field last clean)
        have directed := numbered_append_text _ _ _ (" " ++ request.sortOrder.name) sorted
          (by cases request.sortOrder <;> decide)
        simpa using directed
      · simpa using headNumbered

theorem pageClause_numbered (request : SelectRequest) (head : Fragment) (last : Nat)
    (headNumbered : head.Numbered 0 last) :
    (head ++ (request.pageClause last).sql).Numbered 0
      (last + (request.pageClause last).values.length) := by
  unfold SelectRequest.pageClause
  cases request.rows with
  | none => simpa using headNumbered
  | some rows =>
      have limit := numbered_append_place _ _ _ " LIMIT " headNumbered (by decide)
      have offset := numbered_append_place _ _ _ " OFFSET " limit (by decide)
      simpa using offset

def Entity.selectBody (e : Entity) (modes : MatchModes) (request : SelectRequest) : Fragment :=
  e.selectHead request.pagination ++
    (request.filters.compile e modes 0).whereClause request.connective ++ e.orderClause request

theorem selectBody_numbered (e : Entity) (wellFormed : e.WellFormed) (modes : MatchModes)
    (request : SelectRequest) :
    (e.selectBody modes request).Numbered 0 (request.filters.compile e modes 0).values.length := by
  have compiled := filterMap_numbered e wellFormed modes request.filters 0
  have head := selectHead_numbered e wellFormed request.pagination
  exact orderClause_numbered e wellFormed request _ _ (whereClause_numbered _ _ _ head compiled)

theorem select_numbered (e : Entity) (wellFormed : e.WellFormed) (modes : MatchModes)
    (request : SelectRequest) :
    (e.select modes request).sql.Numbered 0 (e.select modes request).args.length := by
  have page := pageClause_numbered request _ _ (selectBody_numbered e wellFormed modes request)
  simpa [Entity.select, Entity.selectBody] using page

-- The places of a select are those of its values, each written for the first time in the order of
-- the values. A page has the last two of them to itself.
theorem select_places (e : Entity) (built : e.Built) (modes : MatchModes)
    (request : SelectRequest) :
    let s := e.select modes request
    let written := indices s.sql.render
    (∀ index, index ∈ written ↔ 1 ≤ index ∧ index ≤ s.args.length) ∧
      written.eraseDups = List.range' 1 s.args.length ∧
      ∀ rows, request.rows = some rows → ∃ (bound : Nat) (body : String),
        s.args.length = bound + 2 ∧
        s.args.drop bound = [.ofCount rows, .ofCount request.first] ∧
        s.sql.render = body ++ " LIMIT $" ++ toString (bound + 1) ++ " OFFSET $" ++
          toString (bound + 2) ∧
        written.count (bound + 1) = 1 ∧ written.count (bound + 2) = 1 := by
  have wellFormed := built_wellFormed e built
  have numbered := select_numbered e wellFormed modes request
  have read := indices_render _ numbered.readable
  simp only [read]
  refine ⟨fun index => counted_mem_iff _ index _ numbered.counted,
    counted_firsts_from_zero _ _ numbered.counted, ?_⟩
  intro rows paged
  have body := selectBody_numbered e wellFormed modes request
  have layout : (e.select modes request).sql =
      e.selectBody modes request ++
        [.text " LIMIT ", .place ((request.filters.compile e modes 0).values.length + 1),
         .text " OFFSET ", .place ((request.filters.compile e modes 0).values.length + 2)] := by
    simp [Entity.select, Entity.selectBody, SelectRequest.pageClause, paged]
  have args : (e.select modes request).args =
      (request.filters.compile e modes 0).values ++ [.ofCount rows, .ofCount request.first] := by
    simp [Entity.select, SelectRequest.pageClause, paged]
  generalize (request.filters.compile e modes 0).values = values at body layout args
  have unwritten : ∀ index, values.length < index →
      (e.selectBody modes request).indices.count index = 0 := by
    intro index above
    apply List.count_eq_zero.mpr
    intro member
    have bounds := counted_bounds _ _ _ body.counted index member
    omega
  refine ⟨values.length, (e.selectBody modes request).render, by simp [args], by simp [args],
    ?_, ?_, ?_⟩
  · have limit : " LIMIT $" = " LIMIT " ++ "$" := by decide
    have offset : " OFFSET $" = " OFFSET " ++ "$" := by decide
    rw [layout, render_append]
    simp only [Fragment.render, Piece.render, List.map_cons, List.map_nil, String.join,
      List.foldl_cons, List.foldl_nil, String.empty_append, String.append_assoc]
    rw [limit, offset, String.append_assoc, String.append_assoc]
  · simp [layout, unwritten]
  · simp [layout, unwritten]

def ordersPage : SelectRequest :=
  { SelectRequest.all with
    rows := some 10, first := 20, sortField := some "cost $1"
    filters :=
      [("cost $1", .many
          [⟨.array [.ofCount 1, .null], some "between", none, some .or⟩,
           ⟨.string "2", some "lt", none, none⟩]),
       ("itemsJsonAgg", .single ⟨.array [.string "red", .object []], none, some ["a", "b"], none⟩),
       ("meta", .single
          ⟨.object [("a", .object [("b", .bool true), ("c", .string "x\" $9")])], none, none, none⟩),
       ("name", .malformed .null .malformed)] }

theorem ordersPage_places :
    orders.Built ∧
      (orders.select .standard ordersPage).sql.render =
        "SELECT \"id\", \"cost $1\", \"meta\", \"itemsJsonAgg\" FROM \"shop\".\"orders\" WHERE " ++
          "(\"cost $1\" >= $1 OR \"cost $1\" < $2) AND " ++
          "(CAST(\"meta\"->$3->>$4 AS BOOLEAN) = $5 AND LOWER(\"meta\"->$3->>$6) = $7) " ++
          "ORDER BY \"cost $1\" ASC LIMIT $8 OFFSET $9" ∧
      (indices (orders.select .standard ordersPage).sql.render).eraseDups =
        List.range' 1 (orders.select .standard ordersPage).args.length :=
  ⟨orders_built, by decide +kernel,
    (select_places orders orders_built .standard ordersPage).2.1⟩

end EntitySchema
