import EntitySchema.Proofs.Sql.Keyword
import EntitySchema.Proofs.Sql.Write

set_option autoImplicit false

namespace EntitySchema

open Sql Sql.Fragment

def Sql.condition? (read : List Token) : Option (String × Nat) :=
  match behind? "WHERE " read with
  | some [.name column, .char ' ', .char '=', .char ' ', .place index] =>
      some (String.ofList column, index)
  | _ => none

def returnedIndices : Option String → List Nat
  | some column => Sql.indices (Fragment.render [.name column])
  | none => []

namespace Statement

def argument? (s : Statement) : Nat → Option Json
  | 0 => none
  | index + 1 => s.args[index]?

structure Inserts (s : Statement) (columns : List String) (values : List (List (Option Json))) :
    Prop where
  listed : listedColumns (tokens s.sql.render) = columns
  filled : (listedRows (tokens s.sql.render)).map (List.map s.argument?) = values

structure Assigns (s : Statement) (values : List (String × Option Json)) (id : Json) : Prop where
  set : (columnPlaces s.sql.render).map (fun place => (place.column, s.argument? place.index)) =
    values
  identity : ∃ index, condition? (tokens s.sql.render) = some (idColumn, index) ∧
    s.argument? index = some id
  places : indices s.sql.render = List.range' 1 s.args.length

end Statement

theorem insertRows_flatten (width count : Nat) :
    (insertRows width count).flatten = List.range' 1 (count * width) := by
  induction count with
  | zero => simp [insertRows]
  | succ count ih =>
      have split : insertRows width (count + 1) =
          insertRows width count ++ [List.range' (1 + count * width) width] := by
        simp [insertRows, List.range_succ, Nat.add_comm]
      rw [split, List.flatten_concat, ih, List.range'_append_1, Nat.succ_mul]

theorem insertRows_arguments (s : Statement) (columns : List String) (records : List Record)
    (args : s.args = records.flatMap fun record => columns.map record.valueAt) :
    (insertRows columns.length records.length).map (List.map s.argument?) =
      records.map fun record => columns.map fun column => some (record.valueAt column) := by
  apply List.ext_getElem
  · simp [insertRows]
  · intro row inRows _
    apply List.ext_getElem
    · simp [insertRows]
    · intro i inColumns _
      simp only [insertRows, List.length_map, List.length_range] at inRows inColumns
      have bounded : i < columns.length := by simpa using inColumns
      have value := flatMap_getElem (fun record : Record => columns.map record.valueAt)
        columns.length records (by simp) row i bounded
      have index : row * columns.length + 1 + i = row * columns.length + i + 1 := by omega
      simp only [insertRows, List.getElem_map, List.getElem_range, List.getElem_range', Nat.one_mul,
        index, Statement.argument?, args, value]
      simp [inRows, bounded]

theorem tuple_indices (places : List Nat) : (tuple places).indices = places := by
  simp [tuple, indices_join, List.flatMap_map]

theorem table_indices (e : Entity) : e.quotedTable.indices = [] := by
  simp [Entity.quotedTable, indices_join, List.flatMap_map]

theorem insertBody_indices (e : Entity) (count : Nat) :
    (e.insertBody count).indices = List.range' 1 (count * (e.columns .insert).length) := by
  have names : ∀ columns : List String,
      (columns.map fun column => [Piece.name column]).flatMap Fragment.indices = [] := by
    intro columns
    simp [List.flatMap_map]
  have values : ∀ rows : List (List Nat), (rows.map tuple).flatMap Fragment.indices = rows.flatten := by
    intro rows
    rw [List.flatMap_map]
    simp [tuple_indices]
  simp [Entity.insertBody, Entity.insertHead, indices_join, table_indices, names, values,
    insertRows_flatten]

theorem insert_indices (e : Entity) (wellFormed : e.WellFormed) (records : List Record)
    (returning : Option String) (s : Statement) (accepted : e.insert records returning = .ok s) :
    indices s.sql.render = List.range' 1 s.args.length ++ returnedIndices returning := by
  obtain ⟨sql, args⟩ := insert_accepted e records returning s accepted
  have readable := insertBody_readable e wellFormed records.length
  have count : s.args.length = records.length * (e.columns .insert).length := by
    simp [args, List.length_flatMap]
  have body : (e.insertBody records.length).tokens.filterMap Token.place? =
      List.range' 1 s.args.length := count ▸ insertBody_indices e records.length
  rw [sql]
  cases returning with
  | none =>
      rw [Sql.indices, returned, List.append_nil, tokens_render _ readable, body]
      simp [returnedIndices]
  | some column =>
      have word : (" RETURNING ".toList.map Token.char).filterMap Token.place? = [] := by
        simp [Token.place?]
      rw [Sql.indices, returned_name_tokens _ readable, List.filterMap_append,
        List.filterMap_append, body, word, List.nil_append]
      rfl

theorem returnedIndices_unquoted (returning : Option String)
    (unquoted : ∀ column ∈ returning, '"' ∉ column.toList) : returnedIndices returning = [] := by
  cases returning with
  | none => rfl
  | some column =>
      rw [returnedIndices, indices_render _ (readable_single (.name column) (unquoted column rfl))]
      simp

theorem insert_inserts (e : Entity) (wellFormed : e.WellFormed) (records : List Record)
    (returning : Option String) (s : Statement) (accepted : e.insert records returning = .ok s) :
    s.Inserts (e.columns .insert)
      (records.map fun record => (e.columns .insert).map fun column =>
        some (record.valueAt column)) := by
  obtain ⟨sql, args⟩ := insert_accepted e records returning s accepted
  obtain ⟨behind, ended, read⟩ :=
    returned_tokens _ (insertBody_readable e wellFormed records.length) returning
  obtain ⟨columns, rows⟩ := insertHead_listed e (e.columns .insert)
    (insertRows (e.columns .insert).length records.length) behind ended
  constructor
  · rw [sql, read, Entity.insertBody, columns]
  · rw [sql, read, Entity.insertBody, rows, insertRows_arguments s _ records args]

theorem char_of_assignments (pairs : List (String × Nat)) (c : Char)
    (read : Token.char c ∈ (join ", " (pairs.map assignment)).tokens) : c ∈ [',', ' ', '='] := by
  rcases token_of_join ", " _ _ read with ⟨d, inSeparator, same⟩ | ⟨fragment, member, inFragment⟩
  · cases same
    have separators : [',', ' '] ⊆ [',', ' ', '='] := by decide
    exact separators inSeparator
  · obtain ⟨pair, _, same⟩ := List.mem_map.mp member
    subst same
    have written : (assignment pair).tokens =
        [.name pair.1.toList, .char ' ', .char '=', .char ' ', .place pair.2] := rfl
    have signs : c ∈ [' ', '=', ' '] := by simpa [written] using inFragment
    have known : [' ', '=', ' '] ⊆ [',', ' ', '='] := by decide
    exact known signs

theorem assign_condition (e : Entity) (pairs : List (String × Nat)) (values : List Json) (id : Json) :
    condition? (e.assign (pairs.map assignment) values id).sql.tokens =
      some (idColumn, values.length + 1) := by
  let head := "UPDATE ".toList.map Token.char ++ e.quotedTable.tokens ++ [.char ' ']
  let set := "SET ".toList.map Token.char ++ (join ", " (pairs.map assignment)).tokens ++ [.char ' ']
  let identity := (assignment (idColumn, values.length + 1)).tokens
  have layout : (e.assign (pairs.map assignment) values id).sql.tokens =
      (head ++ set) ++ ("WHERE ".toList.map Token.char ++ identity) := by
    simp [Entity.assign, whereId, tokens_text_cons, head, set, identity, assignment]
  have opening := opening_without e "UPDATE " 'W' (by decide)
  have without : ∀ token ∈ head ++ set, token ≠ .char 'W' := by
    intro token member same
    subst same
    rcases List.mem_append.mp member with inHead | inSet
    · simpa using opening _ inHead
    · rcases List.mem_append.mp inSet with inWord | last
      · rcases List.mem_append.mp inWord with inKeyword | inList
        · revert inKeyword
          decide
        · simpa using char_of_assignments pairs 'W' inList
      · simp at last
  rw [condition?, layout, behind_skip "WHERE " 'W' rfl _ _ without,
    behind_word "WHERE " _ (by decide)]
  rfl

theorem assign_indices (e : Entity) (pairs : List (String × Nat)) (values : List Json) (id : Json) :
    (e.assign (pairs.map assignment) values id).sql.indices =
      pairs.map Prod.snd ++ [values.length + 1] := by
  have list : (pairs.map assignment).flatMap Fragment.indices = pairs.map Prod.snd := by
    rw [List.flatMap_map, List.map_eq_flatMap]
    simp [assignment]
  simp [Entity.assign, whereId, indices_join, table_indices, list]

theorem setColumns_assigns (e : Entity) (wellFormed : e.WellFormed) (columns : List String)
    (clean : ∀ column ∈ columns, '"' ∉ column.toList) (record : Record) (id : Json) :
    (e.setColumns columns record id).Assigns
      (columns.map fun column => (column, some (record.valueAt column))) id := by
  have writes := setColumns_writes e wellFormed columns clean record id
  have readable := assign_readable e wellFormed _ (numberedColumns_unquoted columns clean)
    (columns.map record.valueAt) id
  refine ⟨?_, ⟨columns.length + 1, ?_, ?_⟩, ?_⟩
  · have args : ∀ i (bounded : i < columns.length),
        (columns.map record.valueAt ++ [id])[i]? = some (record.valueAt columns[i]) := by
      intro i bounded
      simp [List.getElem?_append_left, bounded]
    rw [writes.places]
    apply List.ext_getElem
    · simp [grid]
    · intro i _ inColumns
      have bounded : i < columns.length := by simpa using inColumns
      simp [grid, Statement.argument?, Entity.setColumns, Entity.assign, args i bounded]
  · rw [Entity.setColumns, tokens_render _ readable, assign_condition, List.length_map]
  · simp [Statement.argument?, Entity.setColumns, Entity.assign]
  · rw [Entity.setColumns, indices_render _ readable, assign_indices]
    have numbers : (numberedColumns columns).map Prod.snd = List.range' 1 columns.length := by
      apply List.ext_getElem
      · simp [numberedColumns]
      · intro i _ _
        simp [numberedColumns, Nat.add_comm]
    simp [numbers, Entity.assign, List.range'_concat, Nat.add_comm]

theorem insert_refused_iff (e : Entity) (records : List Record) (returning : Option String) :
    (∃ error, e.insert records returning = .error error) ↔
      records = [] ∨ e.columns .insert = [] := by
  by_cases unfilled : records = []
  · simp [Entity.insert, unfilled]
  · by_cases unlisted : e.columns .insert = []
    · simp [Entity.insert, unfilled, unlisted]
    · simp [Entity.insert, unfilled, unlisted]

theorem update_refused_iff (e : Entity) (record : Record) (id : Json) :
    (∃ error, e.update record id = .error error) ↔
      ∀ key ∈ e.columns .update, record.lookup key = none := by
  have lacking : ((e.columns .update).any fun key => (record.lookup key).isSome) = false ↔
      ∀ key ∈ e.columns .update, record.lookup key = none := by
    simp only [List.any_eq_false, Bool.not_eq_true, Option.isSome_eq_false_iff,
      Option.isNone_iff_eq_none]
  rw [← lacking]
  cases present : (e.columns .update).any fun key => (record.lookup key).isSome with
  | true => simp only [Entity.update, present, if_true, reduceCtorEq, exists_false]
  | false => simp [Entity.update, present]

theorem merge_refused_iff (e : Entity) (record : Record) (id : Json) :
    (∃ error, e.merge record id = .error error) ↔
      ∀ key ∈ e.columns .merge, record.lookup key = none := by
  have lacking : ((e.columns .merge).filter fun key => (record.lookup key).isSome) = [] ↔
      ∀ key ∈ e.columns .merge, record.lookup key = none := by
    simp only [List.filter_eq_nil_iff, Bool.not_eq_true, Option.isSome_eq_false_iff,
      Option.isNone_iff_eq_none]
  rw [← lacking, Entity.merge]
  cases (e.columns .merge).filter fun key => (record.lookup key).isSome with
  | nil => simp
  | cons key rest => simp

theorem update_assigns (e : Entity) (wellFormed : e.WellFormed) (record : Record) (id : Json)
    (s : Statement) (accepted : e.update record id = .ok s) :
    s.Assigns ((e.columns .update).map fun key => (key, some (record.valueAt key))) id := by
  rw [update_accepted e record id s accepted]
  exact setColumns_assigns e wellFormed _ (columns_unquoted e wellFormed .update) record id

theorem merge_assigns (e : Entity) (wellFormed : e.WellFormed) (record : Record) (id : Json)
    (s : Statement) (accepted : e.merge record id = .ok s) :
    s.Assigns ((e.mergeColumns record).map fun key => (key, record.lookup key)) id := by
  have values : ((e.mergeColumns record).map fun key => (key, some (record.valueAt key))) =
      (e.mergeColumns record).map fun key => (key, record.lookup key) := by
    apply List.map_congr_left
    intro key member
    obtain ⟨value, found⟩ := Option.isSome_iff_exists.mp (List.mem_filter.mp member).2
    simp [Record.valueAt, found]
  rw [merge_accepted e record id s accepted, ← values]
  exact setColumns_assigns e wellFormed _ (mergeColumns_unquoted e wellFormed record) record id

-- A write puts the value of each key into the column of the key, and is refused only when there is
-- nothing to write. Every argument has one place, unless the name of a returned column, which is
-- not escaped, is read as more than a name.
theorem written_by_place (e : Entity) (built : e.Built) :
    (∀ (records : List Record) (returning : Option String),
      ((∃ error, e.insert records returning = .error error) ↔
        records = [] ∨ e.columns .insert = []) ∧
      ∀ s, e.insert records returning = .ok s →
        s.Inserts (e.columns .insert)
          (records.map fun record => (e.columns .insert).map fun key =>
            some (record.valueAt key)) ∧
        indices s.sql.render = List.range' 1 s.args.length ++ returnedIndices returning ∧
        ((∀ column ∈ returning, '"' ∉ column.toList) →
          indices s.sql.render = List.range' 1 s.args.length)) ∧
    (∀ (record : Record) (id : Json),
      ((∃ error, e.update record id = .error error) ↔
        ∀ key ∈ e.columns .update, record.lookup key = none) ∧
      ∀ s, e.update record id = .ok s →
        s.Assigns ((e.columns .update).map fun key => (key, some (record.valueAt key))) id) ∧
    ∀ (record : Record) (id : Json),
      ((∃ error, e.merge record id = .error error) ↔
        ∀ key ∈ e.columns .merge, record.lookup key = none) ∧
      ∀ s, e.merge record id = .ok s →
        s.Assigns ((e.mergeColumns record).map fun key => (key, record.lookup key)) id := by
  have wellFormed := built_wellFormed e built
  refine ⟨?_, ?_, ?_⟩
  · intro records returning
    refine ⟨insert_refused_iff e records returning, ?_⟩
    intro s accepted
    have places := insert_indices e wellFormed records returning s accepted
    refine ⟨insert_inserts e wellFormed records returning s accepted, places, ?_⟩
    intro unquoted
    rw [places, returnedIndices_unquoted returning unquoted, List.append_nil]
  · intro record id
    exact ⟨update_refused_iff e record id, update_assigns e wellFormed record id⟩
  · intro record id
    exact ⟨merge_refused_iff e record id, merge_assigns e wellFormed record id⟩

def ordersChange : Record := [("cost $1", .ofCount 5), ("note", .string "x")]

theorem ordersChange_written :
    orders.Built ∧
      (∃ s, orders.insert [ordersChange, []] none = .ok s ∧
        s.sql.render =
          "INSERT INTO \"shop\".\"orders\" (\"id\", \"cost $1\", \"meta\", \"itemsJsonAgg\") " ++
            "VALUES ($1, $2, $3, $4), ($5, $6, $7, $8)" ∧
        s.Inserts (orders.columns .insert)
          ([ordersChange, []].map fun record => (orders.columns .insert).map fun key =>
            some (record.valueAt key)) ∧
        indices s.sql.render = List.range' 1 s.args.length) ∧
      orders.mergeColumns ordersChange = ["cost $1"] ∧
      ∃ s, orders.merge ordersChange (.string "a") = .ok s ∧
        s.sql.render =
          "UPDATE \"shop\".\"orders\" SET \"cost $1\" = $1 WHERE \"id\" = $2" ∧
        s.Assigns ((orders.mergeColumns ordersChange).map fun key => (key, ordersChange.lookup key))
          (.string "a") := by
  obtain ⟨insert, _, merge⟩ := written_by_place orders orders_built
  have inserted := ok_getD (orders.insert [ordersChange, []] none) ⟨[], []⟩ (by decide +kernel)
  have merged := ok_getD (orders.merge ordersChange (.string "a")) ⟨[], []⟩ (by decide +kernel)
  obtain ⟨rows, _, places⟩ := (insert [ordersChange, []] none).2 _ inserted
  exact ⟨orders_built, ⟨_, inserted, by decide +kernel, rows, places (by simp)⟩,
    by decide +kernel, _, merged, by decide +kernel, (merge ordersChange (.string "a")).2 _ merged⟩

theorem returned_column_repeats_place :
    ∃ s, orders.insert [ordersChange] (some "id\" = $1, \"id") = .ok s ∧
      s.sql.render =
        "INSERT INTO \"shop\".\"orders\" (\"id\", \"cost $1\", \"meta\", \"itemsJsonAgg\") " ++
          "VALUES ($1, $2, $3, $4) RETURNING \"id\" = $1, \"id\"" ∧
      1 ≤ s.args.length ∧ (indices s.sql.render).count 1 = 2 :=
  ⟨_, ok_getD (orders.insert [ordersChange] (some "id\" = $1, \"id")) ⟨[], []⟩ (by decide +kernel),
    by decide +kernel, by decide +kernel, by decide +kernel⟩

end EntitySchema
