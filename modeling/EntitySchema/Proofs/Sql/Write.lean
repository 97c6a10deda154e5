import EntitySchema.Proofs.Sql.Columns
import EntitySchema.Proofs.Sql.Select
import EntitySchema.Sql.Write

set_option autoImplicit false

namespace EntitySchema

open Sql Sql.Fragment

def grid (columns : List String) (rows : Nat) : List ColumnPlace :=
  (List.range rows).flatMap fun row =>
    columns.mapIdx fun i column => ⟨row, column, row * columns.length + i + 1⟩

theorem grid_member (columns : List String) (rows : Nat) (place : ColumnPlace)
    (member : place ∈ grid columns rows) :
    ∃ i, ∃ bounded : i < columns.length, place.row < rows ∧ place.column = columns[i] ∧
      place.index = place.row * columns.length + i + 1 := by
  obtain ⟨row, inRange, inRow⟩ := List.mem_flatMap.mp member
  obtain ⟨i, bounded, same⟩ := List.mem_mapIdx.mp inRow
  subst same
  exact ⟨i, bounded, List.mem_range.mp inRange, rfl, rfl⟩

theorem grid_indices (columns : List String) (rows : Nat) :
    (grid columns rows).map ColumnPlace.index = List.range' 1 (rows * columns.length) := by
  induction rows with
  | zero => simp [grid]
  | succ rows ih =>
      have last : (columns.mapIdx fun i column =>
          ColumnPlace.mk rows column (rows * columns.length + i + 1)).map ColumnPlace.index =
          List.range' (1 + rows * columns.length) columns.length := by
        apply List.ext_getElem
        · simp
        · intro i _ _
          simp
          omega
      have split : grid columns (rows + 1) = grid columns rows ++
          columns.mapIdx fun i column => ⟨rows, column, rows * columns.length + i + 1⟩ := by
        simp [grid, List.range_succ]
      rw [split, List.map_append, ih, last, Nat.succ_mul, List.range'_append_1]

theorem grid_rows (columns : List String) (rows : Nat) :
    (((List.range rows).map fun row => List.range' (row * columns.length + 1) columns.length).mapIdx
      fun row places => (columns.zip places).map fun (column, index) => ColumnPlace.mk row column index).flatten =
      grid columns rows := by
  have row : ∀ i, (columns.zip (List.range' (i * columns.length + 1) columns.length)).map
      (fun (column, index) => ColumnPlace.mk i column index) =
      columns.mapIdx fun j column => ⟨i, column, i * columns.length + j + 1⟩ := by
    intro i
    apply List.ext_getElem
    · simp
    · intro j _ _
      simp
      omega
  rw [grid, List.flatMap_def]
  congr 1
  apply List.ext_getElem
  · simp
  · intro i _ _
    simp [row]

theorem flatMap_getElem {α β : Type} (f : α → List β) (width : Nat) (values : List α)
    (uniform : ∀ value ∈ values, (f value).length = width) (row i : Nat) (bounded : i < width) :
    (values.flatMap f)[row * width + i]? = values[row]?.bind fun value => (f value)[i]? := by
  induction values generalizing row with
  | nil => simp
  | cons value rest ih =>
      have here := uniform value (by simp)
      have later := fun row => ih (fun other member => uniform other (by simp [member])) row
      cases row with
      | zero => simp [List.getElem?_append_left (here.symm ▸ bounded)]
      | succ row =>
          have beyond : (f value).length ≤ (row + 1) * width + i := by
            rw [here, Nat.succ_mul]
            omega
          have rest : (row + 1) * width + i - (f value).length = row * width + i := by
            rw [here, Nat.succ_mul]
            omega
          rw [List.flatMap_cons, List.getElem?_append_right beyond, rest, later row]
          simp

structure Statement.Writes (statement : Statement) (columns : List String) (records : List Record)
    (others : List Json) : Prop where
  places : columnPlaces statement.sql.render = grid columns records.length
  args : statement.args = (records.flatMap fun record => columns.map record.valueAt) ++ others

theorem writes_argument (statement : Statement) (columns : List String) (records : List Record)
    (others : List Json) (writes : statement.Writes columns records others) (place : ColumnPlace)
    (member : place ∈ columnPlaces statement.sql.render) :
    ∃ record, records[place.row]? = some record ∧ place.column ∈ columns ∧
      statement.args[place.index - 1]? = some (record.valueAt place.column) := by
  rw [writes.places] at member
  obtain ⟨i, bounded, inRows, column, index⟩ := grid_member columns _ place member
  refine ⟨records[place.row], List.getElem?_eq_getElem inRows, column ▸ List.getElem_mem bounded, ?_⟩
  have found := flatMap_getElem (fun record : Record => columns.map record.valueAt) columns.length
    records (by simp) place.row i bounded
  rw [List.getElem?_eq_getElem inRows, Option.bind_some, List.getElem?_map,
    List.getElem?_eq_getElem bounded, Option.map_some, ← column] at found
  have within : place.row * columns.length + i <
      (records.flatMap fun record => columns.map record.valueAt).length := by
    by_contra beyond
    rw [List.getElem?_eq_none (by omega)] at found
    cases found
  rw [writes.args, index, Nat.add_sub_cancel, List.getElem?_append_left within, found]

theorem opening_without (e : Entity) (verb : String) (c : Char)
    (foreign : c ∉ '.' :: ' ' :: verb.toList) :
    ∀ token ∈ verb.toList.map Token.char ++ e.quotedTable.tokens ++ [.char ' '],
      (token != .char c) = true := by
  intro token member
  simp only [bne_iff_ne]
  intro same
  subst same
  apply foreign
  rcases List.mem_append.mp member with front | last
  · rcases List.mem_append.mp front with inVerb | inTable
    · obtain ⟨d, inText, same⟩ := List.mem_map.mp inVerb
      cases same
      simp [inText]
    · have separator := char_of_names "." (tableParts e.table) c inTable
      simp_all
  · simp_all

theorem table_readable (e : Entity) (wellFormed : e.WellFormed) : e.quotedTable.Readable :=
  (table_numbered e wellFormed 0).readable

def assignment : String × Nat → Fragment
  | (column, index) => [.name column, .text " = ", .place index]

theorem assignment_readable (column : String) (index : Nat) (clean : '"' ∉ column.toList) :
    (assignment (column, index)).Readable :=
  readable_append_text [.name column] [.place index] " = " (readable_single _ clean) (by decide)
    (readable_single _ trivial)

theorem assign_readable (e : Entity) (wellFormed : e.WellFormed) (pairs : List (String × Nat))
    (clean : ∀ pair ∈ pairs, '"' ∉ pair.1.toList) (values : List Json) (id : Json) :
    (e.assign (pairs.map assignment) values id).sql.Readable := by
  have list : (join ", " (pairs.map assignment)).Readable := by
    apply readable_join ", " (by decide)
    intro fragment member
    obtain ⟨pair, inPairs, same⟩ := List.mem_map.mp member
    exact same ▸ assignment_readable pair.1 pair.2 (clean pair inPairs)
  have identity := assignment_readable idColumn (values.length + 1) (by decide)
  have set := readable_append_text _ _ " SET "
    (readable_text_cons _ "UPDATE " (by decide) (table_readable e wellFormed)) (by decide) list
  have whole := readable_append_text _ _ " WHERE " set (by decide) identity
  simpa [Entity.assign, whereId, assignment] using whole

theorem assign_places (e : Entity) (wellFormed : e.WellFormed) (pairs : List (String × Nat))
    (clean : ∀ pair ∈ pairs, '"' ∉ pair.1.toList) (values : List Json) (id : Json) :
    columnPlaces (e.assign (pairs.map assignment) values id).sql.render =
      pairs.map fun (column, index) => ⟨0, column, index⟩ := by
  let head := "UPDATE ".toList.map Token.char ++ e.quotedTable.tokens ++ [.char ' ']
  let condition := Fragment.tokens [.name idColumn, .text " = ", .place (values.length + 1)]
  have layout : (e.assign (pairs.map assignment) values id).sql.tokens =
      head ++ .char 'S' :: .char 'E' :: .char 'T' :: .char ' ' ::
        ((join ", " (pairs.map assignment)).tokens ++
          .char ' ' :: .char 'W' :: ("HERE ".toList.map .char ++ condition)) := by
    simp [Entity.assign, whereId, tokens_text_cons, condition, head]
  have skipped := opening_without e "UPDATE " 'S' (by decide)
  have update : (tokens (e.assign (pairs.map assignment) values id).sql.render).head? =
      some (.char 'U') := by
    rw [tokens_render _ (assign_readable e wellFormed pairs clean values id), layout]
    rfl
  rw [columnPlaces, if_neg (by rw [update]; decide),
    tokens_render _ (assign_readable e wellFormed pairs clean values id), layout,
    List.dropWhile_append_of_pos skipped, List.dropWhile_cons_of_neg (by decide),
    assigned_char _ _ (by decide), assigned_char _ _ (by decide), assigned_char _ _ (by decide),
    assigned_char _ _ (by decide)]
  exact assigned_join pairs _

def numberedColumns (columns : List String) : List (String × Nat) :=
  columns.mapIdx fun i column => (column, i + 1)

theorem numberedColumns_assignments (columns : List String) :
    (columns.mapIdx fun i column => [.name column, .text " = ", .place (i + 1)]) =
      (numberedColumns columns).map assignment := by
  simp only [numberedColumns, List.mapIdx_eq_zipIdx_map, List.map_map]
  rfl

theorem numberedColumns_unquoted (columns : List String)
    (clean : ∀ column ∈ columns, '"' ∉ column.toList) :
    ∀ pair ∈ numberedColumns columns, '"' ∉ pair.1.toList := by
  intro pair member
  obtain ⟨i, bounded, same⟩ := List.mem_mapIdx.mp member
  subst same
  exact clean _ (List.getElem_mem bounded)

def Entity.setColumns (e : Entity) (columns : List String) (record : Record) (id : Json) : Statement :=
  e.assign ((numberedColumns columns).map assignment) (columns.map record.valueAt) id

theorem setColumns_writes (e : Entity) (wellFormed : e.WellFormed) (columns : List String)
    (clean : ∀ column ∈ columns, '"' ∉ column.toList) (record : Record) (id : Json) :
    (e.setColumns columns record id).Writes columns [record] [id] := by
  constructor
  · rw [Entity.setColumns, assign_places e wellFormed _ (numberedColumns_unquoted columns clean)]
    simp [grid, numberedColumns, List.mapIdx_eq_zipIdx_map]
  · simp [Entity.setColumns, Entity.assign]

theorem update_accepted (e : Entity) (record : Record) (id : Json) (statement : Statement)
    (accepted : e.update record id = .ok statement) :
    statement = e.setColumns (e.columns .update) record id := by
  rw [Entity.setColumns, ← numberedColumns_assignments]
  simp only [Entity.update] at accepted
  split at accepted
  · cases accepted
    rfl
  · cases accepted

def Entity.mergeColumns (e : Entity) (record : Record) : List String :=
  (e.columns .merge).filter fun key => (record.lookup key).isSome

theorem mergeColumns_unquoted (e : Entity) (wellFormed : e.WellFormed) (record : Record) :
    ∀ column ∈ e.mergeColumns record, '"' ∉ column.toList := fun column member =>
  columns_unquoted e wellFormed .merge column (List.mem_filter.mp member).1

theorem merge_accepted (e : Entity) (record : Record) (id : Json) (statement : Statement)
    (accepted : e.merge record id = .ok statement) :
    statement = e.setColumns (e.mergeColumns record) record id := by
  rw [Entity.setColumns, ← numberedColumns_assignments]
  simp only [Entity.merge] at accepted
  split at accepted
  · cases accepted
  · cases accepted
    rfl

theorem update_writes (e : Entity) (wellFormed : e.WellFormed) (record : Record) (id : Json)
    (statement : Statement) (accepted : e.update record id = .ok statement) :
    statement.Writes (e.columns .update) [record] [id] := by
  rw [update_accepted e record id statement accepted]
  exact setColumns_writes e wellFormed _ (columns_unquoted e wellFormed .update) record id

theorem merge_writes (e : Entity) (wellFormed : e.WellFormed) (record : Record) (id : Json)
    (statement : Statement) (accepted : e.merge record id = .ok statement) :
    statement.Writes (e.mergeColumns record) [record] [id] := by
  rw [merge_accepted e record id statement accepted]
  exact setColumns_writes e wellFormed _ (mergeColumns_unquoted e wellFormed record) record id

def Entity.insertHead (e : Entity) (columns : List String) (rows : List (List Nat)) : Fragment :=
  .text "INSERT INTO " :: e.quotedTable ++ .text " (" ::
    join ", " (columns.map fun column => [.name column]) ++ .text ") VALUES " :: join ", " (rows.map tuple)

theorem tuple_readable (places : List Nat) : (tuple places).Readable := by
  apply readable_parenthesized
  apply readable_join ", " (by decide)
  intro fragment member
  obtain ⟨index, _, same⟩ := List.mem_map.mp member
  exact same ▸ readable_single _ trivial

theorem insertHead_readable (e : Entity) (wellFormed : e.WellFormed) (columns : List String)
    (clean : ∀ column ∈ columns, '"' ∉ column.toList) (rows : List (List Nat)) :
    (e.insertHead columns rows).Readable := by
  have names : (join ", " (columns.map fun column => [.name column])).Readable :=
    readable_join ", " (by decide) _ (names_row columns 0 clean).readable
  have values : (join ", " (rows.map tuple)).Readable := by
    apply readable_join ", " (by decide)
    intro fragment member
    obtain ⟨places, _, same⟩ := List.mem_map.mp member
    exact same ▸ tuple_readable places
  have into := readable_text_cons _ "INSERT INTO " (by decide) (table_readable e wellFormed)
  have listed := readable_append_text _ _ " (" into (by decide) names
  exact readable_append_text _ _ ") VALUES " listed (by decide) values

theorem insertHead_listed (e : Entity) (columns : List String) (rows : List (List Nat))
    (behind : List Token) (ended : tuples behind = []) :
    listedColumns ((e.insertHead columns rows).tokens ++ behind) = columns ∧
      listedRows ((e.insertHead columns rows).tokens ++ behind) = rows := by
  let table := "INSERT INTO ".toList.map Token.char ++ e.quotedTable.tokens ++ [.char ' ']
  let names := (join ", " (columns.map fun column => [.name column])).tokens
  let values := " VALUES ".toList.map Token.char ++ ((join ", " (rows.map tuple)).tokens ++ behind)
  have layout : (e.insertHead columns rows).tokens ++ behind =
      table ++ .char '(' :: (names ++ .char ')' :: values) := by
    simp [Entity.insertHead, tokens_text_cons, table, names, values]
  have unopened := opening_without e "INSERT INTO " '(' (by decide)
  have unclosed : ∀ token ∈ table ++ .char '(' :: names, (token != .char ')') = true := by
    intro token member
    rcases List.mem_append.mp member with inTable | inNames
    · exact opening_without e "INSERT INTO " ')' (by decide) token inTable
    · simp only [bne_iff_ne]
      intro same
      subst same
      rcases List.mem_cons.mp inNames with here | inside
      · cases here
      · exact absurd (char_of_names ", " columns ')' inside) (by decide)
  have nameless : ∀ token ∈ .char '(' :: names, (token != .char ')') = true :=
    fun token member => unclosed token (List.mem_append_right _ member)
  have split : table ++ .char '(' :: (names ++ .char ')' :: values) =
      (table ++ .char '(' :: names) ++ .char ')' :: values := by simp
  rw [layout]
  constructor
  · rw [listedColumns, List.dropWhile_append_of_pos unopened, List.dropWhile_cons_of_neg (by decide),
      ← List.cons_append, List.takeWhile_append_of_pos nameless]
    rw [List.takeWhile_cons_of_neg (by decide), List.append_nil, List.filterMap_cons_none rfl]
    exact names_read ", " columns
  · rw [listedRows, split, List.dropWhile_append_of_pos unclosed,
      List.dropWhile_cons_of_neg (by decide)]
    have skipped : tuples (.char ')' :: values) =
        tuples ((join ", " (rows.map tuple)).tokens ++ behind) :=
      tuples_skip (")".toList.map .char ++ " VALUES ".toList.map .char) _ (by decide)
    rw [skipped, tuples_join, ended, List.append_nil]

def returned : Option String → Fragment
  | some column => [.text " RETURNING ", .name column]
  | none => []

theorem returned_name_tokens (head : Fragment) (readable : head.Readable) (column : String) :
    tokens (head ++ returned (some column)).render =
      head.tokens ++ (" RETURNING ".toList.map .char ++ tokens (Fragment.render [.name column])) := by
  have ended := readable_append_single head " RETURNING " readable (by decide)
  have read := tokens_render_append head " RETURNING " (Fragment.render [.name column]) ended
  rw [← render_append] at read
  simpa [returned, tokens_text_cons] using read

theorem returned_tokens (head : Fragment) (readable : head.Readable) (returning : Option String) :
    ∃ behind, tuples behind = [] ∧
      tokens (head ++ returned returning).render = head.tokens ++ behind := by
  cases returning with
  | none =>
      refine ⟨[], rfl, ?_⟩
      simp [returned, tokens_render head readable]
  | some column =>
      exact ⟨_, tuples_skip [.char ' '] _ (by decide), returned_name_tokens head readable column⟩

theorem insertRow_tuple (width row : Nat) :
    Entity.insertRow width row = tuple (List.range' (row * width + 1) width) := by
  have indices : List.range' (row * width + 1) width =
      (List.range width).map fun i => row * width + i + 1 := by
    rw [List.range'_eq_map_range]
    apply List.map_congr_left
    intro i _
    omega
  simp [Entity.insertRow, tuple, places, indices, Function.comp_def]

def insertRows (width count : Nat) : List (List Nat) :=
  (List.range count).map fun row => List.range' (row * width + 1) width

def Entity.insertBody (e : Entity) (count : Nat) : Fragment :=
  e.insertHead (e.columns .insert) (insertRows (e.columns .insert).length count)

theorem insertBody_readable (e : Entity) (wellFormed : e.WellFormed) (count : Nat) :
    (e.insertBody count).Readable :=
  insertHead_readable e wellFormed _ (columns_unquoted e wellFormed .insert) _

theorem insert_accepted (e : Entity) (records : List Record) (returning : Option String)
    (statement : Statement) (accepted : e.insert records returning = .ok statement) :
    statement.sql = e.insertBody records.length ++ returned returning ∧
    statement.args = records.flatMap fun record => (e.columns .insert).map record.valueAt := by
  have rows : (List.range records.length).map (Entity.insertRow (e.columns .insert).length) =
      (insertRows (e.columns .insert).length records.length).map tuple := by
    simp [insertRows, insertRow_tuple, Function.comp_def]
  simp only [Entity.insert] at accepted
  split at accepted
  · cases accepted
  · split at accepted
    · cases accepted
    · cases accepted
      refine ⟨?_, rfl⟩
      rw [Entity.insertBody, Entity.insertHead, ← rows]
      cases returning <;> rfl

theorem insert_writes (e : Entity) (wellFormed : e.WellFormed) (records : List Record)
    (returning : Option String) (statement : Statement)
    (accepted : e.insert records returning = .ok statement) :
    statement.Writes (e.columns .insert) records [] := by
  obtain ⟨sql, args⟩ := insert_accepted e records returning statement accepted
  obtain ⟨behind, ended, read⟩ :=
    returned_tokens _ (insertBody_readable e wellFormed records.length) returning
  obtain ⟨columns, rows⟩ := insertHead_listed e (e.columns .insert)
    (insertRows (e.columns .insert).length records.length) behind ended
  have head : (e.insertBody records.length).tokens.head? = some (.char 'I') := rfl
  constructor
  · rw [columnPlaces, sql, read, List.head?_append, head, Option.some_or, if_pos rfl,
      inserted_listed, Entity.insertBody, columns, rows]
    exact grid_rows (e.columns .insert) records.length
  · simp [args]

end EntitySchema
