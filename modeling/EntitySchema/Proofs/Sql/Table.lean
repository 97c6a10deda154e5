import EntitySchema.Proofs.Filter.Vocabulary
import EntitySchema.Proofs.Sql.Keyword
import EntitySchema.Proofs.Sql.Write

set_option autoImplicit false

namespace EntitySchema

open Sql Sql.Fragment

namespace Sql

def dotted : List Token → List String
  | .name part :: .char '.' :: rest => String.ofList part :: dotted rest
  | .name part :: _ => [String.ofList part]
  | _ => []

def tableBehind? (word sql : String) : Option String :=
  (behind? word (tokens sql)).map fun read => ".".intercalate (dotted read)

def Detached (read : List Token) : Prop := read.head? ≠ some (.char '.')

theorem detached_append (left right : List Token) (first : Detached left) (second : Detached right) :
    Detached (left ++ right) := by
  cases left with
  | nil => exact second
  | cons token rest => exact first

theorem dotted_names (parts : List String) (given : parts ≠ []) (behind : List Token)
    (ended : Detached behind) :
    dotted ((join "." (parts.map fun part => [.name part])).tokens ++ behind) = parts := by
  have written : ∀ part, Fragment.tokens [.name part] = [.name part.toList] := fun _ => rfl
  induction parts with
  | nil => exact absurd rfl given
  | cons first rest ih =>
      cases rest with
      | nil =>
          simp only [List.map_cons, List.map_nil, join, written, List.cons_append, List.nil_append]
          rw [dotted]
          · simp
          · intro later same
            exact ended (by simp [same])
      | cons second others =>
          have dot : ".".toList.map Token.char = [.char '.'] := rfl
          simp only [List.map_cons] at ih ⊢
          rw [tokens_join_cons, written, dot]
          simp only [List.cons_append, List.nil_append, dotted, String.ofList_toList]
          rw [ih (by simp)]

end Sql

namespace Entity

structure Addresses (e : Entity) (word : String) (columns : List String) (sql : Fragment) :
    Prop where
  readable : sql.Readable
  known : sql.From (tableParts e.table ++ columns)
  table : ∃ behind, Detached behind ∧ behind? word sql.tokens = some (e.quotedTable.tokens ++ behind)

theorem addresses_table (e : Entity) (word : String) (columns : List String) (sql : Fragment)
    (addressed : e.Addresses word columns sql) : tableBehind? word sql.render = some e.table := by
  obtain ⟨behind, ended, found⟩ := addressed.table
  have parts : tableParts e.table ≠ [] := by
    simpa [tableParts] using split_parts_nonempty '.' e.table.toList
  rw [tableBehind?, tokens_render _ addressed.readable, found, Option.map_some,
    Entity.quotedTable, dotted_names _ parts behind ended, tableParts_joined]

theorem table_from (e : Entity) (columns : List String) :
    e.quotedTable.From (tableParts e.table ++ columns) :=
  from_join _ "." (by decide) _ (from_names _ _ (by simp +contextual))

theorem columns_from (e : Entity) (columns : List String) :
    (join ", " (columns.map fun column => [.name column])).From (tableParts e.table ++ columns) :=
  from_join _ ", " (by decide) _ (from_names _ _ (by simp +contextual))

theorem whereClause_from (names : List String) (c : Compiled) (connective : Connective)
    (known : ∀ fragment ∈ c.fragments, fragment.From names) :
    (c.whereClause connective).From names := by
  unfold Compiled.whereClause Compiled.predicate?
  cases shape : c.fragments with
  | nil => exact from_nil names
  | cons fragment rest =>
      rw [shape] at known
      have opening : " WHERE " ∈ vocabulary := by decide
      have between : " " ++ connective.name ++ " " ∈ vocabulary := by cases connective <;> decide
      exact (from_cons names _ _).mpr ⟨opening, from_join names _ between _ known⟩

theorem orderClause_from (e : Entity) (request : SelectRequest) :
    (e.orderClause request).From (e.columns .select) := by
  unfold orderClause
  cases request.sortField with
  | none => exact from_nil _
  | some field =>
      simp only
      split
      · rename_i selectable
        obtain ⟨p, found, readable⟩ := selectable_found e field selectable
        have column := selectable_column e field p found readable
        have opening : " ORDER BY " ∈ vocabulary := by decide
        have direction : " " ++ request.sortOrder.name ∈ vocabulary := by
          cases request.sortOrder <;> decide
        simp [opening, column, direction]
      · exact from_nil _

theorem pageClause_from (names : List String) (request : SelectRequest) (bound : Nat) :
    (request.pageClause bound).sql.From names := by
  have limit : " LIMIT " ∈ vocabulary := by decide
  have offset : " OFFSET " ∈ vocabulary := by decide
  unfold SelectRequest.pageClause
  cases request.rows <;> simp [limit, offset]

theorem columnList_from (e : Entity) (withTotal : Bool) :
    (e.columnList .select withTotal).From (tableParts e.table ++ e.columns .select) := by
  have total : "COUNT(*) OVER () AS total" ∈ vocabulary := by decide
  refine from_join _ ", " (by decide) _ ?_
  intro fragment member
  rcases List.mem_append.mp member with inColumns | last
  · exact from_names _ (e.columns .select) (by simp +contextual) fragment inColumns
  · cases withTotal <;> simp_all [totalColumn]

-- Before the table of a select stands no word that begins like the one it is found by.
theorem columnList_without (e : Entity) (withTotal : Bool) :
    ∀ token ∈ (e.columnList .select withTotal).tokens, token ≠ .char 'F' := by
  intro token member same
  subst same
  rcases token_of_join ", " _ _ member with ⟨c, inSeparator, same⟩ | ⟨fragment, written, read⟩
  · cases same
    exact absurd inSeparator (by decide)
  · rcases List.mem_append.mp written with inColumns | last
    · obtain ⟨column, _, same⟩ := List.mem_map.mp inColumns
      subst same
      simp [Fragment.tokens, Piece.tokens] at read
    · cases withTotal with
      | false => simp at last
      | true =>
          have same : fragment = totalColumn := by simpa using last
          subst same
          revert read
          decide

theorem select_from (e : Entity) (modes : MatchModes) (request : SelectRequest) :
    (e.select modes request).sql.From (tableParts e.table ++ e.columns .select) := by
  have among : e.columns .select ⊆ tableParts e.table ++ e.columns .select :=
    List.subset_append_right _ _
  have opening : "SELECT " ∈ vocabulary := by decide
  have source : " FROM " ∈ vocabulary := by decide
  have head : (e.selectHead request.pagination).From (tableParts e.table ++ e.columns .select) := by
    simp [selectHead, opening, source, columnList_from, table_from]
  have condition := from_subset _ _ among _
    (whereClause_from _ _ request.connective (filterMap_reads e modes request.filters 0))
  have order := from_subset _ _ among _ (orderClause_from e request)
  have page := pageClause_from (tableParts e.table ++ e.columns .select) request
    (request.filters.compile e modes 0).values.length
  simp only [select, from_append]
  exact ⟨⟨⟨head, condition⟩, order⟩, page⟩

theorem whereClause_detached (c : Compiled) (connective : Connective) :
    Detached (c.whereClause connective).tokens := by
  unfold Compiled.whereClause
  cases c.predicate? connective <;> simp [Detached, tokens_text_cons]

theorem orderClause_detached (e : Entity) (request : SelectRequest) :
    Detached (e.orderClause request).tokens := by
  unfold orderClause
  cases request.sortField with
  | none => simp [Detached]
  | some field =>
      simp only
      split <;> simp [Detached, tokens_text_cons]

theorem pageClause_detached (request : SelectRequest) (bound : Nat) :
    Detached (request.pageClause bound).sql.tokens := by
  unfold SelectRequest.pageClause
  cases request.rows <;> simp [Detached, tokens_text_cons]

theorem select_addresses (e : Entity) (wellFormed : e.WellFormed) (modes : MatchModes)
    (request : SelectRequest) :
    e.Addresses "FROM " (e.columns .select) (e.select modes request).sql := by
  refine ⟨(select_numbered e wellFormed modes request).readable, select_from e modes request, ?_⟩
  let compiled := request.filters.compile e modes 0
  let before := "SELECT ".toList.map Token.char ++
    (e.columnList .select request.pagination).tokens ++ [.char ' ']
  let behind := (compiled.whereClause request.connective).tokens ++
    ((e.orderClause request).tokens ++ (request.pageClause compiled.values.length).sql.tokens)
  have layout : (e.select modes request).sql.tokens =
      before ++ ("FROM ".toList.map .char ++ (e.quotedTable.tokens ++ behind)) := by
    simp [select, selectHead, tokens_text_cons, before, behind, compiled]
  have verb : ∀ token ∈ "SELECT ".toList.map Token.char, token ≠ .char 'F' := by decide
  have without : ∀ token ∈ before, token ≠ .char 'F' := by
    intro token member
    rcases List.mem_append.mp member with front | last
    · rcases List.mem_append.mp front with inVerb | inList
      · exact verb token inVerb
      · exact columnList_without e request.pagination token inList
    · simp_all
  refine ⟨behind, ?_, ?_⟩
  · exact detached_append _ _ (whereClause_detached compiled request.connective)
      (detached_append _ _ (orderClause_detached e request) (pageClause_detached request _))
  · rw [layout, behind_skip "FROM " 'F' rfl _ _ without, behind_word "FROM " _ (by decide)]

theorem table_behind_verb (e : Entity) (verb : String) (given : verb.toList ≠ []) (rest : Fragment)
    (ended : Detached rest.tokens) :
    ∃ behind, Detached behind ∧ behind? verb (Fragment.tokens (.text verb :: e.quotedTable ++ rest)) =
      some (e.quotedTable.tokens ++ behind) := by
  refine ⟨rest.tokens, ended, ?_⟩
  rw [List.cons_append, tokens_text_cons, behind_word verb _ given, tokens_append]

theorem insert_addresses (e : Entity) (wellFormed : e.WellFormed) (records : List Record)
    (s : Statement) (accepted : e.insert records none = .ok s) :
    e.Addresses "INSERT INTO " (e.columns .insert) s.sql := by
  obtain ⟨sql, _⟩ := insert_accepted e records none s accepted
  rw [sql, returned, List.append_nil]
  refine ⟨insertBody_readable e wellFormed records.length, ?_, ?_⟩
  · have opening : "INSERT INTO " ∈ vocabulary := by decide
    have listed : " (" ∈ vocabulary := by decide
    have values : ") VALUES " ∈ vocabulary := by decide
    have rows : ∀ rows : List (List Nat),
        (join ", " (rows.map tuple)).From (tableParts e.table ++ e.columns .insert) := by
      intro rows
      refine from_join _ ", " (by decide) _ ?_
      intro fragment member
      obtain ⟨places, _, same⟩ := List.mem_map.mp member
      subst same
      refine from_parenthesized _ _ (from_join _ ", " (by decide) _ ?_)
      simp
    simp [insertBody, insertHead, opening, listed, values, rows, table_from, columns_from]
  · rw [insertBody, insertHead, List.append_assoc]
    exact table_behind_verb e "INSERT INTO " (by decide) _ (by simp [Detached, tokens_text_cons])

theorem setColumns_addresses (e : Entity) (wellFormed : e.WellFormed) (columns : List String)
    (clean : ∀ column ∈ columns, '"' ∉ column.toList) (record : Record) (id : Json) :
    e.Addresses "UPDATE " (idColumn :: columns) (e.setColumns columns record id).sql := by
  refine ⟨assign_readable e wellFormed _ (numberedColumns_unquoted columns clean) _ id, ?_, ?_⟩
  · have opening : "UPDATE " ∈ vocabulary := by decide
    have set : " SET " ∈ vocabulary := by decide
    have equals : " = " ∈ vocabulary := by decide
    have condition : " WHERE " ∈ vocabulary := by decide
    have list : (join ", " ((numberedColumns columns).map assignment)).From
        (tableParts e.table ++ idColumn :: columns) := by
      refine from_join _ ", " (by decide) _ ?_
      intro fragment member
      obtain ⟨pair, inPairs, same⟩ := List.mem_map.mp member
      obtain ⟨i, bounded, same'⟩ := List.mem_mapIdx.mp inPairs
      subst same same'
      simp [assignment, equals]
    simp [setColumns, assign, whereId, opening, set, equals, condition, list, table_from]
  · rw [setColumns, assign, List.append_assoc]
    exact table_behind_verb e "UPDATE " (by decide) _ (by simp [Detached, tokens_text_cons])

theorem delete_addresses (e : Entity) (wellFormed : e.WellFormed) (columns : List String)
    (condition : Fragment) (readable : condition.Readable) (known : condition.From columns) :
    e.Addresses "DELETE FROM " columns
      (.text "DELETE FROM " :: e.quotedTable ++ .text " WHERE " :: condition) := by
  have source := readable_text_cons _ "DELETE FROM " (by decide) (table_readable e wellFormed)
  refine ⟨readable_append_text _ _ " WHERE " source (by decide) readable, ?_, ?_⟩
  · have opening : "DELETE FROM " ∈ vocabulary := by decide
    have restricted : " WHERE " ∈ vocabulary := by decide
    have among := from_subset _ (tableParts e.table ++ columns) (List.subset_append_right _ _) _ known
    simp [opening, restricted, among, table_from]
  · exact table_behind_verb e "DELETE FROM " (by decide) _ (by simp [Detached, tokens_text_cons])

end Entity

end EntitySchema
