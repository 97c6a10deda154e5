import EntitySchema.Proofs.Sql.Outside
import EntitySchema.Proofs.Sql.Table
import EntitySchema.Session

/-!
# Names that are sent

What reaches a database names the table of the entity and columns of the operation, and nothing
else. Around the names stands the same text whatever a client writes into a call.
-/

set_option autoImplicit false

namespace EntitySchema

open Sql Sql.Fragment

def Entity.statement (e : Entity) (modes : MatchModes) : Call → Except QueryError Statement
  | .select request => .ok (e.select modes request).toStatement
  | .insert records returning => e.insert records returning
  | .update record id => e.update record id
  | .merge record id => e.merge record id
  | .delete ids => e.deleteIds ids
  | .deleteArchived before => .ok (e.deleteArchived before)

namespace Call

def returned? : Call → Option String
  | .insert _ returning => returning
  | _ => none

def word : Call → String
  | .select _ => "FROM "
  | .insert _ _ => "INSERT INTO "
  | .update _ _ | .merge _ _ => "UPDATE "
  | .delete _ | .deleteArchived _ => "DELETE FROM "

def columns (e : Entity) : Call → List String
  | .select _ => e.columns .select
  | .insert _ _ => e.columns .insert
  | .update _ _ => idColumn :: e.columns .update
  | .merge record _ => idColumn :: e.mergeColumns record
  | .delete _ => [idColumn]
  | .deleteArchived _ => [archivedAtColumn]

inductive Alike (e : Entity) (modes : MatchModes) : Call → Call → Prop where
  | select (a b : SelectRequest) (alike : a.Alike e modes b) :
      Alike e modes (.select a) (.select b)
  | insert (a b : List Record) (sameCount : a.length = b.length) :
      Alike e modes (.insert a none) (.insert b none)
  | update (a b : Record) (id id' : Json) : Alike e modes (.update a id) (.update b id')
  | merge (a b : Record) (id id' : Json)
      (sameCount : (e.mergeColumns a).length = (e.mergeColumns b).length) :
      Alike e modes (.merge a id) (.merge b id')
  | delete (a b : List Json) : Alike e modes (.delete a) (.delete b)
  | deleteArchived (a b : Instant) : Alike e modes (.deleteArchived a) (.deleteArchived b)

end Call

theorem delete_sql (e : Entity) (ids : List Json) (s : Statement)
    (accepted : e.deleteIds ids = .ok s) :
    s.sql = .text "DELETE FROM " :: e.quotedTable ++ .text " WHERE " ::
      [.name idColumn, .text " = ANY(", .place 1, .text ")"] := by
  simp only [Entity.deleteIds] at accepted
  split at accepted
  · cases accepted
  · cases accepted
    rfl

section Calls

variable (e : Entity) (modes : MatchModes)

theorem statement_addresses (wellFormed : e.WellFormed) (c : Call) (unreturned : c.returned? = none)
    (s : Statement) (made : e.statement modes c = .ok s) :
    e.Addresses c.word (c.columns e) s.sql := by
  cases c with
  | select request =>
      cases made
      exact e.select_addresses wellFormed modes request
  | insert records returning =>
      cases unreturned
      exact e.insert_addresses wellFormed records s made
  | update record id =>
      rw [update_accepted e record id s made]
      exact e.setColumns_addresses wellFormed _ (columns_unquoted e wellFormed .update) record id
  | merge record id =>
      rw [merge_accepted e record id s made]
      exact e.setColumns_addresses wellFormed _ (mergeColumns_unquoted e wellFormed record) record id
  | delete ids =>
      have identity : '"' ∉ idColumn.toList := by decide
      have opening : " = ANY(" ∈ vocabulary := by decide
      have closing : ")" ∈ vocabulary := by decide
      rw [delete_sql e ids s made]
      refine e.delete_addresses wellFormed _ _ ?_ (by simp [Call.columns, opening, closing])
      exact readable_append_text [.name idColumn] [.place 1, .text ")"] " = ANY("
        (readable_single _ identity) (by decide)
        (readable_append_single [.place 1] ")" (readable_single _ trivial) (by decide))
  | deleteArchived before =>
      have archived : '"' ∉ archivedAtColumn.toList := by decide
      have less : " < " ∈ vocabulary := by decide
      cases made
      refine e.delete_addresses wellFormed _ [.name archivedAtColumn, .text " < ", .place 1] ?_
        (by simp [Call.columns, less])
      exact readable_append_text [.name archivedAtColumn] [.place 1] " < "
        (readable_single _ archived) (by decide) (readable_single _ trivial)

theorem statement_outside (c d : Call) (alike : c.Alike e modes d) (s t : Statement)
    (made : e.statement modes c = .ok s) (made' : e.statement modes d = .ok t) :
    s.sql.outside = t.sql.outside := by
  cases alike with
  | select a b alike =>
      cases made
      cases made'
      exact select_outside e modes a b alike
  | insert a b sameCount =>
      rw [(insert_accepted e a none s made).1, (insert_accepted e b none t made').1, sameCount]
  | update a b id id' =>
      rw [update_accepted e a id s made, update_accepted e b id' t made']
      exact setColumns_outside e _ _ a b id id' rfl
  | merge a b id id' sameCount =>
      rw [merge_accepted e a id s made, merge_accepted e b id' t made']
      exact setColumns_outside e _ _ a b id id' sameCount
  | delete a b => rw [delete_sql e a s made, delete_sql e b t made']
  | deleteArchived a b =>
      cases made
      cases made'
      rfl

theorem columns_quotable (wellFormed : e.WellFormed) (c : Call) :
    ∀ name ∈ tableParts e.table ++ c.columns e,
      '"' ∉ name.toList ∧ ∀ ch ∈ name.toList, isControl ch = false := by
  have column : ∀ op, ∀ key ∈ e.columns op,
      '"' ∉ key.toList ∧ ∀ ch ∈ key.toList, isControl ch = false := fun op key member =>
    ⟨columns_unquoted e wellFormed op key member, columns_printable e wellFormed op key member⟩
  have fixed : ∀ name, keyFault? name = none →
      '"' ∉ name.toList ∧ ∀ ch ∈ name.toList, isControl ch = false := fun name valid =>
    ⟨valid_key_unquoted name valid, valid_key_printable name valid⟩
  have identity := fixed idColumn (by decide +kernel)
  have archived := fixed archivedAtColumn (by decide +kernel)
  intro name member
  rcases List.mem_append.mp member with inTable | inColumns
  · exact ⟨tableParts_unquoted e.table wellFormed.table name inTable,
      tableParts_printable e.table wellFormed.table name inTable⟩
  · cases c with
    | select request => exact column .select name inColumns
    | insert records returning => exact column .insert name inColumns
    | update record id =>
        rcases List.mem_cons.mp inColumns with same | isSet
        · exact same ▸ identity
        · exact column .update name isSet
    | merge record id =>
        rcases List.mem_cons.mp inColumns with same | isSet
        · exact same ▸ identity
        · exact column .merge name (List.mem_filter.mp isSet).1
    | delete ids => exact List.mem_singleton.mp inColumns ▸ identity
    | deleteArchived before => exact List.mem_singleton.mp inColumns ▸ archived

end Calls

-- Read back, a statement that returns nothing is made up of the vocabulary, of places, and of names
-- of the table and of the columns of its call. Its table is that of the entity, and around names
-- and places it does not depend on the words of the client.
theorem statement_confined (e : Entity) (built : e.Built) (modes : MatchModes) (c : Call)
    (unreturned : c.returned? = none) (s : Statement) (made : e.statement modes c = .ok s) :
    let names := tableParts e.table ++ c.columns e
    Composed names (tokens s.sql.render) ∧
      (∀ identifier, .name identifier ∈ tokens s.sql.render →
        String.ofList identifier ∈ names ∧ '"' ∉ identifier ∧
          ∀ ch ∈ identifier, isControl ch = false) ∧
      tableBehind? c.word s.sql.render = some e.table ∧
      ∀ d t, c.Alike e modes d → e.statement modes d = .ok t →
        outside t.sql.render = outside s.sql.render := by
  intro names
  have wellFormed := built_wellFormed e built
  have addressed := statement_addresses e modes wellFormed c unreturned s made
  have composed := composed_render names _ addressed.readable addressed.known
  refine ⟨composed, ?_, Entity.addresses_table e _ _ _ addressed, ?_⟩
  · intro identifier written
    have known := composed_name names _ identifier composed written
    have quotable := columns_quotable e wellFormed c _ known
    simp only [String.toList_ofList] at quotable
    exact ⟨known, quotable⟩
  · intro d t alike made'
    have unreturned' : d.returned? = none := by cases alike <;> rfl
    have addressed' := statement_addresses e modes wellFormed d unreturned' t made'
    rw [outside_render _ addressed.readable, outside_render _ addressed'.readable,
      statement_outside e modes c d alike s t made made']

def plainSearch : SelectRequest :=
  { SelectRequest.all with
    rows := some 10, sortField := some "cost $1"
    filters := [("meta", .single plainMeta), ("nothing", .single plainMeta)] }

def hostileSearch : SelectRequest :=
  { SelectRequest.all with
    rows := some 7, first := 30, sortField := some "id"
    filters :=
      [("meta", .single hostileMeta), ("\"; DROP TABLE orders; --", .malformed .null .malformed)] }

theorem hostileSearch_alike :
    (Call.select plainSearch).Alike orders .standard (.select hostileSearch) := by
  have searched : Filter.Alike orders .standard "meta" plainMeta hostileMeta :=
    ⟨rfl, rfl, rfl, (fun _ _ _ unnamed => by cases unnamed), by decide +kernel⟩
  have unknown : FilterInput.Fruitless orders .standard "nothing" (.single plainMeta) := by
    intro filter member
    obtain ⟨anomaly, refused⟩ := error_of_isOk
      (Interpretation.condition orders .standard "nothing" plainMeta) (by decide +kernel)
    have same : filter = plainMeta := List.mem_singleton.mp member
    exact ⟨anomaly, (compile_refused _ _ _ _ _ _).mpr (same ▸ refused)⟩
  have malformed : ∀ field, FilterInput.Fruitless orders .standard field (.malformed .null .malformed) := by
    intro field filter member
    cases member
  refine .select _ _ ⟨?_, rfl, rfl, rfl, by decide +kernel, rfl⟩
  exact .entry "meta" _ _ _ _ (.single _ _ searched)
    (.fruitless "nothing" _ _ _ _ _ unknown (malformed _) .nil)

theorem hostileSearch_confined :
    orders.Built ∧
      tableBehind? "FROM " (orders.select .standard plainSearch).sql.render = some "shop.orders" ∧
      outside (orders.select .standard hostileSearch).sql.render =
        outside (orders.select .standard plainSearch).sql.render := by
  obtain ⟨_, _, table, same⟩ :=
    statement_confined orders orders_built .standard (.select plainSearch) rfl _ rfl
  have named : orders.table = "shop.orders" := by decide +kernel
  rw [named] at table
  exact ⟨orders_built, table, same _ _ hostileSearch_alike rfl⟩

end EntitySchema
