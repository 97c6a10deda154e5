import EntitySchema.Request.Fault
import EntitySchema.Sql.Select
import EntitySchema.Time.Instant

/-!
# Write statements

Inserts, updates and deletes over the columns of their operations. Every value is bound; of what
comes from outside, only the column that an insert returns is written into the SQL.
-/

set_option autoImplicit false

namespace EntitySchema

def idColumn : String := "id"

def archivedAtColumn : String := "archivedAt"

namespace Record

def valueAt (record : Record) (key : String) : Json := (record.lookup key).getD .null

end Record

namespace Sql

def places (bound count : Nat) : List Fragment :=
  (List.range count).map fun i => [.place (bound + i + 1)]

def whereId (index : Nat) : Fragment := [.text " WHERE ", .name idColumn, .text " = ", .place index]

end Sql

namespace Entity

def insertRow (width row : Nat) : Sql.Fragment :=
  Sql.Fragment.parenthesized (Sql.Fragment.join ", " (Sql.places (row * width) width))

def insert (e : Entity) (records : List Record) (returning : Option String) :
    Except QueryError Statement :=
  let keys := e.columns .insert
  if records.isEmpty then .error .noRecords
  else if keys.isEmpty then .error (.nothingToWrite e.name)
  else
    let rows := (List.range records.length).map (insertRow keys.length)
    let returned : Sql.Fragment :=
      match returning with
      | some column => [.text " RETURNING ", .name column]
      | none => []
    .ok
      { sql := .text "INSERT INTO " :: e.quotedTable ++ .text " (" ::
          Sql.Fragment.join ", " (e.renderedColumns .insert) ++ .text ") VALUES " ::
          Sql.Fragment.join ", " rows ++ returned
        args := records.flatMap fun record => keys.map record.valueAt }

def assign (e : Entity) (assignments : List Sql.Fragment) (values : List Json) (id : Json) :
    Statement :=
  { sql := .text "UPDATE " :: e.quotedTable ++ .text " SET " ::
      Sql.Fragment.join ", " assignments ++ Sql.whereId (values.length + 1)
    args := values ++ [id] }

def update (e : Entity) (record : Record) (id : Json) : Except QueryError Statement :=
  let keys := e.columns .update
  if keys.any fun key => (record.lookup key).isSome then
    .ok (e.assign (e.renderedColumns .update) (keys.map record.valueAt) id)
  else .error (.nothingToWrite e.name)

def merge (e : Entity) (record : Record) (id : Json) : Except QueryError Statement :=
  let keys := (e.columns .merge).filter fun key => (record.lookup key).isSome
  if keys.isEmpty then .error (.nothingToWrite e.name)
  else
    let assignments := keys.mapIdx fun i key => [.name key, .text " = ", .place (i + 1)]
    .ok (e.assign assignments (keys.map record.valueAt) id)

def deleteIds (e : Entity) (ids : List Json) : Except QueryError Statement :=
  if ids.isEmpty then .error .noRecords
  else
    .ok
      { sql := .text "DELETE FROM " :: e.quotedTable ++
          [.text " WHERE ", .name idColumn, .text " = ANY(", .place 1, .text ")"]
        args := [.array ids] }

def deleteArchived (e : Entity) (before : Instant) : Statement :=
  { sql := .text "DELETE FROM " :: e.quotedTable ++
      [.text " WHERE ", .name archivedAtColumn, .text " < ", .place 1]
    args := [.string before.text] }

end Entity

end EntitySchema
