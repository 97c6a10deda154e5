import EntitySchema.Filter.Predicate
import EntitySchema.Request.Select

set_option autoImplicit false

namespace EntitySchema

structure Statement where
  sql : Sql.Fragment
  args : List Json

structure Selection extends Statement where
  dropped : List DroppedFilter

def Compiled.whereClause (c : Compiled) (connective : Connective) : Sql.Fragment :=
  match c.predicate? connective with
  | some predicate => .text " WHERE " :: predicate
  | none => []

namespace SelectRequest

def pageClause (request : SelectRequest) (bound : Nat) : Emitted :=
  match request.rows with
  | some rows =>
    ⟨[.text " LIMIT ", .place (bound + 1), .text " OFFSET ", .place (bound + 2)],
      [.ofCount rows, .ofCount request.first]⟩
  | none => ⟨[], []⟩

end SelectRequest

namespace Entity

def orderClause (e : Entity) (request : SelectRequest) : Sql.Fragment :=
  match request.sortField with
  | some field =>
    if e.isSelectable field then
      [.text " ORDER BY ", .name field, .text (" " ++ request.sortOrder.name)]
    else []
  | none => []

def selectHead (e : Entity) (withTotal : Bool) : Sql.Fragment :=
  .text "SELECT " :: e.columnList .select withTotal ++ .text " FROM " :: e.quotedTable

def select (e : Entity) (modes : MatchModes) (request : SelectRequest) : Selection :=
  let compiled := request.filters.compile e modes 0
  let page := request.pageClause compiled.values.length
  { sql := e.selectHead request.pagination ++ compiled.whereClause request.connective ++
      e.orderClause request ++ page.sql
    args := compiled.values ++ page.values
    dropped := compiled.dropped }

def selectEvents (e : Entity) (modes : MatchModes) (request : SelectRequest) : List Event :=
  let unsorted := request.sortField.toList.filter fun field => !e.isSelectable field
  (request.filters.compile e modes 0).events ++
    (unsorted.map fun field => .sortDropped e.name field) ++ [.queryAssembled e.name]

end Entity

end EntitySchema
