import EntitySchema.Filter.Input
import EntitySchema.Text.Blank

set_option autoImplicit false

namespace EntitySchema

inductive SortOrder where
  | ascending
  | descending
deriving DecidableEq

namespace SortOrder

def name : SortOrder → String
  | .ascending => "ASC"
  | .descending => "DESC"

def parse? (s : String) : Option SortOrder :=
  match String.ofList ((Blank.trim s).toList.map Char.toLower) with
  | "asc" | "1" => some .ascending
  | "desc" | "-1" => some .descending
  | _ => none

def choices : List (String × SortOrder) :=
  [("ASC", .ascending), ("asc", .ascending), ("DESC", .descending), ("desc", .descending)]

def read (origin : Json.Origin) : Json.Reader SortOrder := Json.Reader.choice origin choices

end SortOrder

structure SelectRequest where
  first : UInt64
  rows : Option UInt64
  sortField : Option String
  sortOrder : SortOrder
  filters : FilterMap
  pagination : Bool
  connective : Connective

namespace SelectRequest

def all : SelectRequest := ⟨0, none, none, .ascending, [], false, .and⟩

def page (request : SelectRequest) (first rows : UInt64) : SelectRequest :=
  { request with first := first, rows := some rows }

def sort (request : SelectRequest) (field : String) (order : SortOrder) : SelectRequest :=
  { request with sortField := some field, sortOrder := order }

def fields : List Json.Reader.Field :=
  ["first", "rows", "sortField", "sortOrder", "filters", "pagination", "operator"].map
    Json.Reader.field

def set (origin : Json.Origin) (request : SelectRequest) (name : String) (tree : Json.Tree) :
    Except Json.ShapeError SelectRequest := do
  match name with
  | "first" => return { request with first := ← Json.Reader.count tree }
  | "rows" => return { request with rows := ← Json.Reader.optional Json.Reader.count tree }
  | "sortField" =>
    return { request with sortField := ← Json.Reader.optional Json.Reader.string tree }
  | "sortOrder" => return { request with sortOrder := ← SortOrder.read origin tree }
  | "filters" => return { request with filters := ← FilterMap.read tree }
  | "pagination" => return { request with pagination := ← Json.Reader.bool tree }
  | _ => return { request with connective := ← Connective.read origin tree }

def read (origin : Json.Origin) : Json.Reader SelectRequest :=
  Json.Reader.record origin "SelectRequest" fields all (set origin)

def toJson (request : SelectRequest) : Json :=
  .object
    ([("filters", request.filters.toJson), ("first", .ofCount request.first),
      ("operator", .string request.connective.name),
      ("pagination", .bool request.pagination)] ++
      (request.rows.toList.map fun rows => ("rows", .ofCount rows)) ++
      (request.sortField.toList.map fun field => ("sortField", .string field)) ++
      [("sortOrder", .string request.sortOrder.name)])

end SelectRequest

end EntitySchema
