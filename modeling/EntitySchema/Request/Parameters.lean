import EntitySchema.Request.Fault
import EntitySchema.Request.Select

set_option autoImplicit false

namespace EntitySchema

structure RequestDefaults where
  maxRows : UInt64
  rows : Option UInt64
  connective : Connective
deriving DecidableEq

namespace RequestDefaults

def standard : RequestDefaults := ⟨1000, none, .and⟩

def read (origin : Json.Origin) : Json.Reader RequestDefaults :=
  Json.Reader.record origin "FilterDefaults"
    (["max_rows", "default_rows", "operator"].map Json.Reader.field) standard
    fun defaults name tree => do
      match name with
      | "max_rows" => return { defaults with maxRows := ← Json.Reader.count tree }
      | "default_rows" =>
        return { defaults with rows := ← Json.Reader.optional Json.Reader.count tree }
      | _ => return { defaults with connective := ← Connective.read origin tree }

def toJson (defaults : RequestDefaults) : Json :=
  .object
    [("default_rows", (defaults.rows.map Json.ofCount).getD .null),
     ("max_rows", .ofCount defaults.maxRows), ("operator", .string defaults.connective.name)]

def pageSize (defaults : RequestDefaults) (rows : Option UInt64) :
    Except QueryError (Option UInt64) :=
  match rows <|> defaults.rows with
  | some rows =>
    if defaults.maxRows < rows then .error (.limitExceeded rows defaults.maxRows)
    else .ok (some rows)
  | none => .ok none

end RequestDefaults

namespace Parameter

def count (name value : String) : Except QueryError UInt64 :=
  match readCount? (Blank.trim value) with
  | some n => .ok n
  | none => .error (.invalidParameter name value)

def flag (name value : String) : Except QueryError Bool :=
  match Blank.trim value with
  | "true" | "1" => .ok true
  | "false" | "0" | "" => .ok false
  | _ => .error (.invalidParameter name value)

def sortOrder (name value : String) : Except QueryError SortOrder :=
  match SortOrder.parse? value with
  | some order => .ok order
  | none => .error (.invalidParameter name value)

def connective (name value : String) : Except QueryError Connective :=
  match String.ofList ((Blank.trim value).toList.map Char.toLower) with
  | "and" => .ok .and
  | "or" => .ok .or
  | _ => .error (.invalidParameter name value)

def fieldName (value : String) : Option String :=
  if Blank.isBlankText value then none else some (Blank.trim value)

def filters (value : String) : Except QueryError FilterMap :=
  if Blank.isBlankText value then .ok []
  else (Json.readText (fun _ => FilterMap.read) value).mapError .invalidFilters

def apply (request : SelectRequest) (name value : String) : Except QueryError SelectRequest := do
  match name with
  | "first" => return { request with first := ← count name value }
  | "rows" => return { request with rows := some (← count name value) }
  | "sortField" => return { request with sortField := fieldName value }
  | "sortOrder" => return { request with sortOrder := ← sortOrder name value }
  | "pagination" => return { request with pagination := ← flag name value }
  | "operator" => return { request with connective := ← connective name value }
  | "filters" => return { request with filters := ← filters value }
  | _ => return request

end Parameter

def RequestDefaults.parse (defaults : RequestDefaults) (parameters : List (String × String)) :
    Except QueryError SelectRequest := do
  let request ← parameters.foldlM (fun request (name, value) => Parameter.apply request name value)
    { SelectRequest.all with connective := defaults.connective }
  return { request with rows := ← defaults.pageSize request.rows }

end EntitySchema
