import EntitySchema.Entity.Property
import EntitySchema.Record.DeepTrim
import EntitySchema.Sql.Fragment

set_option autoImplicit false

namespace EntitySchema

structure Entity where
  name : String
  table : String
  properties : List Property
  verbs : VerbMapping
  limits : SanitizeLimits

def tableParts (table : String) : List String :=
  (Format.splitOn '.' table.toList).map String.ofList

def tableFault? (table : String) : Option DefinitionFault :=
  if (tableParts table).any Blank.isBlankText then some .blankTable
  else if table.toList.contains '"' || table.toList.any isControl then some (.invalidTable table)
  else none

namespace Entity

def resolveAll (types : TypeRegistry) : List String → List Descriptor →
    Except SchemaError (List Property)
  | _, [] => .ok []
  | seen, d :: rest => do
    let property ← Property.resolve types d
    if seen.contains property.key then .error (.duplicateKey property.key)
    return property :: (← resolveAll types (property.key :: seen) rest)

def build (name table : String) (descriptors : List Descriptor) (types : TypeRegistry) :
    Except SchemaError Entity := do
  if let some fault := tableFault? table then .error (.malformed "table" fault)
  let properties ← resolveAll types [] descriptors
  return ⟨name, table, properties, .standard, .standard⟩

def withVerbs (e : Entity) (verbs : VerbMapping) : Entity := { e with verbs := verbs }

def withLimits (e : Entity) (limits : SanitizeLimits) : Entity := { e with limits := limits }

def property? (e : Entity) (key : String) : Option Property := e.properties.find? (·.key == key)

def propertiesFor (e : Entity) (op : Operation) : List Property :=
  e.properties.filter (·.appliesTo op)

def columns (e : Entity) (op : Operation) : List String := (e.propertiesFor op).map (·.key)

def unsafeKeys (e : Entity) : List String :=
  (e.properties.filter fun p => !p.safe).map (·.key)

def isSelectable (e : Entity) (key : String) : Bool :=
  (e.property? key).any (·.appliesTo .select)

def quotedTable (e : Entity) : Sql.Fragment :=
  Sql.Fragment.join "." ((tableParts e.table).map fun part => [.name part])

def renderedColumns (e : Entity) (op : Operation) : List Sql.Fragment :=
  match op with
  | .update => (e.columns op).mapIdx fun i key => [.name key, .text " = ", .place (i + 1)]
  | _ => (e.columns op).map fun key => [.name key]

def totalColumn : Sql.Fragment := [.text "COUNT(*) OVER () AS total"]

def columnList (e : Entity) (op : Operation) (withTotal : Bool) : Sql.Fragment :=
  let total := if withTotal && op = .select then [totalColumn] else []
  Sql.Fragment.join ", " (e.renderedColumns op ++ total)

end Entity

end EntitySchema
