import EntitySchema.Entity.Catalog

set_option autoImplicit false

namespace EntitySchema

def Operation.index : Operation → Fin 5
  | .select => 0
  | .insert => 1
  | .update => 2
  | .merge => 3
  | .delete => 4

structure Catalog where
  keys : List String
  rendered : List Sql.Fragment

def Catalog.of (properties : List Property) (op : Operation) : Catalog :=
  let keys := (properties.filter (·.appliesTo op)).map (·.key)
  let rendered := keys.mapIdx fun i key =>
    match op with
    | .update => [.name key, .text " = ", .place (i + 1)]
    | _ => [.name key]
  ⟨keys, rendered⟩

structure Gathered where
  properties : List Property
  index : List (String × Nat)

namespace Gathered

def empty : Gathered := ⟨[], []⟩

def position? (g : Gathered) (key : String) : Option Nat := g.index.lookup key

def property? (g : Gathered) (key : String) : Option Property :=
  (g.position? key).bind fun position => g.properties[position]?

def add (g : Gathered) (p : Property) : Gathered :=
  ⟨g.properties ++ [p], Members.insert p.key g.properties.length g.index⟩

def extend (types : TypeRegistry) (g : Gathered) : List Descriptor → Except SchemaError Gathered
  | [] => .ok g
  | d :: rest => do
    let property ← Property.resolve types d
    if (g.position? property.key).isSome then .error (.duplicateKey property.key)
    (g.add property).extend types rest

end Gathered

structure Assembly extends Gathered where
  name : String
  table : String
  catalogs : Vector Catalog 5
  unsafeKeys : List String
  verbs : VerbMapping
  limits : SanitizeLimits

namespace Assembly

def build (name table : String) (descriptors : List Descriptor) (types : TypeRegistry) :
    Except SchemaError Assembly := do
  if let some fault := tableFault? table then .error (.malformed "table" fault)
  let gathered ← Gathered.empty.extend types descriptors
  let catalog := Catalog.of gathered.properties
  return {
    gathered with
    name := name, table := table,
    catalogs := #v[catalog .select, catalog .insert, catalog .update, catalog .merge, catalog .delete],
    unsafeKeys := (gathered.properties.filter fun p => !p.safe).map (·.key),
    verbs := .standard, limits := .standard }

def withVerbs (a : Assembly) (verbs : VerbMapping) : Assembly := { a with verbs := verbs }

def withLimits (a : Assembly) (limits : SanitizeLimits) : Assembly := { a with limits := limits }

def propertiesFor (a : Assembly) (intent : Intent) : List Property :=
  a.properties.filter (·.appliesTo (intent.resolve a.verbs))

def columns (a : Assembly) (op : Operation) : List String := (a.catalogs.get op.index).keys

def renderedColumns (a : Assembly) (op : Operation) : List Sql.Fragment :=
  (a.catalogs.get op.index).rendered

def entity (a : Assembly) : Entity := ⟨a.name, a.table, a.properties, a.verbs, a.limits⟩

end Assembly

end EntitySchema
