import EntitySchema.Entity.Catalog

set_option autoImplicit false

namespace EntitySchema

namespace Declaration

def fields : List Json.Reader.Field :=
  [⟨"key", [], true⟩, ⟨"type", [], true⟩, ⟨"min", [], false⟩, ⟨"max", [], false⟩,
   ⟨"required", [], false⟩, ⟨"safe", [], false⟩, ⟨"typeCheck", [], false⟩,
   ⟨"operations", ["methods"], false⟩, ⟨"sanitize", [], false⟩, ⟨"normalize", [], false⟩,
   ⟨"validate", ["control"], false⟩, ⟨"normalizer", [], false⟩]

def set (d : Declaration) (name : String) (tree : Json.Tree) :
    Except Json.ShapeError Declaration := do
  match name with
  | "key" => return { d with key := ← Json.Reader.string tree }
  | "type" => return { d with typeName := ← Json.Reader.string tree }
  | "min" => return { d with min := ← Json.Reader.optional Limit.read tree }
  | "max" => return { d with max := ← Json.Reader.optional Limit.read tree }
  | "required" => return { d with required := ← Json.Reader.bool tree }
  | "safe" => return { d with safe := ← Json.Reader.bool tree }
  | "typeCheck" => return { d with strict := ← Json.Reader.bool tree }
  | "operations" =>
    let tags ← Json.Reader.optional (Json.Reader.list Json.Reader.string) tree
    return { d with operations := tags }
  | "sanitize" => return { d with sanitize := ← Json.Reader.bool tree }
  | "normalize" => return { d with normalize := ← Json.Reader.bool tree }
  | "validate" => return { d with validate := ← Json.Reader.bool tree }
  | _ => return { d with normalizer := ← Json.Reader.optional Json.Reader.string tree }

def read (origin : Json.Origin) : Json.Reader Declaration :=
  Json.Reader.record origin "PropertyDescriptor" fields (Declaration.of "" "") set

def toJson (d : Declaration) : Json :=
  .object
    ([("key", .string d.key)] ++
      (d.max.toList.map fun l => ("max", l.toJson)) ++
      (d.min.toList.map fun l => ("min", l.toJson)) ++
      [("normalize", .bool d.normalize)] ++
      (d.normalizer.toList.map fun name => ("normalizer", .string name)) ++
      (d.operations.toList.map fun tags => ("operations", .array (tags.map .string))) ++
      [("required", .bool d.required), ("safe", .bool d.safe), ("sanitize", .bool d.sanitize),
       ("type", .string d.typeName), ("typeCheck", .bool d.strict),
       ("validate", .bool d.validate)])

end Declaration

structure Definition where
  name : String
  table : Option String
  verbs : VerbMapping
  properties : List Declaration
deriving DecidableEq

namespace Definition

def fields : List Json.Reader.Field :=
  [⟨"name", [], true⟩, ⟨"table", [], false⟩, ⟨"verbs", [], false⟩, ⟨"properties", [], true⟩]

def read (origin : Json.Origin) : Json.Reader Definition :=
  Json.Reader.record origin "EntityDefinition" fields ⟨"", none, .standard, []⟩
    fun d name tree => do
      match name with
      | "name" => return { d with name := ← Json.Reader.string tree }
      | "table" => return { d with table := ← Json.Reader.optional Json.Reader.string tree }
      | "verbs" => return { d with verbs := ← VerbMapping.read origin tree }
      | _ => return { d with properties := ← Json.Reader.list (Declaration.read origin) tree }

def toJson (d : Definition) : Json :=
  .object
    ([("name", .string d.name), ("properties", .array (d.properties.map Declaration.toJson))] ++
      (d.table.toList.map fun table => ("table", .string table)) ++
      [("verbs", d.verbs.toJson)])

def build (d : Definition) (types : TypeRegistry) : Except SchemaError Entity :=
  (Entity.build d.name (d.table.getD d.name) (d.properties.map Declaration.plain) types).map
    (·.withVerbs d.verbs)

end Definition

def Entity.parse (types : TypeRegistry) (location text : String) : Except SchemaError Entity := do
  match Json.readText Definition.read text with
  | .ok definition => definition.build types
  | .error cause => .error (.malformed location (.json cause))

end EntitySchema
