import EntitySchema.Json.Shape

set_option autoImplicit false

namespace EntitySchema

inductive Connective where
  | and
  | or
deriving DecidableEq

namespace Connective

def name : Connective → String
  | .and => "AND"
  | .or => "OR"

def choices : List (String × Connective) := [("AND", .and), ("and", .and), ("OR", .or), ("or", .or)]

def read (origin : Json.Origin) : Json.Reader Connective := Json.Reader.choice origin choices

end Connective

structure Filter where
  value : Json
  matchMode : Option String
  subProps : Option (List String)
  connective : Option Connective

namespace Filter

def fields : List Json.Reader.Field :=
  [⟨"value", [], false⟩, ⟨"matchMode", [], false⟩, ⟨"subProps", ["subProp"], false⟩,
   ⟨"operator", [], false⟩]

def read (origin : Json.Origin) : Json.Reader Filter :=
  Json.Reader.record origin "Filter" fields ⟨.null, none, none, none⟩ fun f name tree => do
    match name with
    | "value" => return { f with value := ← Json.Reader.value tree }
    | "matchMode" => return { f with matchMode := ← Json.Reader.optional Json.Reader.string tree }
    | "subProps" =>
      let names ← Json.Reader.optional (Json.Reader.list Json.Reader.string) tree
      return { f with subProps := names }
    | _ =>
      return { f with connective := ← Json.Reader.optional (Connective.read origin) tree }

def toJson (f : Filter) : Json :=
  .object
    ((f.matchMode.toList.map fun name => ("matchMode", .string name)) ++
      (f.connective.toList.map fun c => ("operator", .string c.name)) ++
      (f.subProps.toList.map fun names => ("subProps", .array (names.map .string))) ++
      [("value", f.value)])

end Filter

inductive FilterInput where
  | single (filter : Filter)
  | many (filters : List Filter)
  | malformed (raw : Json) (reason : Json.ShapeError)

namespace FilterInput

def ofJson (raw : Json) : FilterInput :=
  let parsed : Except Json.ShapeError FilterInput :=
    match raw with
    | .array _ =>
      (Json.readValue (fun origin => Json.Reader.list (Filter.read origin)) raw).map .many
    | _ => (Json.readValue Filter.read raw).map .single
  match parsed with
  | .ok input => input
  | .error reason => .malformed raw reason

def toJson : FilterInput → Json
  | .single filter => filter.toJson
  | .many filters => .array (filters.map Filter.toJson)
  | .malformed raw _ => raw

end FilterInput

abbrev FilterMap := List (String × FilterInput)

namespace FilterMap

def read : Json.Reader FilterMap :=
  Json.Reader.entries fun tree => (Json.Reader.value tree).map FilterInput.ofJson

def toJson (filters : FilterMap) : Json :=
  .object (filters.map fun (field, input) => (field, input.toJson))

end FilterMap

end EntitySchema
