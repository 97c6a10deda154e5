import EntitySchema.Json.Shape

set_option autoImplicit false

namespace EntitySchema

def sameLetters (a b : String) : Bool := a.toList.map Char.toLower == b.toList.map Char.toLower

inductive Operation where
  | select
  | insert
  | update
  | merge
  | delete
deriving DecidableEq

namespace Operation

def all : List Operation := [.select, .insert, .update, .merge, .delete]

def name : Operation → String
  | .select => "select"
  | .insert => "insert"
  | .update => "update"
  | .merge => "merge"
  | .delete => "delete"

def parse? (s : String) : Option Operation := all.find? fun op => sameLetters op.name s

def read (origin : Json.Origin) : Json.Reader Operation :=
  Json.Reader.choice origin (all.map fun op => (op.name, op))

end Operation

inductive Verb where
  | get
  | post
  | put
  | patch
  | delete
deriving DecidableEq

namespace Verb

def all : List Verb := [.get, .post, .put, .patch, .delete]

def name : Verb → String
  | .get => "GET"
  | .post => "POST"
  | .put => "PUT"
  | .patch => "PATCH"
  | .delete => "DELETE"

def parse? (s : String) : Option Verb := all.find? fun verb => sameLetters verb.name s

end Verb

structure VerbMapping where
  get : Operation
  post : Operation
  put : Operation
  patch : Operation
  delete : Operation
deriving DecidableEq

namespace VerbMapping

def standard : VerbMapping := ⟨.select, .insert, .update, .update, .delete⟩

def patchAsMerge : VerbMapping := { standard with patch := .merge }

def resolve (mapping : VerbMapping) : Verb → Operation
  | .get => mapping.get
  | .post => mapping.post
  | .put => mapping.put
  | .patch => mapping.patch
  | .delete => mapping.delete

def toJson (mapping : VerbMapping) : Json :=
  .object
    [("DELETE", .string mapping.delete.name), ("GET", .string mapping.get.name),
     ("PATCH", .string mapping.patch.name), ("POST", .string mapping.post.name),
     ("PUT", .string mapping.put.name)]

def set (mapping : VerbMapping) (verb : String) (op : Operation) : VerbMapping :=
  match verb with
  | "GET" => { mapping with get := op }
  | "POST" => { mapping with post := op }
  | "PUT" => { mapping with put := op }
  | "PATCH" => { mapping with patch := op }
  | _ => { mapping with delete := op }

def read (origin : Json.Origin) : Json.Reader VerbMapping :=
  Json.Reader.record origin "VerbMapping" (Verb.all.map fun verb => Json.Reader.field verb.name)
    standard fun mapping verb tree => return mapping.set verb (← Operation.read origin tree)

end VerbMapping

inductive Intent where
  | ofOperation (op : Operation)
  | ofVerb (verb : Verb)
deriving DecidableEq

namespace Intent

def parse? (s : String) : Option Intent :=
  match Verb.parse? s with
  | some verb => some (.ofVerb verb)
  | none => (Operation.parse? s).map .ofOperation

def resolve (mapping : VerbMapping) : Intent → Operation
  | .ofOperation op => op
  | .ofVerb verb => mapping.resolve verb

def name : Intent → String
  | .ofOperation op => op.name
  | .ofVerb verb => verb.name

def accepted : List String := Verb.all.map Verb.name ++ Operation.all.map Operation.name

end Intent

end EntitySchema
