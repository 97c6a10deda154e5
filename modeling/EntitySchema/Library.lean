import EntitySchema.Entity.Definition
import EntitySchema.Event
import EntitySchema.Folder
import EntitySchema.Text.Ending

set_option autoImplicit false

namespace EntitySchema

namespace Folder

def isDefinition (name : String) : Bool := hasEnding ".json" name && name != ".json"

def definitions (folder : Folder) : List (String × String) :=
  Members.ofList (folder.filter fun (name, _) => isDefinition name)

end Folder

structure Library where
  directory : String
  types : TypeRegistry
  entities : List (String × Entity)

namespace Library

def empty (directory : String) (types : TypeRegistry) : Library := ⟨directory, types, []⟩

def get? (library : Library) (name : String) : Option Entity := library.entities.lookup name

def names (library : Library) : List String := Members.keys library.entities

def size (library : Library) : Nat := library.entities.length

def register (library : Library) (e : Entity) : Except SchemaError Library :=
  if (library.get? e.name).isSome then .error (.malformed e.name .registered)
  else .ok { library with entities := Members.insert e.name e library.entities }

def build (library : Library) (file : String × String) : Except SchemaError Entity :=
  Entity.parse library.types (library.directory ++ "/" ++ file.1) file.2

def loadFiles : List (String × String) → Library → Library × Option SchemaError
  | [], library => (library, none)
  | file :: rest, library =>
    match library.build file >>= library.register with
    | .ok library => loadFiles rest library
    | .error e => (library, some e)

def load (library : Library) (folder : Option Folder) : Library × Except SchemaError Nat :=
  match folder with
  | none => (library, .ok 0)
  | some folder =>
    match loadFiles folder.definitions library with
    | (library, none) => (library, .ok folder.definitions.length)
    | (library, some e) => (library, .error e)

def loadFilesEvents : List (String × String) → Library → List Event
  | [], _ => []
  | file :: rest, library =>
    match library.build file with
    | .error _ => []
    | .ok e =>
      .entityBuilt e.name ::
        match library.register e with
        | .ok library => loadFilesEvents rest library
        | .error _ => []

def loadEvents (library : Library) (folder : Option Folder) : List Event :=
  match folder with
  | none => []
  | some folder =>
    loadFilesEvents folder.definitions library ++
      match (loadFiles folder.definitions library).2 with
      | none => [.entitiesLoaded]
      | some _ => []

end Library

end EntitySchema
