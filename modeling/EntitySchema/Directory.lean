import EntitySchema.Library

set_option autoImplicit false

namespace EntitySchema

abbrev Listed := String × Except ReadFault String

structure Listing where
  files : List Listed
  distinct : (files.map Prod.fst).Nodup

namespace Listing

def ofFolder (folder : Folder) (distinct : (folder.map Prod.fst).Nodup) : Listing where
  files := folder.map fun (name, text) => (name, .ok text)
  distinct := by simpa [Function.comp_def] using distinct

def isDefinition (file : Listed) : Bool := Folder.isDefinition file.1

def definitions (listing : Listing) : List Listed :=
  Members.ofList (listing.files.filter isDefinition)

end Listing

inductive Directory where
  | absent
  | unlistable (cause : ReadFault)
  | interrupted (cause : ReadFault)
  | listed (listing : Listing)

namespace Library

def buildListed (library : Library) (file : Listed) : Except SchemaError Entity :=
  match file.2 with
  | .ok text => library.build (file.1, text)
  | .error cause => .error (.malformed (library.directory ++ "/" ++ file.1) (.unreadable cause))

def loadListed : List Listed → Library → Library × Option SchemaError
  | [], library => (library, none)
  | file :: rest, library =>
    match library.buildListed file >>= library.register with
    | .ok library => loadListed rest library
    | .error e => (library, some e)

def loadDirectory (library : Library) : Directory → Library × Except SchemaError Nat
  | .absent => (library, .ok 0)
  | .unlistable cause => (library, .error (.malformed library.directory (.unlistable cause)))
  | .interrupted cause => (library, .error (.malformed library.directory (.interrupted cause)))
  | .listed listing =>
    match loadListed listing.definitions library with
    | (library, none) => (library, .ok listing.definitions.length)
    | (library, some e) => (library, .error e)

inductive Step where
  | register (e : Entity)
  | load (directory : Directory)

inductive Answer where
  | registered (e : Entity)
  | loaded (count : Nat)

def perform (library : Library) : Step → Library × Except SchemaError Answer
  | .register e =>
    match library.register e with
    | .ok after => (after, .ok (.registered e))
    | .error fault => (library, .error fault)
  | .load directory =>
    let (after, outcome) := library.loadDirectory directory
    (after, outcome.map .loaded)

def run (library : Library) (steps : List Step) : Library :=
  steps.foldl (fun library step => (library.perform step).1) library

end Library

end EntitySchema
