import EntitySchema.Json.Value

set_option autoImplicit false

namespace EntitySchema

inductive ReadFault where
  | absent
  | directory
  | notDirectory
  | forbidden
  | notText
deriving DecidableEq

def ReadFault.message : ReadFault → String
  | .absent => "No such file or directory (os error 2)"
  | .directory => "Is a directory (os error 21)"
  | .notDirectory => "Not a directory (os error 20)"
  | .forbidden => "Permission denied (os error 13)"
  | .notText => "stream did not contain valid UTF-8"

abbrev Folder := List (String × String)

namespace Folder

def steps : List Char → List (List Char)
  | [] => [[]]
  | '/' :: rest => [] :: steps rest
  | c :: rest =>
    match steps rest with
    | step :: more => (c :: step) :: more
    | [] => [[c]]

def readSteps (folder : Folder) : List (List Char) → Except ReadFault String
  | [] => .error .directory
  | step :: rest =>
    if step = [] ∨ step = ['.'] then readSteps folder rest
    else match folder.lookup (String.ofList step), rest with
      | some text, [] => .ok text
      | some _, _ :: _ => .error .notDirectory
      | none, _ => .error .absent

def read (folder : Folder) (path : String) : Except ReadFault String :=
  match path.toList with
  | [] | '/' :: _ => .error .absent
  | chars => folder.readSteps (steps chars)

end Folder

end EntitySchema
