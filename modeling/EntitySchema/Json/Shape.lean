import EntitySchema.Json.Tree
import EntitySchema.Text.Quoted

set_option autoImplicit false

namespace EntitySchema.Json

inductive Found where
  | null
  | bool (b : Bool)
  | number (n : JsonNumber)
  | string (s : String)
  | sequence
  | map

def Found.text : Found → String
  | .null => "null"
  | .bool b => "boolean `" ++ (if b then "true" else "false") ++ "`"
  | .number (.whole n _) => "integer `" ++ toString n ++ "`"
  | .number (.real x) => "floating point `" ++ x.jsonText ++ "`"
  | .string s => "string " ++ Quoted.encode s
  | .sequence => "sequence"
  | .map => "map"

inductive ShapeError where
  | malformed
  | invalidType (found : Found) (wanted : String)
  | invalidValue (found : Found) (wanted : String)
  | tooMany (length : Nat)
  | tooFew (length : Nat) (record : String) (fields : Nat)
  | missingField (name : String)
  | duplicateField (name : String)
  | unknownVariant (name : String) (accepted : List String)
  | noAlternative (union : String)

def ShapeError.message : ShapeError → String
  | .malformed => "syntax error"
  | .invalidType found wanted => "invalid type: " ++ found.text ++ ", expected " ++ wanted
  | .invalidValue found wanted => "invalid value: " ++ found.text ++ ", expected " ++ wanted
  | .tooMany length =>
    "invalid length " ++ toString length ++ ", expected fewer elements in array"
  | .tooFew length record fields =>
    "invalid length " ++ toString length ++ ", expected struct " ++ record ++ " with " ++
      toString fields ++ (if fields = 1 then " element" else " elements")
  | .missingField name => "missing field `" ++ name ++ "`"
  | .duplicateField name => "duplicate field `" ++ name ++ "`"
  | .unknownVariant name accepted =>
    "unknown variant `" ++ name ++ "`, expected one of " ++
      String.intercalate ", " (accepted.map fun v => "`" ++ v ++ "`")
  | .noAlternative union => "data did not match any variant of untagged enum " ++ union

inductive Origin where
  | value
  | text
deriving DecidableEq

abbrev Reader (α : Type) := Tree → Except ShapeError α

namespace Reader

def mismatch {α : Type} (wanted : String) : Reader α
  | .null => .error (.invalidType .null wanted)
  | .bool b => .error (.invalidType (.bool b) wanted)
  | .number (some n) => .error (.invalidType (.number n) wanted)
  | .string (some s) => .error (.invalidType (.string s) wanted)
  | .array _ _ => .error (.invalidType .sequence wanted)
  | .object _ _ => .error (.invalidType .map wanted)
  | .beyond (.array _ _) => .error (.invalidType .sequence wanted)
  | .beyond (.object _ _) => .error (.invalidType .map wanted)
  | .number none | .string none | .beyond _ | .fault => .error .malformed

def string : Reader String
  | .string (some s) => .ok s
  | other => mismatch "a string" other

def bool : Reader Bool
  | .bool b => .ok b
  | other => mismatch "a boolean" other

def count : Reader UInt64
  | .number (some (.whole n fits)) =>
    if 0 ≤ n then .ok (.ofNat n.toNat) else .error (.invalidValue (.number (.whole n fits)) "usize")
  | other => mismatch "usize" other

def value : Reader Json := fun tree =>
  match tree.toJson? with
  | some json => .ok json
  | none => .error .malformed

def optional {α : Type} (read : Reader α) : Reader (Option α)
  | .null => .ok none
  | other => (read other).map some

def list {α : Type} (read : Reader α) : Reader (List α)
  | .array items closed => do
    let values ← items.mapM read
    if closed then return values else .error .malformed
  | other => mismatch "a sequence" other

def entries {α : Type} (read : Reader α) : Reader (List (String × α))
  | .object members closed => do
    let values ← members.mapM fun (key, tree) =>
      match key with
      | some key => (read tree).map (key, ·)
      | none => .error .malformed
    if closed then return Members.ofList values else .error .malformed
  | other => mismatch "a map" other

def named {α : Type} (choices : List (String × α)) (name : String) : Except ShapeError α :=
  match choices.lookup name with
  | some choice => .ok choice
  | none => .error (.unknownVariant name (choices.map Prod.fst))

def choice {α : Type} (origin : Origin) (choices : List (String × α)) : Reader α
  | .string (some name) => named choices name
  | .object [(some name, content)] closed => do
    let choice ← named choices name
    match content with
    | .null => if closed then return choice else .error .malformed
    | other => mismatch "unit" other
  | .object ((some name, content) :: _) _ =>
    match origin with
    | .value => .error (.invalidValue .map "map with a single key")
    | .text => do
      let _ ← named choices name
      match content with
      | .null => .error .malformed
      | other => mismatch "unit" other
  | .object _ _ =>
    match origin with
    | .value => .error (.invalidValue .map "map with a single key")
    | .text => .error .malformed
  | other =>
    match origin with
    | .value => mismatch "string or map" other
    | .text => .error .malformed

structure Field where
  name : String
  aliases : List String
  required : Bool

def field (name : String) : Field := ⟨name, [], false⟩
def requiredField (name : String) : Field := ⟨name, [], true⟩

def Field.answersTo (key : String) (f : Field) : Bool := f.name == key || f.aliases.contains key

variable {ρ : Type}

def setMembers (fields : List Field) (set : ρ → String → Tree → Except ShapeError ρ) :
    List (Option String × Tree) → List String → ρ → Except ShapeError (List String × ρ)
  | [], seen, record => .ok (seen, record)
  | (none, _) :: _, _, _ => .error .malformed
  | (some key, tree) :: rest, seen, record =>
    match fields.find? (Field.answersTo key) with
    | none => if tree.isBroken then .error .malformed else setMembers fields set rest seen record
    | some f =>
      if seen.contains f.name then .error (.duplicateField f.name)
      else do setMembers fields set rest (f.name :: seen) (← set record f.name tree)

def setElements (set : ρ → String → Tree → Except ShapeError ρ) :
    List Field → List Tree → ρ → Except ShapeError (List Field × List Tree × ρ)
  | f :: fields, tree :: rest, record => do setElements set fields rest (← set record f.name tree)
  | fields, rest, record => .ok (fields, rest, record)

def record (origin : Origin) (name : String) (fields : List Field) (start : ρ)
    (set : ρ → String → Tree → Except ShapeError ρ) : Reader ρ
  | .object members closed => do
    let (seen, record) ← setMembers fields set members [] start
    if !closed then .error .malformed
    match fields.find? fun f => f.required && !seen.contains f.name with
    | some f => .error (.missingField f.name)
    | none => return record
  | .array items closed => do
    let (left, rest, record) ← setElements set fields items start
    if !closed then .error .malformed
    match left.findIdx? (·.required) with
    | some i => .error (.tooFew (items.length + i) name fields.length)
    | none =>
      if rest.isEmpty then return record
      else match origin with
        | .value => .error (.tooMany items.length)
        | .text => .error .malformed
  | other => mismatch ("struct " ++ name) other

end Reader

def readValue {α : Type} (read : Origin → Reader α) (json : Json) : Except ShapeError α :=
  read .value (.ofJson json)

def readText {α : Type} (read : Origin → Reader α) (text : String) : Except ShapeError α := do
  let (tree, complete) := readTree text
  let result ← read .text tree
  if complete then return result else .error .malformed

end EntitySchema.Json
