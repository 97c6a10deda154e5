import EntitySchema.Folder
import EntitySchema.Json.Shape

set_option autoImplicit false

namespace EntitySchema

inductive KeyFault where
  | blank
  | quote
  | control
deriving DecidableEq

def KeyFault.message : KeyFault → String
  | .blank => "key must be a non-empty string"
  | .quote => "key must not contain double quotes"
  | .control => "key must not contain control characters"

inductive DefinitionFault where
  | blankTable
  | invalidTable (table : String)
  | json (cause : Json.ShapeError)
  | unreadable (cause : ReadFault)
  | unlistable (cause : ReadFault)
  | interrupted (cause : ReadFault)
  | registered

def DefinitionFault.message : DefinitionFault → String
  | .blankTable => "table name must be non-empty"
  | .invalidTable table => "table name " ++ Quoted.encode table ++ " is not a valid identifier"
  | .json cause => "Invalid JSON: " ++ cause.message
  | .unreadable cause => "Failed to read file: " ++ cause.message
  | .unlistable cause => "Failed to read directory: " ++ cause.message
  | .interrupted cause => "Failed to read directory entry: " ++ cause.message
  | .registered => "an entity with this name is already registered"

inductive SchemaError where
  | invalidKey (key : String) (fault : KeyFault)
  | duplicateKey (key : String)
  | unknownType (key type : String)
  | invalidOperation (key operation : String)
  | unknownNormalizer (key name : String)
  | invalidBounds (key low high : String)
  | malformed (location : String) (fault : DefinitionFault)

namespace SchemaError

def code : SchemaError → String
  | .invalidKey _ _ => "ANTITY_INVALID_KEY"
  | .duplicateKey _ => "ANTITY_DUPLICATE_KEY"
  | .unknownType _ _ => "ANTITY_UNKNOWN_TYPE"
  | .invalidOperation _ _ => "ANTITY_INVALID_OPERATION"
  | .unknownNormalizer _ _ => "ANTITY_UNKNOWN_NORMALIZER"
  | .invalidBounds _ _ _ => "ANTITY_INVALID_BOUNDS"
  | .malformed _ _ => "ANTITY_MALFORMED_DEFINITION"

def message : SchemaError → String
  | .invalidKey key fault => "Invalid property key " ++ Quoted.encode key ++ ": " ++ fault.message
  | .duplicateKey key => "Duplicate property key \"" ++ key ++ "\""
  | .unknownType key type => "Unknown type \"" ++ type ++ "\" for property \"" ++ key ++ "\""
  | .invalidOperation key operation =>
    "Invalid operation \"" ++ operation ++ "\" for property \"" ++ key ++ "\""
  | .unknownNormalizer key name =>
    "Unknown normalizer \"" ++ name ++ "\" for property \"" ++ key ++ "\""
  | .invalidBounds key low high =>
    "Invalid bounds for property \"" ++ key ++ "\": min " ++ low ++ " is greater than max " ++ high
  | .malformed location fault =>
    "Malformed entity definition at " ++ location ++ ": " ++ fault.message

end SchemaError

end EntitySchema
