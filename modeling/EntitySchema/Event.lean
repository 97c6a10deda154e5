import EntitySchema.Json.Value

set_option autoImplicit false

namespace EntitySchema

inductive Event where
  | configLoaded
  | entitiesLoaded
  | entityBuilt (entity : String)
  | sanitize (key : String)
  | sanitizeDepthExceeded (depth : Nat)
  | normalize (key : String)
  | require (key : String)
  | control (key : String)
  | validationFailed (code key : String)
  | filterCompiled (field : String)
  | filterDropped (field reason : String)
  | sortDropped (entity field : String)
  | queryAssembled (entity : String)
  | queryExecuted (entity : String)
  | queryFailed (entity : String)
deriving DecidableEq

namespace Event

def name : Event → String
  | .configLoaded => "CONFIG_LOADED"
  | .entitiesLoaded => "ENTITIES_LOADED"
  | .entityBuilt _ => "ENTITY_BUILT"
  | .sanitize _ => "SANITIZE"
  | .sanitizeDepthExceeded _ => "SANITIZE_DEPTH_EXCEEDED"
  | .normalize _ => "NORMALIZE"
  | .require _ => "REQUIRE"
  | .control _ => "CONTROL"
  | .validationFailed _ _ => "VALIDATION_FAILED"
  | .filterCompiled _ => "FILTER_COMPILED"
  | .filterDropped _ _ => "FILTER_DROPPED"
  | .sortDropped _ _ => "SORT_DROPPED"
  | .queryAssembled _ => "QUERY_ASSEMBLED"
  | .queryExecuted _ => "QUERY_EXECUTED"
  | .queryFailed _ => "QUERY_FAILED"

def level : Event → String
  | .configLoaded | .entitiesLoaded | .filterDropped _ _ | .sortDropped _ _ => "INFO"
  | .queryFailed _ => "WARN"
  | _ => "DEBUG"

def details : Event → List (String × Json)
  | .configLoaded | .entitiesLoaded => []
  | .entityBuilt entity | .queryAssembled entity | .queryExecuted entity | .queryFailed entity =>
    [("entity", .string entity)]
  | .sanitize key | .normalize key | .require key | .control key => [("key", .string key)]
  | .sanitizeDepthExceeded depth => [("depth", .ofNat depth)]
  | .validationFailed code key => [("code", .string code), ("key", .string key)]
  | .filterCompiled field => [("field", .string field)]
  | .filterDropped field reason => [("field", .string field), ("reason", .string reason)]
  | .sortDropped entity field => [("entity", .string entity), ("field", .string field)]

def toJson (event : Event) : Json :=
  .object (Members.ofList
    (("level", .string event.level) :: ("event", .string event.name) :: event.details))

end Event

end EntitySchema
