import EntitySchema.Event
import EntitySchema.Json.Shape
import EntitySchema.Text.Blank

set_option autoImplicit false

namespace EntitySchema

structure SanitizeLimits where
  maxDepth : Nat
  allowedKeys : Option (List String)
deriving DecidableEq

namespace SanitizeLimits

def standard : SanitizeLimits := ⟨8, none⟩

def allows (limits : SanitizeLimits) (key : String) : Bool :=
  match limits.allowedKeys with
  | some keys => keys.contains key
  | none => true

def keySet (keys : List String) : List String :=
  (Members.ofList (keys.map fun key => (key, ()))).map Prod.fst

def toJson (limits : SanitizeLimits) : Json :=
  .object
    ((limits.allowedKeys.toList.map fun keys => ("allowed_keys", .array (keys.map .string))) ++
      [("max_depth", .ofNat limits.maxDepth)])

def read (origin : Json.Origin) : Json.Reader SanitizeLimits :=
  Json.Reader.record origin "SanitizeLimits" (["max_depth", "allowed_keys"].map Json.Reader.field)
    standard fun limits name tree => do
      if name = "max_depth" then return { limits with maxDepth := (← Json.Reader.count tree).toNat }
      else
        let keys ← Json.Reader.optional (Json.Reader.list Json.Reader.string) tree
        return { limits with allowedKeys := keys.map keySet }

end SanitizeLimits

namespace DeepTrim

mutual
def trimAt (limits : SanitizeLimits) (depth : Nat) : Json → Json
  | .string s => .string (Blank.trim s)
  | .array items =>
    if limits.maxDepth ≤ depth then .array items else .array (trimItems limits (depth + 1) items)
  | .object members =>
    if limits.maxDepth ≤ depth then .object members
    else .object (trimMembers limits (depth + 1) members)
  | value => value

def trimItems (limits : SanitizeLimits) (depth : Nat) : List Json → List Json
  | [] => []
  | item :: rest => trimAt limits depth item :: trimItems limits depth rest

def trimMembers (limits : SanitizeLimits) (depth : Nat) :
    List (String × Json) → List (String × Json)
  | [] => []
  | (key, value) :: rest =>
    (key, if limits.allows key then trimAt limits depth value else value) ::
      trimMembers limits depth rest
end

mutual
def eventsAt (limits : SanitizeLimits) (depth : Nat) : Json → List Event
  | .array items =>
    if limits.maxDepth ≤ depth then [.sanitizeDepthExceeded depth]
    else itemEvents limits (depth + 1) items
  | .object members =>
    if limits.maxDepth ≤ depth then [.sanitizeDepthExceeded depth]
    else memberEvents limits (depth + 1) members
  | _ => []

def itemEvents (limits : SanitizeLimits) (depth : Nat) : List Json → List Event
  | [] => []
  | item :: rest => eventsAt limits depth item ++ itemEvents limits depth rest

def memberEvents (limits : SanitizeLimits) (depth : Nat) : List (String × Json) → List Event
  | [] => []
  | (key, value) :: rest =>
    (if limits.allows key then eventsAt limits depth value else []) ++
      memberEvents limits depth rest
end

end DeepTrim

def deepTrim (limits : SanitizeLimits) (value : Json) : Json := DeepTrim.trimAt limits 0 value

def deepTrimEvents (limits : SanitizeLimits) (value : Json) : List Event :=
  DeepTrim.eventsAt limits 0 value

end EntitySchema
