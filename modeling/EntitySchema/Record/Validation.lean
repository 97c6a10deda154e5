import EntitySchema.Entity.Catalog
import EntitySchema.Event

/-!
# Validation of records

For each record, and each property of the operation in order: the value is sanitized and
normalized, required to be there, and checked. Stages write their results back, so that a later
stage sees the repaired value. The first failure ends the batch; what has been written back stays.

Every run comes with the events that it reports, computed beside the records.
-/

set_option autoImplicit false

namespace EntitySchema

abbrev Record := List (String × Json)

inductive ValidationError where
  | missing (key type : String)
  | invalid (key : String) (cause : Violation)
  | customFailed (key : String) (cause : Violation)
  | noData
  | invalidVerb (received : String) (accepted : List String)

namespace ValidationError

def code : ValidationError → String
  | .missing _ _ => "ANTITY_MISSING_FIELD"
  | .invalid _ _ => "ANTITY_INVALID_FIELD"
  | .customFailed _ _ => "ANTITY_CUSTOM_VALIDATION_FAILED"
  | .noData => "ANTITY_NO_DATA"
  | .invalidVerb _ _ => "ANTITY_INVALID_VERB"

def key? : ValidationError → Option String
  | .missing key _ | .invalid key _ | .customFailed key _ => some key
  | .noData | .invalidVerb _ _ => none

def cause? : ValidationError → Option Violation
  | .invalid _ cause | .customFailed _ cause => some cause
  | _ => none

def message : ValidationError → String
  | .missing key type => "Missing " ++ key ++ " of type " ++ type
  | .invalid key cause => "Invalid \"" ++ key ++ "\" - caused by: " ++ cause.message
  | .customFailed key cause =>
    "Custom validator callback failed for \"" ++ key ++ "\" - caused by: " ++ cause.message
  | .noData => "No data to validate"
  | .invalidVerb received accepted =>
    "Invalid verb \"" ++ received ++ "\", expected one of: " ++ String.intercalate ", " accepted

def body (e : ValidationError) : Json :=
  .object
    ([("code", .string e.code)] ++ (e.key?.toList.map fun key => ("key", .string key)) ++
      [("message", .string e.message), ("statusCode", .ofNat 400)])

def failure (e : ValidationError) : Event := .validationFailed e.code (e.key?.getD "")

end ValidationError

namespace Record

def adjust (key : String) (f : Json → Json) (record : Record) : Record :=
  record.map fun (k, v) => if k = key then (k, f v) else (k, v)

def present? (record : Record) (key : String) : Option Json :=
  match record.lookup key with
  | some .null | none => none
  | some value => some value

end Record

namespace Property

def sanitize (limits : SanitizeLimits) (p : Property) (value : Json) : Json :=
  if p.sanitizes then
    match p.sanitizer with
    | some f => f value
    | none => deepTrim limits value
  else value

def normalize (p : Property) (value : Json) : Json :=
  if p.normalizes then p.normalization.apply value else value

def clean (limits : SanitizeLimits) (p : Property) : Json → Json
  | .null => .null
  | value => p.normalize (p.sanitize limits value)

def cleanEvents (limits : SanitizeLimits) (p : Property) : Json → List Event
  | .null => []
  | value =>
    let trims := if p.sanitizer.isNone then deepTrimEvents limits value else []
    (if p.sanitizes then .sanitize p.key :: trims else []) ++
      (if p.normalizes then [.normalize p.key] else [])

def cleanIn (limits : SanitizeLimits) (p : Property) (record : Record) : Record :=
  Record.adjust p.key (p.clean limits) record

def failure? (p : Property) (record : Record) : Option ValidationError :=
  match Record.present? record p.key with
  | none => if p.required then some (.missing p.key p.typeName) else none
  | some value =>
    if p.validates then
      match p.check value with
      | .ok () => none
      | .error cause =>
        match p.validator with
        | some _ => some (.customFailed p.key cause)
        | none => some (.invalid p.key cause)
    else none

def events (limits : SanitizeLimits) (p : Property) (record : Record) : List Event :=
  let cleaned := p.cleanIn limits record
  ((record.lookup p.key).toList.flatMap (p.cleanEvents limits)) ++
    (if p.required then [.require p.key] else []) ++
    (if p.validates && (Record.present? cleaned p.key).isSome then [.control p.key] else []) ++
    ((p.failure? cleaned).toList.map ValidationError.failure)

end Property

namespace Validation

def record (limits : SanitizeLimits) : List Property → Record → Record × Option ValidationError
  | [], r => (r, none)
  | p :: rest, r =>
    let cleaned := p.cleanIn limits r
    match p.failure? cleaned with
    | some e => (cleaned, some e)
    | none => record limits rest cleaned

def recordEvents (limits : SanitizeLimits) : List Property → Record → List Event
  | [], _ => []
  | p :: rest, r =>
    let cleaned := p.cleanIn limits r
    p.events limits r ++
      (if (p.failure? cleaned).isSome then [] else recordEvents limits rest cleaned)

def batch (limits : SanitizeLimits) (properties : List Property) :
    List Record → List Record × Option ValidationError
  | [] => ([], none)
  | r :: rest =>
    match record limits properties r with
    | (r, some e) => (r :: rest, some e)
    | (r, none) =>
      let (rest, e) := batch limits properties rest
      (r :: rest, e)

-- The records among items, edited in place, up to the first that is refused. Other items are passed
-- over.
def items (limits : SanitizeLimits) (properties : List Property) :
    List Json → List Json × Option ValidationError
  | [] => ([], none)
  | .object r :: rest =>
    match record limits properties r with
    | (r, some e) => (.object r :: rest, some e)
    | (r, none) =>
      let (rest, e) := items limits properties rest
      (.object r :: rest, e)
  | other :: rest =>
    let (rest, e) := items limits properties rest
    (other :: rest, e)

def batchEvents (limits : SanitizeLimits) (properties : List Property) : List Record → List Event
  | [] => []
  | r :: rest =>
    recordEvents limits properties r ++
      (if (record limits properties r).2.isSome then [] else batchEvents limits properties rest)

end Validation

namespace Entity

def propertiesForIntent (e : Entity) (intent : Intent) : List Property :=
  e.propertiesFor (intent.resolve e.verbs)

def validate (e : Entity) (records : List Record) (intent : Intent) :
    List Record × Option ValidationError :=
  Validation.batch e.limits (e.propertiesForIntent intent) records

def validateEvents (e : Entity) (records : List Record) (intent : Intent) : List Event :=
  Validation.batchEvents e.limits (e.propertiesForIntent intent) records

def validateOne (e : Entity) (record : Record) (intent : Intent) :
    Record × Option ValidationError :=
  Validation.record e.limits (e.propertiesForIntent intent) record

def validateOneEvents (e : Entity) (record : Record) (intent : Intent) : List Event :=
  Validation.recordEvents e.limits (e.propertiesForIntent intent) record

def normalizeOne (e : Entity) (record : Record) : Record :=
  e.properties.foldl (fun r p => p.cleanIn e.limits r) record

def normalizeOneEvents (e : Entity) (record : Record) : List Event :=
  (e.properties.foldl (fun (r, events) p =>
    (p.cleanIn e.limits r,
      events ++ (List.lookup p.key r).toList.flatMap (p.cleanEvents e.limits))) (record, [])).2

def normalize (e : Entity) (records : List Record) : List Record := records.map e.normalizeOne

def normalizeEvents (e : Entity) (records : List Record) : List Event :=
  records.flatMap e.normalizeOneEvents

def bodyRecords? : Json → Option (List Record)
  | .object members => some [members]
  | .array (first :: rest) =>
    (first :: rest).mapM fun item =>
      match item with
      | .object members => some members
      | _ => none
  | _ => none

-- The body of a request: an object, or a list of objects that is not empty, edited in place. Whether
-- all items are objects is known before the first of them is edited.
def validateBody (e : Entity) (body : Option Json) (verb : Option String) :
    Option Json × Option ValidationError :=
  match verb.bind Verb.parse? with
  | none => (body, some (.invalidVerb (verb.getD "") (Verb.all.map Verb.name)))
  | some verb =>
    let properties := e.propertiesForIntent (.ofVerb verb)
    match body with
    | some (.object r) =>
      let (r, failure) := Validation.record e.limits properties r
      (some (.object r), failure)
    | some (.array (first :: rest)) =>
      if (first :: rest).all Json.isObject then
        let (items, failure) := Validation.items e.limits properties (first :: rest)
        (some (.array items), failure)
      else (body, some .noData)
    | _ => (body, some .noData)

def validateBodyEvents (e : Entity) (body : Option Json) (verb : Option String) : List Event :=
  match verb.bind Verb.parse?, body.bind bodyRecords? with
  | some verb, some records => e.validateEvents records (.ofVerb verb)
  | _, _ => []

end Entity

end EntitySchema
