import EntitySchema.Entity.Catalog
import EntitySchema.Filter.Condition
import EntitySchema.Filter.Input
import EntitySchema.Filter.Mode
import EntitySchema.Text.Ending

/-!
# What filters mean

A filter on a field of an entity is interpreted as a condition, or refused for an anomaly. The
field has to be readable, the mode legal for the type of the field, and the value one that the mode
applies to.
-/

set_option autoImplicit false

namespace EntitySchema

inductive Wanted where
  | text
  | number
  | date
  | boolean
  | pair
  | openRange
  | list
  | object
  | shallowObject
  | fullObject
  | perSubProp
  | integers
  | scalars
  | bounds
  | coordinates
deriving DecidableEq

def Wanted.name : Wanted → String
  | .text => "string"
  | .number => "number"
  | .date => "date"
  | .boolean => "boolean"
  | .pair => "two-element [from, to] array"
  | .openRange => "range with at least one bound"
  | .list => "non-empty list"
  | .object => "object"
  | .shallowObject => "object nested within the depth limit"
  | .fullObject => "non-empty object"
  | .perSubProp => "one value per sub-property"
  | .integers => "integer elements"
  | .scalars => "scalar elements"
  | .bounds => "geometry bounds"
  | .coordinates => "numeric geometry coordinates"

inductive FilterAnomaly where
  | unknownField
  | notSelectable
  | notFilterable (type : String)
  | unknownMode (name : String)
  | illegalMode (mode : MatchMode) (category : FilterCategory)
  | unsupportedMode (mode : MatchMode)
  | badValue (wanted : Wanted)
  | missingSubProps
  | empty
  | malformed (reason : Json.ShapeError)

namespace FilterAnomaly

def kind : FilterAnomaly → String
  | .unknownField => "UnknownField"
  | .notSelectable => "NotSelectable"
  | .notFilterable _ => "NotFilterable"
  | .unknownMode _ => "UnknownMode"
  | .illegalMode _ _ => "IllegalMode"
  | .unsupportedMode _ => "UnsupportedMode"
  | .badValue _ => "BadValue"
  | .missingSubProps => "MissingSubProps"
  | .empty => "Empty"
  | .malformed _ => "Malformed"

def message : FilterAnomaly → String
  | .unknownField => "unknown field"
  | .notSelectable => "field is not selectable"
  | .notFilterable type => "type \"" ++ type ++ "\" cannot be filtered"
  | .unknownMode name => "unknown match mode \"" ++ name ++ "\""
  | .illegalMode mode category =>
    "match mode " ++ mode.name ++ " is not allowed for " ++ category.name ++ " fields"
  | .unsupportedMode mode => "match mode " ++ mode.name ++ " does not apply to this value"
  | .badValue wanted => "expected " ++ wanted.name ++ " value"
  | .missingSubProps => "subProps are required for JSON aggregate filters"
  | .empty => "empty filter list"
  | .malformed reason => "malformed filter: " ++ reason.message

end FilterAnomaly

abbrev Conversion := Json → Except FilterAnomaly Json

namespace Interpretation

def textOf? : Json → Option String
  | .string s => some s
  | .number n => some n.text
  | .bool b => some (if b then "true" else "false")
  | _ => none

def textValue : Conversion := fun value =>
  match textOf? value with
  | some s => .ok (.string s)
  | none => .error (.badValue .text)

def numberValue : Conversion
  | .number n => .ok (.number n)
  | .string s =>
    let s := Blank.trim s
    match (readInt64? s).bind JsonNumber.ofInt? with
    | some n => .ok (.number n)
    | none =>
      match readNumber? s with
      | some x => .ok (.number (.real x))
      | none => .error (.badValue .number)
  | _ => .error (.badValue .number)

def dateValue : Conversion
  | .string s => if (Instant.parse? s).isSome then .ok (.string s) else .error (.badValue .date)
  | .number n => if n.toInt64?.isSome then .ok (.number n) else .error (.badValue .date)
  | _ => .error (.badValue .date)

def boolValue : Conversion
  | .bool b => .ok (.bool b)
  | .string s =>
    if s = "true" then .ok (.bool true)
    else if s = "false" then .ok (.bool false)
    else .error (.badValue .boolean)
  | _ => .error (.badValue .boolean)

-- A pattern for a text: wildcards in it stand for themselves, and wildcards of the pattern are put
-- on the sides that ask for them.
def pattern (leading trailing : Bool) (s : List Char) : List Char :=
  (if leading then ['%'] else []) ++
    s.flatMap (fun c => if c = '%' ∨ c = '_' ∨ c = '\\' then ['\\', c] else [c]) ++
    (if trailing then ['%'] else [])

def anyOf (cast : Cast) (convert : Conversion) (value : Json) : Except FilterAnomaly Test :=
  match value with
  | .array [] => .error (.badValue .list)
  | .array items => return .anyOf cast (← items.mapM convert)
  | scalar => return .anyOf cast [← convert scalar]

def side (convert : Conversion) : Json → Except FilterAnomaly (Option Json)
  | .null => .ok none
  | value => (convert value).map some

def range (convert : Conversion) (value : Json) : Except FilterAnomaly Test :=
  match value with
  | .array [low, high] => do
    match ← side convert low, ← side convert high with
    | some low, some high => return .between .plain low high
    | some low, none => return .compare .plain .gte low
    | none, some high => return .compare .plain .lte high
    | none, none => .error (.badValue .openRange)
  | _ => .error (.badValue .pair)

def comparison? : Comparator → Option Comparison
  | .eq => some .eq
  | .ne => some .ne
  | .lt => some .lt
  | .lte => some .lte
  | .gt => some .gt
  | .gte => some .gte
  | .like negated _ _ => some (if negated then .notLike else .like)
  | _ => none

def text (mode : MatchMode) (value : Json) : Except FilterAnomaly Test := do
  let folded (s : String) : String := LetterCase.lower s
  let read : Except FilterAnomaly String :=
    match textOf? value with
    | some s => .ok (folded s)
    | none => .error (.badValue .text)
  match mode.comparator with
  | .any => anyOf .plain textValue value
  | .eq => return .compare .lower .eq (.string (← read))
  | .ne => return .compare .lower .ne (.string (← read))
  | .like negated leading trailing =>
    let s := String.ofList (pattern leading trailing (← read).toList)
    return .compare .lower (if negated then .notLike else .like) (.string s)
  | _ => .error (.unsupportedMode mode)

def ordered (convert : Conversion) (mode : MatchMode) (value : Json) :
    Except FilterAnomaly Test := do
  match mode.comparator with
  | .range => range convert value
  | .any => anyOf .plain convert value
  | .like _ _ _ => .error (.unsupportedMode mode)
  | comparator =>
    let bound ← convert value
    match comparison? comparator with
    | some comparison => return .compare .plain comparison bound
    | none => .error (.unsupportedMode mode)

def boolean (mode : MatchMode) (value : Json) : Except FilterAnomaly Test := do
  match mode.comparator with
  | .eq => return .compare .plain .eq (← boolValue value)
  | .ne => return .compare .plain .ne (← boolValue value)
  | _ => .error (.unsupportedMode mode)

def null (mode : MatchMode) : Except FilterAnomaly Test :=
  match mode.nullTest? with
  | some negated => .ok (.isNull negated)
  | none => .error (.unsupportedMode mode)

def leafComparison (mode : MatchMode) : Comparison :=
  match mode.comparator with
  | .eq => .eq
  | .ne => .ne
  | .lt => .lt
  | .lte => .lte
  | .gt => .gt
  | .gte => .gte
  | _ => .eq

def leafTextMode (mode : MatchMode) : MatchMode :=
  match mode.comparator with
  | .eq | .ne | .like _ _ _ | .any => mode
  | _ => .equals

def leaf (mode : MatchMode) (value : Json) : Except FilterAnomaly Test :=
  match value with
  | .null => null mode
  | .bool b => .ok (.compare .boolean .eq (.bool b))
  | .number n => .ok (.compare .numeric (leafComparison mode) (.number n))
  | .string _ => text (leafTextMode mode) value
  | .array items =>
    if !items.isEmpty && items.all Json.isNumber then anyOf .numeric numberValue value
    else anyOf .plain textValue value
  | .object _ => .error (.badValue .text)

def maxObjectDepth : Nat := 8

mutual
def node (mode : MatchMode) (depth : Nat) : Json → Except FilterAnomaly Node
  | .object [] =>
    if maxObjectDepth ≤ depth then .error (.badValue .shallowObject)
    else .error (.badValue .fullObject)
  | .object members =>
    if maxObjectDepth ≤ depth then .error (.badValue .shallowObject)
    else (nodes mode (depth + 1) members).map .object
  | value => (leaf mode value).map .leaf

def nodes (mode : MatchMode) (depth : Nat) :
    List (String × Json) → Except FilterAnomaly (List (String × Node))
  | [] => .ok []
  | (key, value) :: rest => do
    let first ← node mode depth value
    return (key, first) :: (← nodes mode depth rest)
end

def document (mode : MatchMode) (members : List (String × Json)) : Except FilterAnomaly Condition :=
  match members with
  | [] => .error (.badValue .fullObject)
  | members => (nodes mode 1 members).map .document

def elementNode (mode : MatchMode) (value : Json) : Except FilterAnomaly Node :=
  match value with
  | .number n =>
    match mode.comparator with
    | .eq => .ok (.leaf (.compare .plain .eq (.string n.text)))
    | .ne => .ok (.leaf (.compare .plain .ne (.string n.text)))
    | _ => .error (.unsupportedMode mode)
  | value => node mode 1 value

def chunks {α : Type} (n : Nat) (items : List α) : List (List α) :=
  (List.range ((items.length + n - 1) / n)).map fun i => (items.drop (i * n)).take n

-- Elements of a list of documents: some element matches one of the tuples, each of which has a
-- value for every sub-property.
def elements (mode : MatchMode) (subProps : Option (List String)) (value : Json) :
    Except FilterAnomaly Condition := do
  let names ← match subProps with
    | some (name :: names) => .ok (name :: names)
    | _ => .error .missingSubProps
  if mode.comparator = .range then .error (.unsupportedMode mode)
  let flat := match value with
    | .array items => items
    | scalar => List.replicate names.length scalar
  if flat.isEmpty ∨ flat.length % names.length ≠ 0 then .error (.badValue .perSubProp)
  let tuples ← (chunks names.length flat).mapM fun tuple =>
    (names.zip tuple).mapM fun (name, value) => (elementNode mode value).map (name, ·)
  return .someElement tuples

def isInteger : Json → Bool
  | .number (.whole _ _) => true
  | _ => false

def isScalar : Json → Bool
  | .string _ | .number _ | .bool _ => true
  | _ => false

def holdsAny (integersOnly : Bool) (value : Json) : Except FilterAnomaly Condition :=
  let items := match value with
    | .array items => items
    | scalar => [scalar]
  match items.filter (if integersOnly then isInteger else isScalar) with
  | [] => .error (.badValue (if integersOnly then .integers else .scalars))
  | kept => .ok (.holdsAny kept)

def coordinate (value : Json) (key : String) : Except FilterAnomaly Json :=
  match value.get? key with
  | some (.number n) => .ok (.number n)
  | _ => .error (.badValue .coordinates)

def place (mode : MatchMode) (value : Json) : Except FilterAnomaly Condition := do
  match mode.comparator with
  | .envelope =>
    match value.get? "bounds" with
    | none => .error (.badValue .bounds)
    | some box =>
      return .within (← coordinate box "minLng") (← coordinate box "minLat")
        (← coordinate box "maxLng") (← coordinate box "maxLat")
  | .radius =>
    return .near (← coordinate value "lng") (← coordinate value "lat") (← coordinate value "radius")
  | _ => .error (.unsupportedMode mode)

def modeFor (modes : MatchModes) (category : FilterCategory) (requested : Option MatchMode)
    (value : Json) : Except FilterAnomaly MatchMode :=
  match requested with
  | some mode =>
    if modes.allows category mode then .ok mode else .error (.illegalMode mode category)
  | none => .ok (.default category value)

def requestedMode (filter : Filter) : Except FilterAnomaly (Option MatchMode) :=
  match filter.matchMode with
  | none => .ok none
  | some name =>
    match MatchMode.parse? name with
    | some mode => .ok (some mode)
    | none => .error (.unknownMode name)

def ofCategory (category : FilterCategory) (mode : MatchMode) (value : Json) :
    Except FilterAnomaly Condition :=
  match category with
  | .geometry => place mode value
  | .array => holdsAny false value
  | .string =>
    match value with
    | .object members => document mode members
    | other => (text mode other).map .column
  | .number => (ordered numberValue mode value).map .column
  | .date => (ordered dateValue mode value).map .column
  | .boolean => (boolean mode value).map .column

def jsonAggSuffix : String := "JsonAgg"
def arrayAggSuffix : String := "ArrayAgg"

def onProperty (modes : MatchModes) (p : Property) (filter : Filter) :
    Except FilterAnomaly Condition := do
  let requested ← requestedMode filter
  let value := filter.value
  if hasEnding jsonAggSuffix p.key then
    elements (← modeFor modes .string requested value) filter.subProps value
  else if hasEnding arrayAggSuffix p.key then
    let _ ← modeFor modes .array requested value
    holdsAny true value
  else
    match p.type.category with
    | none => .error (.notFilterable p.typeName)
    | some category =>
      let mode ← modeFor modes category requested value
      match value with
      | .null => (null mode).map .column
      | value => ofCategory category mode value

def condition (e : Entity) (modes : MatchModes) (field : String) (filter : Filter) :
    Except FilterAnomaly Condition :=
  match e.property? field with
  | none => .error .unknownField
  | some p =>
    if p.appliesTo .select then onProperty modes p filter else .error .notSelectable

end Interpretation

end EntitySchema
