import EntitySchema.Filter.Predicate

/-!
# Binding onto a shared list

Compilation as one pass over a list of arguments that all filters share. A value is bound when its
place is written, so a filter may have bound values by the time it is refused. The list is then cut
back to where the filter found it, and the next filter goes on from there.
-/

set_option autoImplicit false

namespace EntitySchema

open Interpretation

-- A program that binds values behind the arguments bound so far. A refusal leaves what it has bound.
abbrev Binding := ExceptT FilterAnomaly (StateM (List Json))

namespace Binding

def onto {α : Type} (program : Binding α) (args : List Json) :
    Except FilterAnomaly α × List Json :=
  program.run.run args

def place (value : Json) : Binding Sql.Piece := do
  modify (· ++ [value])
  return .place (← get).length

def check {α : Type} (outcome : Except FilterAnomaly α) : Binding α := ExceptT.mk (pure outcome)

def write (emit : Nat → Emitted) : Binding Sql.Fragment := do
  let bound ← get
  let emitted := emit bound.length
  set (bound ++ emitted.values)
  return emitted.sql

mutual
def member (mode : MatchMode) (depth : Nat) (base : Sql.Fragment) (key : String) :
    Json → Binding Sql.Fragment
  | .object [] => do
    let _ ← place (.string key)
    if maxObjectDepth ≤ depth then throw (.badValue .shallowObject)
    else throw (.badValue .fullObject)
  | .object inner => do
    let key ← place (.string key)
    if maxObjectDepth ≤ depth then throw (.badValue .shallowObject)
    else
      let parts ← members mode (depth + 1) (base ++ [.text "->", key]) inner
      return joined "AND" parts
  | scalar => do
    let key ← place (.string key)
    let test ← check (leaf mode scalar)
    write (test.emit (base ++ [.text "->>", key]))

def members (mode : MatchMode) (depth : Nat) (base : Sql.Fragment) :
    List (String × Json) → Binding (List Sql.Fragment)
  | [] => return []
  | (key, value) :: rest => do
    let first ← member mode depth base key value
    return first :: (← members mode depth base rest)
end

def document (mode : MatchMode) (column : Sql.Fragment) :
    List (String × Json) → Binding Sql.Fragment
  | [] => throw (.badValue .fullObject)
  | inner => return joined "AND" (← members mode 1 column inner)

def element (mode : MatchMode) (name : String) : Json → Binding Sql.Fragment
  | .number n => do
    let name ← place (.string name)
    let comparison ← match mode.comparator with
      | .eq => pure .eq
      | .ne => pure .ne
      | _ => throw (.unsupportedMode mode)
    write ((Test.compare .plain comparison (.string n.text)).emit [.text "p", .text "->>", name])
  | other => member mode 1 [.text "p"] name other

def tuple (mode : MatchMode) : List (String × Json) → Binding (List Sql.Fragment)
  | [] => return []
  | (name, value) :: rest => do
    let first ← element mode name value
    return first :: (← tuple mode rest)

def conjunction (mode : MatchMode) (values : List (String × Json)) : Binding Sql.Fragment := do
  let parts ← tuple mode values
  return Sql.Fragment.parenthesized (Sql.Fragment.join " AND " parts)

def tuples (mode : MatchMode) (names : List String) :
    List (List Json) → Binding (List Sql.Fragment)
  | [] => return []
  | values :: rest => do
    let first ← conjunction mode (names.zip values)
    return first :: (← tuples mode names rest)

def elements (mode : MatchMode) (column : Sql.Fragment) (subProps : Option (List String))
    (value : Json) : Binding Sql.Fragment :=
  let names := subProps.getD []
  let flat := match value with
    | .array items => items
    | scalar => List.replicate names.length scalar
  if names.isEmpty then throw .missingSubProps
  else if mode.comparator = .range then throw (.unsupportedMode mode)
  else if flat.isEmpty ∨ flat.length % names.length ≠ 0 then throw (.badValue .perSubProp)
  else do
    let parts ← tuples mode names (chunks names.length flat)
    return .text "EXISTS (SELECT 1 FROM json_array_elements(" :: column ++
      .text "::json) AS p WHERE " :: Sql.Fragment.join " OR " parts ++ [.text ")"]

def settled (column : Sql.Fragment) (outcome : Except FilterAnomaly Condition) :
    Binding Sql.Fragment := do
  let condition ← check outcome
  write (condition.emit column)

def ofCategory (column : Sql.Fragment) (category : FilterCategory) (mode : MatchMode)
    (value : Json) : Binding Sql.Fragment :=
  match category, value with
  | .string, .object members => document mode column members
  | category, value => settled column (Interpretation.ofCategory category mode value)

def onProperty (modes : MatchModes) (p : Property) (column : Sql.Fragment) (filter : Filter) :
    Binding Sql.Fragment := do
  let requested ← check (requestedMode filter)
  let value := filter.value
  if hasEnding jsonAggSuffix p.key then
    let mode ← check (modeFor modes .string requested value)
    elements mode column filter.subProps value
  else if hasEnding arrayAggSuffix p.key then
    let _ ← check (modeFor modes .array requested value)
    settled column (holdsAny true value)
  else
    match p.type.category with
    | none => throw (.notFilterable p.typeName)
    | some category =>
      let mode ← check (modeFor modes category requested value)
      match value with
      | .null => settled column ((null mode).map .column)
      | value => ofCategory column category mode value

def condition (e : Entity) (modes : MatchModes) (field : String) (filter : Filter) :
    Binding Sql.Fragment :=
  match e.property? field with
  | none => throw .unknownField
  | some p =>
    if p.appliesTo .select then onProperty modes p [.name field] filter else throw .notSelectable

end Binding

-- Compiles a filter onto arguments. If it is refused, the arguments are cut back to their number
-- before.
def Filter.compileOnto (e : Entity) (modes : MatchModes) (field : String) (filter : Filter)
    (args : List Json) : Except FilterAnomaly Sql.Fragment × List Json :=
  match (Binding.condition e modes field filter).onto args with
  | (.ok fragment, bound) => (.ok fragment, bound)
  | (.error anomaly, bound) => (.error anomaly, bound.take args.length)

structure Pass where
  fragments : List Sql.Fragment
  dropped : List DroppedFilter
  args : List Json

namespace Pass

def start (args : List Json) : Pass := ⟨[], [], args⟩

def skip (pass : Pass) (field : String) (anomaly : FilterAnomaly) : Pass :=
  { pass with dropped := pass.dropped ++ [⟨field, anomaly⟩] }

def one (e : Entity) (modes : MatchModes) (field : String) (pass : Pass) (filter : Filter) : Pass :=
  match filter.compileOnto e modes field pass.args with
  | (.ok fragment, args) => { pass with fragments := pass.fragments ++ [fragment], args := args }
  | (.error anomaly, args) => { pass with args := args }.skip field anomaly

def entry (e : Entity) (modes : MatchModes) (pass : Pass) : String × FilterInput → Pass
  | (field, .single filter) => pass.one e modes field filter
  | (field, .malformed _ reason) => pass.skip field (.malformed reason)
  | (field, .many []) => pass.skip field .empty
  | (field, .many (first :: rest)) =>
    let parts := (first :: rest).foldl (Pass.one e modes field) { pass with fragments := [] }
    { parts with
      fragments := pass.fragments ++
        FilterInput.joinFragments (first.connective.getD .and) parts.fragments }

end Pass

def FilterMap.compileOnto (e : Entity) (modes : MatchModes) (filters : FilterMap)
    (args : List Json) : Pass :=
  filters.foldl (Pass.entry e modes) (.start args)

end EntitySchema
