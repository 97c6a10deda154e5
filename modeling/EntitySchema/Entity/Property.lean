import EntitySchema.Entity.Fault
import EntitySchema.Entity.Operation
import EntitySchema.Field.Kind
import EntitySchema.Record.Normalizer

/-!
# Properties

A declaration describes one field of an entity in plain data; a descriptor adds callbacks to it. A
property is a descriptor that has been resolved: its type and normalizer are known, its operations
are a set and its bounds are complete.
-/

set_option autoImplicit false

namespace EntitySchema

structure Declaration where
  key : String
  typeName : String
  min : Option Limit
  max : Option Limit
  required : Bool
  safe : Bool
  strict : Bool
  operations : Option (List String)
  sanitize : Bool
  normalize : Bool
  validate : Bool
  normalizer : Option String
deriving DecidableEq

def Declaration.of (key typeName : String) : Declaration :=
  { key := key, typeName := typeName, min := none, max := none, required := false, safe := true,
    strict := false, operations := none, sanitize := true, normalize := false, validate := true,
    normalizer := none }

structure Hooks where
  sanitizer : Option (Json → Json)
  normalizer : Option (Json → Json)
  validator : Option (Json → Except Violation Unit)

def Hooks.none : Hooks := ⟨.none, .none, .none⟩

structure Descriptor extends Declaration where
  hooks : Hooks

def Declaration.plain (d : Declaration) : Descriptor := ⟨d, .none⟩

inductive Normalization where
  | absent
  | named (normalizer : Normalizer)
  | custom (f : Json → Json)

namespace Normalization

def isPresent : Normalization → Bool
  | .absent => false
  | _ => true

def apply : Normalization → Json → Json
  | .absent, value => value
  | .named normalizer, value => normalizer.apply value
  | .custom f, value => f value

end Normalization

structure Property where
  key : String
  typeName : String
  type : FieldType
  bounds : Bounds
  required : Bool
  safe : Bool
  strict : Bool
  operations : List Operation
  sanitizes : Bool
  normalizeFlag : Bool
  validates : Bool
  sanitizer : Option (Json → Json)
  normalization : Normalization
  validator : Option (Json → Except Violation Unit)

def isControl (c : Char) : Bool := c.toNat < 0x20 || (0x7F ≤ c.toNat && c.toNat < 0xA0)

def keyFault? (key : String) : Option KeyFault :=
  if Blank.isBlankText key then some .blank
  else if key.toList.contains '"' then some .quote
  else if key.toList.any isControl then some .control
  else none

namespace Property

def appliesTo (p : Property) (op : Operation) : Bool := p.operations.contains op

def normalizes (p : Property) : Bool := p.normalizeFlag && p.normalization.isPresent

def check (p : Property) (value : Json) : Except Violation Unit :=
  match p.validator with
  | some validator => validator value
  | none => p.type.check value p.bounds p.strict

def resolveOperations (key : String) : Option (List String) → Except SchemaError (List Operation)
  | none => .ok Operation.all
  | some tags => do
    let named ← tags.mapM fun tag =>
      match Operation.parse? tag with
      | some op => .ok op
      | none => .error (.invalidOperation key tag)
    return Operation.all.filter named.contains

def resolveNormalizer (d : Descriptor) : Except SchemaError Normalization :=
  match d.hooks.normalizer, d.normalizer with
  | some f, _ => .ok (.custom f)
  | none, none => .ok .absent
  | none, some name =>
    match Normalizer.parse? name with
    | some normalizer => .ok (.named normalizer)
    | none => .error (.unknownNormalizer d.key name)

-- Resolves a descriptor. Of several faults the first counts: the key, the type, the operations, the
-- normalizer, the bounds.
def resolve (types : TypeRegistry) (d : Descriptor) : Except SchemaError Property := do
  if let some fault := keyFault? d.key then .error (.invalidKey d.key fault)
  let type ← match types.get? d.typeName with
    | some type => .ok type
    | none => .error (.unknownType d.key d.typeName)
  let operations ← resolveOperations d.key d.operations
  let normalization ← resolveNormalizer d
  let bounds := Bounds.orDefaults ⟨d.min, d.max⟩ type.defaults
  if bounds.isInverted then .error (.invalidBounds d.key bounds.minLabel bounds.maxLabel)
  return {
    key := d.key, typeName := d.typeName, type := type, bounds := bounds, required := d.required,
    safe := d.safe, strict := d.strict, operations := operations, sanitizes := d.sanitize,
    normalizeFlag := d.normalize, validates := d.validate, sanitizer := d.hooks.sanitizer,
    normalization := normalization, validator := d.hooks.validator }

end Property

end EntitySchema
