import EntitySchema.Entity.Property
import EntitySchema.Proofs.Number.Whole
import EntitySchema.Proofs.Outcome

set_option autoImplicit false

namespace EntitySchema

def Descriptor.joins (d : Descriptor) (op : Operation) : Bool :=
  match d.operations with
  | none => true
  | some tags => tags.any fun tag => Operation.parse? tag = some op

theorem tags_parsed (key : String) (tags : List String) (operations : List Operation)
    (accepted : (tags.mapM fun tag =>
      match Operation.parse? tag with
      | some op => Except.ok op
      | none => .error (SchemaError.invalidOperation key tag)) = .ok operations) :
    tags.map Operation.parse? = operations.map some := by
  have steps := (mapM_ok_iff _ _ _).mp accepted
  clear accepted
  induction steps with
  | nil => rfl
  | @cons tag op rest others step _ ih =>
      cases parsed : Operation.parse? tag with
      | none => simp [parsed] at step
      | some found =>
          obtain rfl : found = op := by simpa [parsed] using step
          rw [List.map_cons, List.map_cons, parsed, ih]

theorem operation_listed (op : Operation) : op ∈ Operation.all := by
  cases op <;> simp [Operation.all]

theorem resolveOperations_joins (d : Descriptor) (operations : List Operation) (op : Operation)
    (resolved : Property.resolveOperations d.key d.operations = .ok operations) :
    operations.contains op = d.joins op := by
  unfold Descriptor.joins
  have listed := operation_listed op
  cases named : d.operations with
  | none =>
      rw [named] at resolved
      cases resolved
      simpa using listed
  | some tags =>
      rw [named] at resolved
      obtain ⟨operations, accepted, same⟩ := (bind_ok_iff _ _ _).mp resolved
      cases same
      have parsed := tags_parsed d.key tags operations accepted
      have member : op ∈ operations ↔ some op ∈ tags.map Operation.parse? := by simp [parsed]
      rw [Bool.eq_iff_iff]
      simp [listed, member]

structure Instant.Dated (t : Instant) : Prop where
  inRange : t.inRange = true
  nano : t.nano < 2 * Instant.billion

theorem dated_millis (t : Instant) (dated : t.Dated) : t.millis.natAbs < 2 ^ 53 := by
  have first : Instant.minSecond = -8334601228800 := rfl
  have last : Instant.maxSecond = 8210266876799 := rfl
  have within := dated.inRange
  have part := dated.nano
  simp only [Instant.inRange, Bool.and_eq_true, decide_eq_true_eq, first, last] at within
  simp only [Instant.billion] at part
  simp only [Instant.millis]
  omega

-- A property as it is declared. Sides that the declaration leaves open are those of the type, and
-- where both sides are closed the lower one does not exceed the upper one, dates being compared in
-- whole milliseconds.
structure Property.Declared (types : TypeRegistry) (d : Descriptor) (p : Property) : Prop where
  key : p.key = d.key
  valid : keyFault? p.key = none
  typeName : p.typeName = d.typeName
  type : types.get? p.typeName = some p.type
  safe : p.safe = d.safe
  operations : ∀ op, p.appliesTo op = d.joins op
  bounds : p.bounds = Bounds.orDefaults ⟨d.min, d.max⟩ p.type.defaults
  ordered : ∀ low high, p.bounds.min = some low → p.bounds.max = some high →
    low.toNumber.le high.toNumber = true
  dates : ∀ low high, p.bounds.min = some (.date low) → p.bounds.max = some (.date high) →
    low.Dated → high.Dated → low.millis ≤ high.millis

theorem upright_ordered (b : Bounds) (upright : b.isInverted = false) (low high : Limit)
    (least : b.min = some low) (greatest : b.max = some high) :
    low.toNumber.le high.toNumber = true := by
  simp only [Bounds.isInverted, least, greatest, Binary64.lt, decide_eq_false_iff_not] at upright
  simp only [Binary64.le, decide_eq_true_eq]
  omega

theorem upright_dates (b : Bounds) (upright : b.isInverted = false) (low high : Instant)
    (least : b.min = some (.date low)) (greatest : b.max = some (.date high)) (early : low.Dated)
    (late : high.Dated) : low.millis ≤ high.millis :=
  (Binary64.ofInt_le low.millis high.millis (dated_millis low early) (dated_millis high late)).mp
    (upright_ordered b upright (.date low) (.date high) least greatest)

theorem resolve_declared (types : TypeRegistry) (d : Descriptor) (p : Property)
    (accepted : Property.resolve types d = .ok p) : p.Declared types d := by
  unfold Property.resolve at accepted
  cases fault : keyFault? d.key with
  | some fault' =>
      rw [fault] at accepted
      cases accepted
  | none =>
      rw [fault] at accepted
      cases known : types.get? d.typeName with
      | none =>
          rw [known] at accepted
          cases accepted
      | some type =>
          rw [known] at accepted
          simp only [bind_ok_iff] at accepted
          obtain ⟨found, same, operations, named, normalization, _, accepted⟩ := accepted
          cases same
          split at accepted
          · cases accepted
          · rename_i upright
            have right := Bool.eq_false_iff.mpr upright
            cases accepted
            exact {
              key := rfl
              valid := fault
              typeName := rfl
              type := known
              safe := rfl
              operations := fun op => resolveOperations_joins d operations op named
              bounds := rfl
              ordered := upright_ordered _ right
              dates := upright_dates _ right }

theorem Property.check_plain (p : Property) (plain : p.validator = none) (value : Json) :
    p.check value = p.type.check value p.bounds p.strict := by
  rw [Property.check, plain]

end EntitySchema
