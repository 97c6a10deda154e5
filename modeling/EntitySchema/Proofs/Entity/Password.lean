import EntitySchema.Proofs.Entity.Resolution
import EntitySchema.Proofs.Field.Length
import EntitySchema.Proofs.Json.Members
import EntitySchema.Settings

set_option autoImplicit false

namespace EntitySchema

theorem passwords_ordered (settings : Settings) (sound : settings.fault? = none) :
    settings.passwords.minLength ≤ settings.passwords.maxLength := by
  by_contra inverted
  simp [Settings.fault?, Nat.not_le.mp inverted] at sound

theorem builtin_password (policy : PasswordPolicy) :
    (TypeRegistry.builtin policy).get? "password" =
      some ⟨Check.password policy, .unbounded, none⟩ := by
  simp only [TypeRegistry.get?, TypeRegistry.builtin, Members.ofList, List.foldl, lookup_insert]
  rfl

structure Descriptor.MeetsPolicy (d : Descriptor) (policy : PasswordPolicy) : Prop where
  low : ∀ limit, d.min = some limit → d.max = none → limit.toLength ≤ policy.maxLength
  high : ∀ limit, d.max = some limit → d.min = none → policy.minLength ≤ limit.toLength

def Property.lengthPolicy (p : Property) (policy : PasswordPolicy) : PasswordPolicy :=
  policy.withLengths p.bounds.minLength? p.bounds.maxLength?

theorem fault_length_iff (policy : PasswordPolicy) (s : String) :
    policy.fault? s = some (.length policy.minLength policy.maxLength) ↔
      ¬(policy.minLength ≤ s.length ∧ s.length ≤ policy.maxLength) := by
  rw [PasswordPolicy.fault?, String.length_toList]
  by_cases outside : s.length < policy.minLength ∨ policy.maxLength < s.length
  · rw [if_pos outside]
    exact iff_of_true rfl (by omega)
  · rw [if_neg outside]
    refine iff_of_false ?_ (by omega)
    split_ifs <;> simp

theorem password_refuses_iff (policy : PasswordPolicy) (s : String) (bounds : Bounds) (strict : Bool)
    (fault : PasswordFault) :
    Check.password policy (.string s) bounds strict = .error (.password fault) ↔
      (policy.withLengths bounds.minLength? bounds.maxLength?).fault? s = some fault := by
  simp only [Check.password, Check.text, bind, Except.bind]
  cases (policy.withLengths bounds.minLength? bounds.maxLength?).fault? s <;> simp [pure, Except.pure]

def Property.RefusesLength (p : Property) (policy : PasswordPolicy) (s : String) : Prop :=
  p.check (.string s) =
    .error (.password (.length (p.lengthPolicy policy).minLength (p.lengthPolicy policy).maxLength))

section

variable (policy : PasswordPolicy) (d : Descriptor) (p : Property) (named : d.typeName = "password")
  (resolved : Property.resolve (.builtin policy) d = .ok p)

include named resolved

theorem password_type : p.type = ⟨Check.password policy, .unbounded, none⟩ := by
  have declared := resolve_declared (.builtin policy) d p resolved
  have known := declared.type
  rw [declared.typeName, named, builtin_password] at known
  exact (Option.some.inj known).symm

theorem refusesLength_iff (plain : p.validator = none) (s : String) :
    p.RefusesLength policy s ↔
      ¬((p.lengthPolicy policy).minLength ≤ s.length ∧
        s.length ≤ (p.lengthPolicy policy).maxLength) := by
  rw [← fault_length_iff, Property.RefusesLength, p.check_plain plain,
    password_type policy d p named resolved]
  exact password_refuses_iff policy s p.bounds p.strict _

theorem password_bounds : p.bounds = ⟨d.min, d.max⟩ := by
  have declared := resolve_declared (.builtin policy) d p resolved
  rw [declared.bounds, password_type policy d p named resolved]
  cases d.min <;> cases d.max <;> rfl

theorem lengths_ordered_iff (ordered : policy.minLength ≤ policy.maxLength) :
    (p.lengthPolicy policy).minLength ≤ (p.lengthPolicy policy).maxLength ↔
      d.MeetsPolicy policy := by
  have bounds := password_bounds policy d p named resolved
  have upright := (resolve_declared (.builtin policy) d p resolved).ordered
  rw [bounds] at upright
  rw [Property.lengthPolicy, bounds, PasswordPolicy.withLengths, Bounds.minLength?, Bounds.maxLength?]
  constructor
  · intro fits
    constructor
    · intro limit least alone
      simpa [least, alone] using fits
    · intro limit greatest alone
      simpa [greatest, alone] using fits
  · intro meets
    cases least : d.min with
    | none =>
        cases greatest : d.max with
        | none => exact ordered
        | some high => exact meets.high high greatest least
    | some low =>
        cases greatest : d.max with
        | none => exact meets.low low least greatest
        | some high => exact low.toLength_mono high (upright low high least greatest)

end

-- The sides of a field itself are never at odds; a side that it declares alone may be with the policy,
-- and then every text is refused for its length.
theorem password_lengths (policy : PasswordPolicy) (ordered : policy.minLength ≤ policy.maxLength)
    (d : Descriptor) (p : Property) (named : d.typeName = "password")
    (resolved : Property.resolve (.builtin policy) d = .ok p) :
    ((p.lengthPolicy policy).minLength ≤ (p.lengthPolicy policy).maxLength ↔
        d.MeetsPolicy policy) ∧
      (p.validator = none →
        (∀ s, p.RefusesLength policy s ↔
          ¬((p.lengthPolicy policy).minLength ≤ s.length ∧
            s.length ≤ (p.lengthPolicy policy).maxLength)) ∧
        ((∃ length, ∀ s : String, s.length = length → ¬p.RefusesLength policy s) ↔
          d.MeetsPolicy policy)) := by
  have orderedIff := lengths_ordered_iff policy d p named resolved ordered
  refine ⟨orderedIff, fun plain => ?_⟩
  have refuses := refusesLength_iff policy d p named resolved plain
  refine ⟨refuses, ?_⟩
  rw [← orderedIff]
  constructor
  · rintro ⟨length, passes⟩
    have text : (String.ofList (List.replicate length 'a')).length = length := by simp
    have fits := passes _ text
    rw [refuses, not_not, text] at fits
    exact le_trans fits.1 fits.2
  · intro fits
    refine ⟨(p.lengthPolicy policy).minLength, fun s same => ?_⟩
    rw [refuses, not_not, same]
    exact ⟨le_rfl, fits⟩

def doorField : Descriptor :=
  Declaration.plain { Declaration.of "door" "password" with min := some (.number (.ofInt 12)) }

theorem door_lengths :
    ∃ p, doorField.typeName = "password" ∧
      Property.resolve Settings.standard.types doorField = .ok p ∧ p.validator = none ∧
      Settings.standard.passwords.minLength ≤ Settings.standard.passwords.maxLength ∧
      (p.lengthPolicy Settings.standard.passwords).minLength ≤
        (p.lengthPolicy Settings.standard.passwords).maxLength ∧
      ∃ length, ∀ s : String, s.length = length → ¬p.RefusesLength Settings.standard.passwords s := by
  have ordered := passwords_ordered Settings.standard (by decide)
  obtain ⟨p, resolved, plain⟩ := ok_of_any (Property.resolve Settings.standard.types doorField)
    (fun p => p.validator.isNone) (by decide +kernel)
  have unhooked := Option.isNone_iff_eq_none.mp plain
  have meets : doorField.MeetsPolicy Settings.standard.passwords := by
    constructor
    · rintro limit ⟨⟩ _
      decide +kernel
    · rintro limit ⟨⟩
  obtain ⟨orderedIff, texts⟩ := password_lengths Settings.standard.passwords ordered doorField p rfl
    resolved
  exact ⟨p, rfl, resolved, unhooked, ordered, orderedIff.mpr meets, (texts unhooked).2.mpr meets⟩

def vaultField : Descriptor :=
  Declaration.plain { Declaration.of "vault" "password" with min := some (.number (.ofInt 30)) }

theorem vault_unsatisfiable :
    ∃ p, Settings.standard.fault? = none ∧
      Property.resolve Settings.standard.types vaultField = .ok p ∧
      (p.lengthPolicy Settings.standard.passwords).minLength = 30 ∧
      (p.lengthPolicy Settings.standard.passwords).maxLength = 20 ∧
      ∀ s, p.RefusesLength Settings.standard.passwords s := by
  obtain ⟨p, resolved, plain⟩ := ok_of_any (Property.resolve Settings.standard.types vaultField)
    (fun p => p.validator.isNone) (by decide +kernel)
  have bounds := password_bounds Settings.standard.passwords vaultField p rfl resolved
  have least : (p.lengthPolicy Settings.standard.passwords).minLength = 30 := by
    rw [Property.lengthPolicy, bounds]
    decide +kernel
  have greatest : (p.lengthPolicy Settings.standard.passwords).maxLength = 20 := by
    rw [Property.lengthPolicy, bounds]
    rfl
  refine ⟨p, by decide, resolved, least, greatest, fun s => ?_⟩
  rw [refusesLength_iff Settings.standard.passwords vaultField p rfl resolved
    (Option.isNone_iff_eq_none.mp plain), least, greatest]
  omega

end EntitySchema
