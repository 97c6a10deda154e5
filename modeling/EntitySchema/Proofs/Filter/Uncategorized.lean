import EntitySchema.Proofs.Filter.Dropping
import EntitySchema.Proofs.Json.Equality

set_option autoImplicit false

namespace EntitySchema

open Interpretation

namespace Filter

def ground (filter : Filter) (p : Property) : FilterAnomaly :=
  match requestedMode filter with
  | .ok _ => .notFilterable p.typeName
  | .error anomaly => anomaly

def seven : Filter := ⟨.ofCount 7, none, some ["name"], none⟩

end Filter

namespace Interpretation

theorem onProperty_uncategorized (modes : MatchModes) (p : Property) (filter : Filter)
    (uncategorized : p.type.category = none) (plain : isAggregate p.key = false) :
    onProperty modes p filter = .error (filter.ground p) := by
  rw [onProperty_plain modes p filter plain, uncategorized, Filter.ground]
  cases requestedMode filter <;> rfl

theorem onProperty_aggregate (modes : MatchModes) (p : Property) (type : FieldType) (filter : Filter)
    (aggregate : isAggregate p.key = true) :
    onProperty modes { p with type := type } filter = onProperty modes p filter := by
  unfold onProperty
  cases ending : hasEnding jsonAggSuffix p.key with
  | true => rfl
  | false =>
      have arrayEnding := arrayAgg_of_aggregate p.key aggregate ending
      simp only [arrayEnding, if_true]

theorem seven_accepted (modes : MatchModes) (p : Property) (aggregate : isAggregate p.key = true) :
    ∃ result, onProperty modes p Filter.seven = .ok result := by
  unfold onProperty
  cases ending : hasEnding jsonAggSuffix p.key with
  | true => exact ⟨_, rfl⟩
  | false =>
      have arrayEnding := arrayAgg_of_aggregate p.key aggregate ending
      rw [arrayEnding]
      exact ⟨_, rfl⟩

end Interpretation

-- Only keys of aggregates let a filter through to a property whose type has no category, and to
-- those the type makes no difference at all.
theorem uncategorized_refused_iff (e : Entity) (modes : MatchModes) (field : String) (p : Property)
    (found : e.property? field = some p) (readable : p.appliesTo .select = true)
    (uncategorized : p.type.category = none) :
    ((∀ filter args, ∃ anomaly, Filter.compileOnto e modes field filter args = (.error anomaly, args)) ↔
      isAggregate field = false) ∧
    (isAggregate field = false → ∀ filter args,
      Filter.compileOnto e modes field filter args = (.error (filter.ground p), args)) ∧
    (isAggregate field = true → ∀ filter type,
      Interpretation.condition e modes field filter =
        onProperty modes { p with type := type } filter) := by
  have key : p.key = field := (property_found e field p found).2
  have means := fun filter => condition_readable e modes field p filter found readable
  have refuses : isAggregate field = false → ∀ filter args,
      Filter.compileOnto e modes field filter args = (.error (filter.ground p), args) := by
    intro plain filter args
    rw [compileOnto_eq, Filter.compile, means,
      onProperty_uncategorized modes p filter uncategorized (key ▸ plain)]
    rfl
  refine ⟨⟨fun refused => ?_, fun plain filter args => ⟨_, refuses plain filter args⟩⟩, refuses, ?_⟩
  · by_contra aggregate
    obtain ⟨result, accepted⟩ := seven_accepted modes p (by simpa [key] using aggregate)
    obtain ⟨anomaly, refusal⟩ := refused Filter.seven []
    rw [compileOnto_eq, Filter.compile, means, accepted] at refusal
    cases refusal
  · intro aggregate filter type
    rw [means, onProperty_aggregate modes p type filter (key ▸ aggregate)]

def keepers : Entity :=
  (Entity.build "Keeper" "keepers"
    [Declaration.plain (.of "secret" "password"), Declaration.plain (.of "secretJsonAgg" "password")]
    (.builtin .standard)).toOption.getD ⟨"", "", [], .standard, .standard⟩

def Property.IsSecret (p : Property) : Prop :=
  p.appliesTo .select = true ∧ p.typeName = "password" ∧ p.type.category = none

theorem keeper_secret (key : String)
    (declared : (keepers.property? key).any (fun p =>
      p.appliesTo .select && p.typeName == "password" && p.type.category.isNone) = true) :
    ∃ p, keepers.property? key = some p ∧ p.IsSecret := by
  obtain ⟨p, found, secret⟩ := (Option.any_eq_true _ _).mp declared
  simp only [Bool.and_eq_true, beq_iff_eq, Option.isNone_iff_eq_none] at secret
  exact ⟨p, found, secret.1.1, secret.1.2, secret.2⟩

def pinFilter : Filter := ⟨.string "x", none, some ["a"], none⟩

theorem secret_refused :
    ∃ p, keepers.property? "secret" = some p ∧ p.IsSecret ∧ isAggregate "secret" = false ∧
      pinFilter.compileOnto keepers .standard "secret" [.null] =
        (.error (.notFilterable "password"), [.null]) := by
  obtain ⟨p, found, secret⟩ := keeper_secret "secret" (by decide +kernel)
  obtain ⟨readable, typed, uncategorized⟩ := secret
  have refused := (uncategorized_refused_iff keepers .standard "secret" p found readable
    uncategorized).2.1 (by decide) pinFilter [.null]
  refine ⟨p, found, ⟨readable, typed, uncategorized⟩, by decide, ?_⟩
  rw [refused, Filter.ground, typed]
  rfl

theorem secretJsonAgg_accepted :
    ∃ p fragment, keepers.property? "secretJsonAgg" = some p ∧ p.IsSecret ∧
      pinFilter.compileOnto keepers .standard "secretJsonAgg" [] =
        (.ok fragment, [.string "a", .string "x"]) ∧
      fragment.render = "EXISTS (SELECT 1 FROM json_array_elements(\"secretJsonAgg\"::json) AS p " ++
        "WHERE (LOWER(p->>$1) = $2))" := by
  obtain ⟨p, found, secret⟩ := keeper_secret "secretJsonAgg" (by decide +kernel)
  have emission := ok_getD (pinFilter.compile keepers .standard "secretJsonAgg" 0) ⟨[], []⟩
    (by decide +kernel)
  have compiled := compileOnto_eq keepers .standard "secretJsonAgg" pinFilter []
  have bound : ((pinFilter.compile keepers .standard "secretJsonAgg" 0).toOption.getD ⟨[], []⟩).values =
      [.string "a", .string "x"] := by
    decide +kernel
  rw [List.length_nil, emission] at compiled
  simp only [bound, List.nil_append] at compiled
  exact ⟨p, _, found, secret, compiled, by decide +kernel⟩

end EntitySchema
