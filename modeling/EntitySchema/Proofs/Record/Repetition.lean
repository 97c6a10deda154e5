import EntitySchema.Proofs.Json.Equality
import EntitySchema.Proofs.Record.Normalizer
import EntitySchema.Proofs.Record.Validation

set_option autoImplicit false

namespace EntitySchema

namespace Property

variable (limits : SanitizeLimits)

def unhooked (p : Property) : Bool :=
  p.sanitizer.isNone &&
    match p.normalization with
    | .custom _ => false
    | _ => true

def Settles (p : Property) (value : Json) : Prop :=
  p.normalizes = true → ∀ n, p.normalization = .named n → n.Settles (p.sanitize limits value)

theorem sanitize_unhooked (p : Property) (unhooked : p.unhooked = true) (value : Json) :
    p.sanitize limits value = if p.sanitizes then deepTrim limits value else value := by
  have none : p.sanitizer = none := by
    rw [Property.unhooked, Bool.and_eq_true, Option.isNone_iff_eq_none] at unhooked
    exact unhooked.1
  rw [sanitize, none]

theorem normalize_unhooked (p : Property) (unhooked : p.unhooked = true) :
    (p.normalizes = false ∧ ∀ value, p.normalize value = value) ∨
      ∃ n, p.normalizes = true ∧ p.normalization = .named n ∧ ∀ value, p.normalize value = n.apply value := by
  by_cases asked : p.normalizes = true
  · refine .inr ?_
    cases known : p.normalization with
    | absent => simp [normalizes, known, Normalization.isPresent] at asked
    | custom f => simp [Property.unhooked, known] at unhooked
    | named n =>
        refine ⟨n, asked, rfl, ?_⟩
        intro value
        rw [normalize, if_pos asked, known]
        rfl
  · refine .inl ⟨by simpa using asked, ?_⟩
    intro value
    rw [normalize, if_neg asked]

theorem clean_unhooked (p : Property) (unhooked : p.unhooked = true) (value : Json) :
    p.clean limits value = p.normalize (p.sanitize limits value) := by
  cases value with
  | null =>
      have kept : p.sanitize limits .null = .null := by
        have trimmed : deepTrim limits .null = .null := rfl
        rw [sanitize_unhooked limits p unhooked, trimmed, ite_self]
      rw [kept]
      rcases p.normalize_unhooked unhooked with ⟨_, same⟩ | ⟨n, _, _, named⟩
      · rw [same]
        rfl
      · rw [named]
        cases n <;> rfl
  | _ => rfl

-- The second trimming finds nothing, so that it is the normalizer that counts.
theorem clean_again (p : Property) (unhooked : p.unhooked = true) (value : Json) :
    p.clean limits (p.clean limits value) = p.clean limits value ↔ p.Settles limits value := by
  rw [clean_unhooked limits p unhooked, clean_unhooked limits p unhooked]
  rcases p.normalize_unhooked unhooked with ⟨off, same⟩ | ⟨n, on, known, named⟩
  · simp only [same, sanitize_unhooked limits p unhooked, Settles, off]
    by_cases trims : p.sanitizes = true
    · simp [trims, deepTrim_again]
    · simp [trims]
  · have trimmed : p.sanitize limits (n.apply (p.sanitize limits value)) =
        n.apply (p.sanitize limits value) := by
      rw [sanitize_unhooked limits p unhooked, sanitize_unhooked limits p unhooked]
      by_cases trims : p.sanitizes = true
      · rw [if_pos trims, if_pos trims, deepTrim_apply]
      · rw [if_neg trims, if_neg trims]
    rw [named, named, trimmed, n.apply_again, Settles]
    constructor
    · intro settles _ other same
      rw [known] at same
      exact Normalization.named.inj same ▸ settles
    · intro settles
      exact settles on n known

end Property

namespace Record

variable (limits : SanitizeLimits)

def Settles (properties : List Property) (r : Record) : Prop :=
  ∀ p ∈ properties, ∀ value, (p.key, value) ∈ r → p.Settles limits value

theorem cleaned_again (properties : List Property) (r : Record)
    (distinct : (properties.map (·.key)).Nodup) (unhooked : ∀ p ∈ properties, p.unhooked = true) :
    (r.cleaned limits properties).cleaned limits properties = r.cleaned limits properties ↔
      r.Settles limits properties := by
  rw [cleaned, cleaned, List.map_map, List.map_inj_left]
  constructor
  · intro same p member value present
    have field := congrArg Prod.snd (same (p.key, value) present)
    simp only [Function.comp, cleanField_member limits properties p _ distinct member] at field
    exact (p.clean_again limits (unhooked p member) value).mp field
  · rintro settles ⟨key, value⟩ present
    by_cases known : key ∈ properties.map (·.key)
    · obtain ⟨p, member, rfl⟩ := List.mem_map.mp known
      simp only [Function.comp, cleanField_member limits properties p _ distinct member]
      rw [(p.clean_again limits (unhooked p member) value).mpr (settles p member value present)]
    · simp only [Function.comp, cleanField_other limits properties key _ known]

theorem foldl_cleanIn (properties : List Property) (r : Record)
    (distinct : (properties.map (·.key)).Nodup) :
    properties.foldl (fun r p => p.cleanIn limits r) r = r.cleaned limits properties := by
  induction properties generalizing r with
  | nil => exact (cleaned_nil limits r).symm
  | cons p rest ih =>
      obtain ⟨fresh, distinct⟩ := List.nodup_cons.mp distinct
      rw [List.foldl_cons, ih (p.cleanIn limits r) distinct, cleaned_cons limits p rest r fresh]

end Record

namespace Entity

theorem normalize_cleaned (e : Entity) (built : e.Built) (records : List Record) :
    e.normalize records = records.map (Record.cleaned e.limits e.properties) := by
  apply List.map_congr_left
  intro r _
  exact Record.foldl_cleanIn e.limits e.properties r (built_wellFormed e built).distinct

theorem map_cleaned_again (limits : SanitizeLimits) (properties : List Property) (records : List Record)
    (distinct : (properties.map (·.key)).Nodup) (unhooked : ∀ p ∈ properties, p.unhooked = true) :
    (records.map (Record.cleaned limits properties)).map (Record.cleaned limits properties) =
        records.map (Record.cleaned limits properties) ↔
      ∀ r ∈ records, r.Settles limits properties := by
  rw [List.map_map, List.map_inj_left]
  exact forall₂_congr fun r _ => Record.cleaned_again limits properties r distinct unhooked

theorem accepted_again (e : Entity) (built : e.Built) (intent : Intent) (records : List Record)
    (accepted : (e.validate records intent).2 = none)
    (same : ∀ r ∈ records,
      (r.cleaned e.limits (e.propertiesForIntent intent)).cleaned e.limits (e.propertiesForIntent intent) =
        r.cleaned e.limits (e.propertiesForIntent intent)) :
    (e.validate (e.validate records intent).1 intent).2 = none := by
  have distinct := propertiesFor_distinct e built (intent.resolve e.verbs)
  apply (validate_accepted_iff e built _ intent).mpr
  intro r member p present
  rw [validate_accepted e built records intent accepted] at member
  obtain ⟨source, given, rfl⟩ := List.mem_map.mp member
  have seen := Record.lookup_cleaned_member e.limits _ p source distinct present
  have again := Record.lookup_cleaned_member e.limits _ p
    (source.cleaned e.limits (e.propertiesFor (intent.resolve e.verbs))) distinct present
  have kept := same source given
  rw [propertiesForIntent] at kept
  rw [kept, seen] at again
  exact again ▸ (validate_accepted_iff e built records intent).mp accepted source given p present

theorem mem_propertiesForIntent (e : Entity) (intent : Intent) (p : Property)
    (member : p ∈ e.propertiesForIntent intent) : p ∈ e.properties :=
  List.mem_of_mem_filter member

theorem validation_repeats (e : Entity) (built : e.Built)
    (unhooked : ∀ p ∈ e.properties, p.unhooked = true) (intent : Intent) (records : List Record) :
    ((e.validate records intent).2 = none →
      (e.validate (e.validate records intent).1 intent = ((e.validate records intent).1, none) ↔
        ∀ r ∈ records, r.Settles e.limits (e.propertiesForIntent intent))) ∧
      (e.normalize (e.normalize records) = e.normalize records ↔
        ∀ r ∈ records, r.Settles e.limits e.properties) := by
  constructor
  · intro accepted
    have distinct := propertiesFor_distinct e built (intent.resolve e.verbs)
    have taking : ∀ p ∈ e.propertiesForIntent intent, p.unhooked = true := fun p member =>
      unhooked p (e.mem_propertiesForIntent intent p member)
    have once := validate_accepted e built records intent accepted
    have settled := map_cleaned_again e.limits (e.propertiesForIntent intent) records distinct taking
    rw [← settled]
    constructor
    · intro again
      have twice := validate_accepted e built _ intent (congrArg Prod.snd again)
      rw [congrArg Prod.fst again, once] at twice
      exact twice.symm
    · intro same
      have passed := accepted_again e built intent records accepted
        (List.map_inj_left.mp (List.map_map.symm.trans same))
      have twice := validate_accepted e built _ intent passed
      refine Prod.ext ?_ passed
      rw [twice, once]
      exact same
  · rw [normalize_cleaned e built, normalize_cleaned e built]
    exact map_cleaned_again e.limits e.properties records (built_wellFormed e built).distinct unhooked

end Entity

def persons : Entity :=
  (Entity.build "Person" "people"
    [{ Declaration.of "handle" "string" with
       normalize := true, normalizer := some "slugify", hooks := .none },
     { Declaration.of "name" "string" with
       required := true, normalize := true, normalizer := some "capitalize", hooks := .none }]
    (.builtin .standard)).toOption.getD ⟨"", "", [], .standard, .standard⟩

theorem persons_built : persons.Built :=
  .build _ _ _ _ _ (ok_getD _ _ (by decide +kernel))

theorem persons_unhooked : ∀ p ∈ persons.properties, p.unhooked = true :=
  List.all_eq_true.mp (by decide +kernel)

def signedUp : List Record :=
  [[("handle", .string " Señor X. "), ("name", .string "éVA-Łucja")], [("name", .string "ǅ. Ünal ")]]

theorem signedUp_repeated :
    persons.Built ∧ (∀ p ∈ persons.properties, p.unhooked = true) ∧
      (persons.validate signedUp (.ofOperation .insert)).2 = none ∧
      persons.normalize signedUp =
        [[("handle", .string "se-or-x"), ("name", .string "Éva-łucja")], [("name", .string "Ǆ. ünal")]] ∧
      persons.normalize (persons.normalize signedUp) = persons.normalize signedUp ∧
      persons.validate (persons.validate signedUp (.ofOperation .insert)).1 (.ofOperation .insert) =
        ((persons.validate signedUp (.ofOperation .insert)).1, none) := by
  obtain ⟨passed, normal, settled⟩ :
      (persons.validate signedUp (.ofOperation .insert)).2.isNone = true ∧
        persons.normalize signedUp =
          [[("handle", .string "se-or-x"), ("name", .string "Éva-łucja")], [("name", .string "Ǆ. ünal")]] ∧
        persons.normalize
            [[("handle", .string "se-or-x"), ("name", .string "Éva-łucja")], [("name", .string "Ǆ. ünal")]] =
          [[("handle", .string "se-or-x"), ("name", .string "Éva-łucja")], [("name", .string "Ǆ. ünal")]] := by
    decide +kernel
  have accepted := Option.isNone_iff_eq_none.mp passed
  have same : persons.normalize (persons.normalize signedUp) = persons.normalize signedUp := by
    rw [normal, settled]
  have repeats := Entity.validation_repeats persons persons_built persons_unhooked
    (.ofOperation .insert) signedUp
  refine ⟨persons_built, persons_unhooked, accepted, normal, same, (repeats.1 accepted).mpr ?_⟩
  intro r member p taking
  exact repeats.2.mp same r member p (persons.mem_propertiesForIntent _ p taking)

-- A letter whose upper case is two letters: the second is lowered when it is no longer the first.
theorem doubled_capital_unsettled :
    persons.Built ∧ (∀ p ∈ persons.properties, p.unhooked = true) ∧
      (persons.validate [[("name", .string "ß")]] (.ofOperation .insert)).2.isNone = true ∧
      (persons.validate [[("name", .string "ß")]] (.ofOperation .insert)).1 = [[("name", .string "SS")]] ∧
      (persons.validate [[("name", .string "SS")]] (.ofOperation .insert)).1 = [[("name", .string "Ss")]] ∧
      persons.normalize [[("name", .string "ß")]] = [[("name", .string "SS")]] ∧
      persons.normalize [[("name", .string "SS")]] = [[("name", .string "Ss")]] := by
  refine ⟨persons_built, persons_unhooked, ?_⟩
  decide +kernel

end EntitySchema
