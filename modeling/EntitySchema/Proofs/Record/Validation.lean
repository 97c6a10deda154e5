import EntitySchema.Proofs.Entity.WellFormed
import EntitySchema.Proofs.Json.Equality
import EntitySchema.Proofs.Record.Cleaning

/-!
# What validation does

A batch is accepted if every property accepts the cleaned value that every record has for it. If
not, the first property that refuses the first refused record says why, and all that comes after it
is as it was sent.
-/

set_option autoImplicit false

namespace EntitySchema

namespace Property

structure Accepts (p : Property) (value : Option Json) : Prop where
  given : p.required = true → ∃ v, value = some v ∧ v ≠ .null
  checked : ∀ v, value = some v → v ≠ .null → p.validates = true → p.check v = .ok ()

inductive Rejects (p : Property) (value : Option Json) : ValidationError → Prop where
  | missing (needed : p.required = true) (lacking : ∀ v, value = some v → v = .null) :
      Rejects p value (.missing p.key p.typeName)
  | invalid (v : Json) (cause : Violation) (found : value = some v) (present : v ≠ .null)
      (checks : p.validates = true) (failed : p.check v = .error cause)
      (builtin : p.validator = none) : Rejects p value (.invalid p.key cause)
  | customFailed (v : Json) (cause : Violation) (found : value = some v) (present : v ≠ .null)
      (checks : p.validates = true) (failed : p.check v = .error cause)
      (custom : p.validator.isSome = true) : Rejects p value (.customFailed p.key cause)

theorem rejects_not_accepts (p : Property) (value : Option Json) (error : ValidationError)
    (rejected : p.Rejects value error) : ¬ p.Accepts value := by
  intro accepted
  cases rejected with
  | missing needed lacking =>
      obtain ⟨v, found, present⟩ := accepted.given needed
      exact present (lacking v found)
  | invalid v cause found present checks failed builtin =>
      cases failed.symm.trans (accepted.checked v found present checks)
  | customFailed v cause found present checks failed custom =>
      cases failed.symm.trans (accepted.checked v found present checks)

theorem present_none (record : Record) (key : String) (absent : record.present? key = none) :
    ∀ v, record.lookup key = some v → v = .null := by
  intro v found
  rw [Record.present?, found] at absent
  cases v <;> simp_all

theorem present_some (record : Record) (key : String) (value : Json)
    (present : record.present? key = some value) : record.lookup key = some value ∧ value ≠ .null := by
  unfold Record.present? at present
  split at present
  · cases present
  · cases present
  · rename_i v nonnull found
    cases present
    exact ⟨found, nonnull⟩

theorem failure_none (p : Property) (record : Record) (passed : p.failure? record = none) :
    p.Accepts (record.lookup p.key) := by
  unfold failure? at passed
  split at passed
  · rename_i absent
    have lacking := present_none record p.key absent
    constructor
    · intro needed
      simp [needed] at passed
    · intro v found present checks
      exact absurd (lacking v found) present
  · rename_i value present
    obtain ⟨found, nonnull⟩ := present_some record p.key value present
    refine ⟨fun _ => ⟨value, found, nonnull⟩, ?_⟩
    intro v found' _ checks
    cases found.symm.trans found'
    rw [if_pos checks] at passed
    split at passed
    · assumption
    · split at passed <;> cases passed

theorem failure_some (p : Property) (record : Record) (error : ValidationError)
    (refused : p.failure? record = some error) : p.Rejects (record.lookup p.key) error := by
  unfold failure? at refused
  split at refused
  · rename_i absent
    split at refused
    · rename_i needed
      cases refused
      exact .missing needed (present_none record p.key absent)
    · cases refused
  · rename_i value present
    obtain ⟨found, nonnull⟩ := present_some record p.key value present
    split at refused
    · rename_i checks
      split at refused
      · cases refused
      · rename_i cause failed
        split at refused
        · rename_i validator custom
          cases refused
          exact .customFailed value cause found nonnull checks failed (by simp [custom])
        · rename_i builtin
          cases refused
          exact .invalid value cause found nonnull checks failed builtin
    · cases refused

end Property

namespace Validation

variable (limits : SanitizeLimits)

inductive RecordOutcome (properties : List Property) (r : Record) :
    Record × Option ValidationError → Prop where
  | accepted (all : ∀ p ∈ properties, p.Accepts (p.cleanedValue limits r)) :
      RecordOutcome properties r (r.cleaned limits properties, none)
  | refused (earlier following : List Property) (p : Property) (error : ValidationError)
      (order : properties = earlier ++ p :: following)
      (passed : ∀ q ∈ earlier, q.Accepts (q.cleanedValue limits r))
      (rejected : p.Rejects (p.cleanedValue limits r) error) :
      RecordOutcome properties r (r.cleaned limits (earlier ++ [p]), some error)

inductive BatchOutcome (properties : List Property) (records : List Record) :
    List Record × Option ValidationError → Prop where
  | accepted (all : ∀ r ∈ records, ∀ p ∈ properties, p.Accepts (p.cleanedValue limits r)) :
      BatchOutcome properties records (records.map (Record.cleaned limits properties), none)
  | refused (before later : List Record) (r left : Record) (error : ValidationError)
      (order : records = before ++ r :: later)
      (passed : ∀ other ∈ before, ∀ p ∈ properties, p.Accepts (p.cleanedValue limits other))
      (stopped : RecordOutcome limits properties r (left, some error)) :
      BatchOutcome properties records
        (before.map (Record.cleaned limits properties) ++ left :: later, some error)

-- By induction on the properties: the first one cleans its own field, and because its key is not
-- met again, the others see the record as if nothing had happened.
theorem record_outcome (properties : List Property) (r : Record)
    (distinct : (properties.map (·.key)).Nodup) :
    RecordOutcome limits properties r (record limits properties r) := by
  induction properties generalizing r with
  | nil =>
      have accepted : RecordOutcome limits [] r (r.cleaned limits [], none) := .accepted (by simp)
      rw [Record.cleaned_nil] at accepted
      exact accepted
  | cons p rest ih =>
      simp only [List.map_cons, List.nodup_cons] at distinct
      obtain ⟨fresh, distinct⟩ := distinct
      have apart : ∀ q ∈ rest, q.cleanedValue limits (p.cleanIn limits r) = q.cleanedValue limits r := by
        intro q member
        apply cleanedValue_cleanIn
        intro same
        exact fresh (List.mem_map.mpr ⟨q, member, same⟩)
      cases verdict : p.failure? (p.cleanIn limits r) with
      | some error =>
          have rejected := p.failure_some _ error verdict
          rw [lookup_cleanIn] at rejected
          have refused : RecordOutcome limits (p :: rest) r (r.cleaned limits ([] ++ [p]), some error) :=
            .refused [] rest p error rfl (by simp) rejected
          rw [List.nil_append, ← Record.cleaned_cons limits p [] r (by simp), Record.cleaned_nil] at refused
          simpa only [record, verdict] using refused
      | none =>
          have first := p.failure_none _ verdict
          rw [lookup_cleanIn] at first
          have tail := ih (p.cleanIn limits r) distinct
          simp only [record, verdict]
          generalize record limits rest (p.cleanIn limits r) = outcome at tail
          cases tail with
          | accepted all =>
              rw [Record.cleaned_cons limits p rest r fresh]
              refine .accepted ?_
              intro q member
              rcases List.mem_cons.mp member with same | later
              · exact same ▸ first
              · exact apart q later ▸ all q later
          | refused earlier following q error order passed rejected =>
              have unseen : p.key ∉ (earlier ++ [q]).map (·.key) := by
                intro seen
                rw [order, List.append_cons, List.map_append] at fresh
                exact fresh (List.mem_append_left _ seen)
              have here : q ∈ rest := by simp [order]
              rw [Record.cleaned_cons limits p _ r unseen]
              refine .refused (p :: earlier) following q error (by simp [order]) ?_ (apart q here ▸ rejected)
              intro other member
              rcases List.mem_cons.mp member with same | later
              · exact same ▸ first
              · have inRest : other ∈ rest := by simp [order, later]
                exact apart other inRest ▸ passed other later

theorem batch_outcome (properties : List Property) (records : List Record)
    (distinct : (properties.map (·.key)).Nodup) :
    BatchOutcome limits properties records (batch limits properties records) := by
  induction records with
  | nil => exact .accepted (by simp)
  | cons r rest ih =>
      have first := record_outcome limits properties r distinct
      simp only [batch]
      generalize record limits properties r = outcome at first
      cases first with
      | refused earlier following p error order passed rejected =>
          exact .refused [] rest r _ error rfl (by simp) (.refused earlier following p error order passed rejected)
      | accepted all =>
          generalize batch limits properties rest = others at ih
          cases ih with
          | accepted allRest =>
              refine .accepted ?_
              intro other member
              rcases List.mem_cons.mp member with same | later
              · exact same ▸ all
              · exact allRest other later
          | refused before later stopping left error order passed stopped =>
              refine .refused (r :: before) later stopping left error (by simp [order]) ?_ stopped
              intro other member
              rcases List.mem_cons.mp member with same | inBefore
              · exact same ▸ all
              · exact passed other inBefore

theorem batch_accepted_iff (properties : List Property) (records : List Record)
    (result : List Record × Option ValidationError)
    (outcome : BatchOutcome limits properties records result) :
    result.2 = none ↔ ∀ r ∈ records, ∀ p ∈ properties, p.Accepts (p.cleanedValue limits r) := by
  cases outcome with
  | accepted all => simpa using all
  | refused before later r left error order passed stopped =>
      cases stopped with
      | refused earlier following p error declared accepted rejected =>
          simp only [reduceCtorEq, false_iff]
          intro all
          exact p.rejects_not_accepts _ error rejected (all r (by simp [order]) p (by simp [declared]))

theorem record_untouched (properties : List Property) (r : Record)
    (result : Record × Option ValidationError) (outcome : RecordOutcome limits properties r result)
    (key : String) (foreign : key ∉ properties.map (·.key)) : result.1.lookup key = r.lookup key := by
  cases outcome with
  | accepted all => exact Record.lookup_cleaned_other limits properties r key foreign
  | refused earlier following p error order passed rejected =>
      apply Record.lookup_cleaned_other
      intro seen
      rw [order, List.append_cons, List.map_append] at foreign
      exact foreign (List.mem_append_left _ seen)

theorem batch_untouched (properties : List Property) (records : List Record)
    (result : List Record × Option ValidationError)
    (outcome : BatchOutcome limits properties records result) (key : String)
    (foreign : key ∉ properties.map (·.key)) :
    result.1.map (List.lookup key) = records.map (List.lookup key) := by
  have kept : ∀ others : List Record, (others.map (Record.cleaned limits properties)).map (List.lookup key) =
      others.map (List.lookup key) := by
    intro others
    rw [List.map_map]
    apply List.map_congr_left
    intro r _
    exact Record.lookup_cleaned_other limits properties r key foreign
  cases outcome with
  | accepted all => exact kept records
  | refused before later r left error order passed stopped =>
      have here := record_untouched limits properties r _ stopped key foreign
      rw [order, List.map_append, List.map_append, kept, List.map_cons, List.map_cons, here]

end Validation

theorem batch_single (limits : SanitizeLimits) (properties : List Property) (r : Record) :
    Validation.batch limits properties [r] =
      ([(Validation.record limits properties r).1], (Validation.record limits properties r).2) := by
  rw [Validation.batch]
  cases outcome : Validation.record limits properties r with
  | mk left failure => cases failure <;> rfl

theorem propertiesFor_distinct (e : Entity) (built : e.Built) (op : Operation) :
    ((e.propertiesFor op).map (·.key)).Nodup :=
  (built_wellFormed e built).distinct.sublist (List.filter_sublist.map _)

theorem validate_outcome (e : Entity) (built : e.Built) (records : List Record) (intent : Intent) :
    Validation.BatchOutcome e.limits (e.propertiesForIntent intent) records (e.validate records intent) :=
  Validation.batch_outcome e.limits _ records (propertiesFor_distinct e built (intent.resolve e.verbs))

theorem validate_accepted_iff (e : Entity) (built : e.Built) (records : List Record) (intent : Intent) :
    (e.validate records intent).2 = none ↔
      ∀ r ∈ records, ∀ p ∈ e.propertiesForIntent intent, p.Accepts (p.cleanedValue e.limits r) :=
  Validation.batch_accepted_iff e.limits _ records _ (validate_outcome e built records intent)

theorem validate_accepted (e : Entity) (built : e.Built) (records : List Record) (intent : Intent)
    (accepted : (e.validate records intent).2 = none) :
    (e.validate records intent).1 = records.map (Record.cleaned e.limits (e.propertiesForIntent intent)) := by
  have outcome := validate_outcome e built records intent
  generalize e.validate records intent = answer at outcome accepted
  cases outcome with
  | accepted all => rfl
  | refused => cases accepted

-- Everything that validating a batch does: how a value is cleaned, what is answered, and what is left
-- of the records.
theorem validate_exact (e : Entity) (built : e.Built) (records : List Record) (intent : Intent) :
    let properties := e.properties.filter (·.appliesTo (intent.resolve e.verbs))
    let outcome := e.validate records intent
    (∀ p ∈ properties, p.clean e.limits .null = .null ∧
      ∀ v ≠ .null, p.clean e.limits v = p.normalize (p.sanitize e.limits v) ∧
        p.Sanitized e.limits v (p.sanitize e.limits v) ∧
        p.Normalized (p.sanitize e.limits v) (p.normalize (p.sanitize e.limits v))) ∧
    (outcome.2 = none ↔
      ∀ r ∈ records, ∀ p ∈ properties, p.Accepts (p.cleanedValue e.limits r)) ∧
    (outcome.2 = none → outcome.1 = records.map (Record.cleaned e.limits properties)) ∧
    (∀ error, outcome.2 = some error →
      ∃ before r later earlier p following,
        records = before ++ r :: later ∧ properties = earlier ++ p :: following ∧
        (∀ other ∈ before, ∀ q ∈ properties, q.Accepts (q.cleanedValue e.limits other)) ∧
        (∀ q ∈ earlier, q.Accepts (q.cleanedValue e.limits r)) ∧
        ¬ p.Accepts (p.cleanedValue e.limits r) ∧ p.Rejects (p.cleanedValue e.limits r) error ∧
        outcome.1 = before.map (Record.cleaned e.limits properties) ++
          r.cleaned e.limits (earlier ++ [p]) :: later) ∧
    (∀ key ∉ properties.map (·.key),
      outcome.1.map (List.lookup key) = records.map (List.lookup key)) := by
  intro properties result
  have outcome : Validation.BatchOutcome e.limits properties records result :=
    validate_outcome e built records intent
  refine ⟨?_, validate_accepted_iff e built records intent, validate_accepted e built records intent, ?_,
    Validation.batch_untouched e.limits properties records result outcome⟩
  · intro p _
    refine ⟨p.clean_null e.limits, ?_⟩
    intro v present
    exact ⟨p.clean_present e.limits v present, p.sanitize_sanitized e.limits v, p.normalize_normalized _⟩
  · generalize result = answer at outcome
    intro error failed
    cases outcome with
    | accepted all => cases failed
    | refused before later r left error order passed stopped =>
        cases failed
        cases stopped with
        | refused earlier following p error declared accepted rejected =>
            exact ⟨before, r, later, earlier, p, following, order, declared, passed, accepted,
              p.rejects_not_accepts _ error rejected, rejected, rfl⟩

def parcels : Entity :=
  (Entity.build "Parcel" "depot.parcels"
    [{ Declaration.of "label" "string" with
       normalize := true, normalizer := some "lowercase", hooks := .none },
     (Declaration.of "weight" "number").plain, (Declaration.of "stamp" "string").plain,
     { Declaration.of "note" "string" with operations := some ["update"], hooks := .none }]
    (.builtin .standard)).toOption.getD ⟨"", "", [], .standard, .standard⟩

theorem parcels_built : parcels.Built :=
  .build _ _ _ _ _ (ok_getD _ _ (by decide +kernel))

-- The second parcel is refused for its weight: its stamp is still to be trimmed, and so is the last
-- parcel as a whole.
def parcelsBatch : List Record :=
  [[("label", .string " BOX "), ("note", .string " a "), ("stamp", .string " s "), ("weight", .null)],
   [("label", .string " Crate"), ("stamp", .string " t "), ("weight", .string "heavy")],
   [("label", .string " BAG "), ("weight", .ofCount 7)]]

theorem parcelsBatch_stops :
    parcels.Built ∧
      (∀ p ∈ parcels.properties.filter (·.appliesTo .insert),
        p.clean parcels.limits .null = .null ∧
          p.clean parcels.limits (.string " BOX ") =
            p.normalize (p.sanitize parcels.limits (.string " BOX "))) ∧
      (parcels.properties.filter (·.appliesTo .insert)).map (fun p =>
          (p.key, p.sanitize parcels.limits (.string " BOX "), p.clean parcels.limits (.string " BOX "))) =
        [("label", .string "BOX", .string "box"), ("weight", .string "BOX", .string "BOX"),
         ("stamp", .string "BOX", .string "BOX")] ∧
      (∃ error before r later earlier p following,
        (parcels.validate parcelsBatch (.ofOperation .insert)).2 = some error ∧
        parcelsBatch = before ++ r :: later ∧
        parcels.properties.filter (·.appliesTo .insert) = earlier ++ p :: following ∧
        ¬ p.Accepts (p.cleanedValue parcels.limits r) ∧
        (parcels.validate parcelsBatch (.ofOperation .insert)).1 =
          before.map (Record.cleaned parcels.limits (parcels.properties.filter (·.appliesTo .insert))) ++
            r.cleaned parcels.limits (earlier ++ [p]) :: later) ∧
      (parcels.validate parcelsBatch (.ofOperation .insert)).1 =
        [[("label", .string "box"), ("note", .string " a "), ("stamp", .string "s"), ("weight", .null)],
         [("label", .string "crate"), ("stamp", .string " t "), ("weight", .string "heavy")],
         [("label", .string " BAG "), ("weight", .ofCount 7)]] ∧
      (parcels.validate parcelsBatch (.ofOperation .insert)).1.map (List.lookup "note") =
        parcelsBatch.map (List.lookup "note") := by
  obtain ⟨cleaning, _, _, refused, untouched⟩ :=
    validate_exact parcels parcels_built parcelsBatch (.ofOperation .insert)
  have stops : (parcels.validate parcelsBatch (.ofOperation .insert)).2.isSome = true := by decide +kernel
  obtain ⟨error, failed⟩ := Option.isSome_iff_exists.mp stops
  obtain ⟨before, r, later, earlier, p, following, order, declared, _, _, rejected, _, left⟩ :=
    refused error failed
  refine ⟨parcels_built, ?_, by decide +kernel, ?_, by decide +kernel, untouched "note" (by decide +kernel)⟩
  · intro q member
    obtain ⟨null, present⟩ := cleaning q member
    exact ⟨null, (present (.string " BOX ") (by decide)).1⟩
  · exact ⟨error, before, r, later, earlier, p, following, failed, order, declared, rejected, left⟩

end EntitySchema
