import EntitySchema.Proofs.Entity.Naming
import EntitySchema.Proofs.Record.Validation

set_option autoImplicit false

namespace EntitySchema

theorem items_batch (limits : SanitizeLimits) (properties : List Property) (records : List Record) :
    Validation.items limits properties (records.map .object) =
      ((Validation.batch limits properties records).1.map .object,
        (Validation.batch limits properties records).2) := by
  induction records with
  | nil => rfl
  | cons r rest ih =>
      simp only [List.map_cons, Validation.items, Validation.batch]
      cases Validation.record limits properties r with
      | mk left failure =>
          cases failure with
          | some error => rfl
          | none => simp only [ih, List.map_cons]

theorem records_of_objects (items : List Json) (objects : items.all Json.isObject = true) :
    ∃ records : List Record, items = records.map .object := by
  induction items with
  | nil => exact ⟨[], rfl⟩
  | cons item rest ih =>
      simp only [List.all_cons, Bool.and_eq_true] at objects
      obtain ⟨records, same⟩ := ih objects.2
      cases item with
      | object members => exact ⟨members :: records, by rw [same, List.map_cons]⟩
      | _ => cases objects.1

theorem objects_of_records (records : List Record) :
    (records.map Json.object).all Json.isObject = true := by
  simp [Json.isObject]

namespace Entity

variable (e : Entity) (spelled : String) (verb : Verb) (known : Verb.parse? spelled = some verb)

include known

theorem validateBody_object (record : Record) :
    e.validateBody (some (.object record)) (some spelled) =
      (some (.object (e.validateOne record (.ofVerb verb)).1),
        (e.validateOne record (.ofVerb verb)).2) := by
  simp only [validateBody, Option.bind_some, known]
  rfl

theorem validateBody_records (records : List Record) (given : records ≠ []) :
    e.validateBody (some (.array (records.map .object))) (some spelled) =
      (some (.array ((e.validate records (.ofVerb verb)).1.map .object)),
        (e.validate records (.ofVerb verb)).2) := by
  cases records with
  | nil => exact absurd rfl given
  | cons r rest =>
      have objects := objects_of_records (r :: rest)
      have batch := items_batch e.limits (e.propertiesForIntent (.ofVerb verb)) (r :: rest)
      rw [List.map_cons] at objects batch ⊢
      simp only [validateBody, Option.bind_some, known, objects, if_true, batch]
      rfl

theorem validateBody_other (body : Option Json) (single : ∀ record, body ≠ some (.object record))
    (several : ∀ records : List Record, records ≠ [] →
      body ≠ some (.array (records.map .object))) :
    e.validateBody body (some spelled) = (body, some .noData) := by
  simp only [validateBody, Option.bind_some, known]
  split
  · rename_i record
    exact absurd rfl (single record)
  · rename_i first rest
    split
    · rename_i objects
      obtain ⟨records, same⟩ := records_of_objects (first :: rest) objects
      have given : records ≠ [] := by
        intro none
        simp [none] at same
      exact absurd (by rw [same]) (several records given)
    · rfl
  · rfl

end Entity

-- The verb is looked at first, then the shape of the body. What is left is validated as the batch of
-- its records, to the same answer and with the same edits, also where it is refused half way.
theorem body_agrees_with_batch (e : Entity) (body : Option Json) (verb : Option String) :
    ((∀ spelled, verb = some spelled → ∀ known : Verb, sameLetters known.name spelled = false) →
      e.validateBody body verb =
        (body, some (.invalidVerb (verb.getD "") (Verb.all.map Verb.name)))) ∧
    ∀ (spelled : String) (known : Verb), verb = some spelled →
      sameLetters known.name spelled = true →
      (∀ record, body = some (.object record) →
        ∃ left failure, e.validate [record] (.ofVerb known) = ([left], failure) ∧
          e.validateBody body verb = (some (.object left), failure)) ∧
      (∀ records : List Record, records ≠ [] → body = some (.array (records.map .object)) →
        ∃ left failure, e.validate records (.ofVerb known) = (left, failure) ∧
          e.validateBody body verb = (some (.array (left.map .object)), failure)) ∧
      ((∀ record, body ≠ some (.object record)) →
        (∀ records : List Record, records ≠ [] → body ≠ some (.array (records.map .object))) →
        e.validateBody body verb = (body, some .noData)) := by
  constructor
  · intro unknown
    have unparsed : verb.bind Verb.parse? = none := by
      cases verb with
      | none => rfl
      | some spelled =>
          cases parsed : Verb.parse? spelled with
          | none => exact parsed
          | some known =>
              have same := (verb_parse_iff spelled known).mp parsed
              exact absurd same (by simp [unknown spelled rfl known])
    simp only [Entity.validateBody, unparsed]
  · intro spelled known given same
    subst given
    have parsed := (verb_parse_iff spelled known).mpr same
    refine ⟨?_, ?_, e.validateBody_other spelled known parsed body⟩
    · intro record shape
      subst shape
      exact ⟨_, _, batch_single e.limits (e.propertiesForIntent (.ofVerb known)) record,
        e.validateBody_object spelled known parsed record⟩
    · intro records given shape
      subst shape
      exact ⟨_, _, rfl, e.validateBody_records spelled known parsed records given⟩

def ordersBatch : List Record :=
  [[("cost $1", .ofCount 5), ("meta", .object [("note", .string " a ")])],
   [("cost $1", .string "many"), ("id", .ofCount 2), ("meta", .object [("note", .string " b ")])],
   [("id", .string "three"), ("note", .string " c ")]]

def mixedBody : Json := .array [.object [("meta", .string " a ")], .null]

theorem ordersBody_agrees :
    (∀ known : Verb, sameLetters known.name "POTS" = false) ∧
    orders.validateBody (some mixedBody) (some "POTS") =
      (some mixedBody, some (.invalidVerb "POTS" (Verb.all.map Verb.name))) ∧
    sameLetters Verb.post.name "pOsT" = true ∧ ordersBatch ≠ [] ∧
    (∃ left failure, orders.validate ordersBatch (.ofVerb .post) = (left, failure) ∧
      orders.validateBody (some (.array (ordersBatch.map .object))) (some "pOsT") =
        (some (.array (left.map .object)), failure) ∧ failure.isSome = true) ∧
    (∀ records : List Record, records ≠ [] → mixedBody ≠ .array (records.map .object)) ∧
    orders.validateBody (some mixedBody) (some "pOsT") = (some mixedBody, some .noData) := by
  have unknown : ∀ known : Verb, sameLetters known.name "POTS" = false := by
    intro known
    cases known <;> decide
  have same : sameLetters Verb.post.name "pOsT" = true := by decide
  have given : ordersBatch ≠ [] := by simp [ordersBatch]
  have stops : (orders.validate ordersBatch (.ofVerb .post)).2.isSome = true := by decide +kernel
  have mixed : ∀ records : List Record, records ≠ [] →
      mixedBody ≠ .array (records.map .object) := by
    intro records _ equal
    have objects := objects_of_records records
    injection equal with items
    rw [← items] at objects
    exact absurd objects (by decide)
  have refused := (body_agrees_with_batch orders (some mixedBody) (some "POTS")).1
    fun spelled given known => by
      cases given
      exact unknown known
  have listed := (body_agrees_with_batch orders (some (.array (ordersBatch.map .object)))
    (some "pOsT")).2 "pOsT" .post rfl same
  have unlisted := (body_agrees_with_batch orders (some mixedBody) (some "pOsT")).2 "pOsT" .post rfl same
  obtain ⟨left, failure, batch, body⟩ := listed.2.1 ordersBatch given rfl
  refine ⟨unknown, refused, same, given, ⟨left, failure, batch, body, ?_⟩, mixed, ?_⟩
  · rw [batch] at stops
    exact stops
  · exact unlisted.2.2 (fun record shape => by simp [mixedBody] at shape) fun records given shape =>
      mixed records given (Option.some.inj shape)

end EntitySchema
