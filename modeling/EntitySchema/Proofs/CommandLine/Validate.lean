import EntitySchema.CommandLine.Run
import EntitySchema.Proofs.Entity.Naming
import EntitySchema.Proofs.Entity.WellFormed

set_option autoImplicit false

namespace EntitySchema

namespace CommandLine

def validationReport (e : Entity) (records : List Record) (intent : Intent) : Report :=
  match e.validate records intent with
  | (_, some cause) => .failed (.validation cause) (e.validateEvents records intent)
  | (cleaned, none) => ⟨.ok (recordsData cleaned), e.validateEvents records intent⟩

theorem run_validate (around : Surroundings) (settings : Settings) (e : Entity)
    (definition path spelled : String) (intent : Intent) (records : List Record)
    (named : Intent.parse? spelled = some intent) (given : around.records path = .ok records) :
    (Command.validate definition path spelled).run around settings e =
      validationReport e records intent := by
  simp only [Command.run, named, given, Report.andThen]
  rfl

end CommandLine

theorem validate_resolved (e : Entity) (records : List Record) (intent : Intent) :
    e.validate records intent = e.validate records (.ofOperation (intent.resolve e.verbs)) := rfl

theorem validate_withVerbs (e : Entity) (verbs : VerbMapping) (records : List Record)
    (op : Operation) :
    (e.withVerbs verbs).validate records (.ofOperation op) = e.validate records (.ofOperation op) := rfl

theorem validationReport_resolved (e : Entity) (records : List Record) (intent : Intent) :
    CommandLine.validationReport e records intent =
      CommandLine.validationReport e records (.ofOperation (intent.resolve e.verbs)) := rfl

def buildCards : Except SchemaError Entity :=
  Entity.build "Card" "cards"
    [(Declaration.of "id" "integer").plain,
     { Declaration.of "reason" "string" with
       required := true, operations := some ["delete"], hooks := .none }]
    (.builtin .standard)

def cards : Entity := buildCards.toOption.getD ⟨"", "", [], .standard, .standard⟩

def softDeletion : VerbMapping := { VerbMapping.standard with delete := .update }

def cardToDelete : List Record := [[("id", .ofCount 7)]]

theorem cards_judged :
    buildCards.isOk = true ∧
      (cards.validate cardToDelete (.ofOperation .delete)).2.map (·.key?) = some (some "reason") ∧
      ∀ op ∈ Operation.all, op ≠ .delete →
        (cards.validate cardToDelete (.ofOperation op)).2.isNone = true := by
  decide +kernel

theorem cards_built : cards.Built := .build _ _ _ _ _ (ok_getD buildCards _ cards_judged.1)

theorem card_accepted (op : Operation) (other : op ≠ .delete) :
    (cards.validate cardToDelete (.ofOperation op)).2.isNone = true :=
  cards_judged.2.2 op (operation_listed op) other

-- The name of an operation comes to the operation itself, in records and in the command alike, but
-- `delete` comes to what the mapping makes of the verb. So names mean their operations throughout, to
-- every entity under the mapping, exactly if the mapping leaves deletion what it is.
theorem operation_name_resolved (mapping : VerbMapping) (spelled : String) (op : Operation)
    (named : Operation.parse? spelled = some op) :
    ∃ intent, Intent.parse? spelled = some intent ∧
      (∀ (e : Entity) (records : List Record), e.verbs = mapping →
        e.validate records intent =
          e.validate records (.ofOperation (if op = .delete then mapping.delete else op))) ∧
      (∀ (e : Entity) (around : CommandLine.Surroundings) (settings : Settings)
        (definition path : String) (records : List Record), e.verbs = mapping →
        around.records path = .ok records →
        (CommandLine.Command.validate definition path spelled).run around settings e =
          CommandLine.validationReport e records
            (.ofOperation (if op = .delete then mapping.delete else op))) ∧
      ((∀ (e : Entity) (records : List Record), e.Built → e.verbs = mapping →
        e.validate records intent = e.validate records (.ofOperation op)) ↔
        (op = .delete → mapping.delete = .delete)) := by
  have parsed := intent_of_operation spelled op named
  have meant : (if op = .delete then Intent.ofVerb .delete else .ofOperation op).resolve mapping =
      if op = .delete then mapping.delete else op := by
    split <;> rfl
  refine ⟨_, parsed, ?_, ?_, ?_, ?_⟩
  · intro e records under
    rw [validate_resolved, under, meant]
  · intro e around settings definition path records under given
    rw [CommandLine.run_validate around settings e definition path spelled _ records parsed given,
      validationReport_resolved, under, meant]
  · intro alike both
    subst both
    by_cases kept : mapping.delete = .delete
    · exact kept
    · have under : (cards.withVerbs mapping).verbs = mapping := rfl
      have same := alike (cards.withVerbs mapping) cardToDelete
        (.withVerbs cards mapping cards_built) under
      rw [validate_resolved, under, meant, if_pos rfl, validate_withVerbs, validate_withVerbs] at same
      have accepted := card_accepted mapping.delete kept
      have refused := cards_judged.2.1
      rw [same] at accepted
      cases outcome : (cards.validate cardToDelete (.ofOperation .delete)).2 with
      | none => simp [outcome] at refused
      | some error => simp [outcome] at accepted
  · intro kept e records _ under
    rw [validate_resolved, under, meant]
    by_cases both : op = .delete
    · rw [if_pos both, kept both, both]
    · rw [if_neg both]

def softCards : Entity := cards.withVerbs softDeletion

def cardFile : CommandLine.Surroundings where
  file _ := .ok "[\x7b\"id\": 7\x7d]"
  variableValue _ := none

theorem cardDeletion_resolved :
    Operation.parse? "dElEtE" = some .delete ∧ softCards.verbs = softDeletion ∧
      (∃ intent, Intent.parse? "dElEtE" = some intent ∧
        softCards.validate cardToDelete intent =
          softCards.validate cardToDelete (.ofOperation .update)) ∧
      ∃ records, cardFile.records "rows.json" = .ok records ∧
        (CommandLine.Command.validate "cards.json" "rows.json" "dElEtE").run cardFile .standard
          softCards = CommandLine.validationReport softCards records (.ofOperation .update) := by
  have named : Operation.parse? "dElEtE" = some .delete := by decide
  obtain ⟨intent, parsed, validated, ran, _⟩ :=
    operation_name_resolved softDeletion "dElEtE" .delete named
  have given := ok_getD (cardFile.records "rows.json") [] (by decide +kernel)
  exact ⟨named, rfl, ⟨intent, parsed, validated softCards cardToDelete rfl⟩, _, given,
    ran softCards cardFile .standard "cards.json" "rows.json" _ rfl given⟩

theorem cardDeletion_unlike_operation :
    softCards.Built ∧ Operation.parse? "delete" = some .delete ∧
      ∃ intent, Intent.parse? "delete" = some intent ∧
        (softCards.validate cardToDelete intent).2.isNone = true ∧
        (softCards.validate cardToDelete (.ofOperation .delete)).2.map (·.key?) =
          some (some "reason") := by
  have meant : (Intent.ofVerb .delete).resolve softCards.verbs = .update := rfl
  refine ⟨.withVerbs cards softDeletion cards_built, by decide, .ofVerb .delete, by decide, ?_, ?_⟩
  · rw [validate_resolved, meant, softCards, validate_withVerbs]
    exact card_accepted .update (by decide)
  · rw [softCards, validate_withVerbs]
    exact cards_judged.2.1

end EntitySchema
