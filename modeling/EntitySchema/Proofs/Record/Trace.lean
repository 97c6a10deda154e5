import EntitySchema.Proofs.Record.Trimming
import EntitySchema.Proofs.Record.Validation

set_option autoImplicit false

namespace EntitySchema

namespace Json

mutual
def containers : Json → List (List Step)
  | .array items => [] :: itemContainers 0 items
  | .object members => [] :: memberContainers members
  | _ => []

def itemContainers (index : Nat) : List Json → List (List Step)
  | [] => []
  | item :: rest => item.containers.map (Step.item index :: ·) ++ itemContainers (index + 1) rest

def memberContainers : List (String × Json) → List (List Step)
  | [] => []
  | (key, value) :: rest => value.containers.map (Step.member key :: ·) ++ memberContainers rest
end

end Json

namespace SanitizeLimits

def stopsAt (limits : SanitizeLimits) (depth : Nat) (path : List Json.Step) : Bool :=
  depth + path.length = limits.maxDepth && path.all limits.passes

def exceeded (limits : SanitizeLimits) (depth : Nat) (paths : List (List Json.Step)) : List Event :=
  (paths.filter (limits.stopsAt depth)).map fun _ => .sanitizeDepthExceeded limits.maxDepth

end SanitizeLimits

namespace DeepTrim

variable (limits : SanitizeLimits)

theorem exceeded_append (depth : Nat) (left right : List (List Json.Step)) :
    limits.exceeded depth (left ++ right) = limits.exceeded depth left ++ limits.exceeded depth right := by
  rw [SanitizeLimits.exceeded, List.filter_append, List.map_append]
  rfl

theorem stopsAt_step (depth : Nat) (step : Json.Step) (path : List Json.Step) :
    limits.stopsAt depth (step :: path) = (limits.passes step && limits.stopsAt (depth + 1) path) := by
  have length : depth + (path.length + 1) = depth + 1 + path.length := by omega
  cases passes : limits.passes step <;> simp [SanitizeLimits.stopsAt, passes, length]

theorem exceeded_step (depth : Nat) (step : Json.Step) (paths : List (List Json.Step)) :
    limits.exceeded depth (paths.map (step :: ·)) =
      if limits.passes step then limits.exceeded (depth + 1) paths else [] := by
  simp only [SanitizeLimits.exceeded, List.filter_map, List.map_map, Function.comp_def, stopsAt_step]
  cases limits.passes step <;> simp

theorem exceeded_beyond (depth : Nat) (ended : limits.maxDepth < depth) (paths : List (List Json.Step)) :
    limits.exceeded depth paths = [] := by
  have far : ∀ path : List Json.Step, depth + path.length ≠ limits.maxDepth := by
    intro path
    omega
  simp [SanitizeLimits.exceeded, SanitizeLimits.stopsAt, far]

theorem itemContainers_beyond (depth index : Nat) (items : List Json) (ended : limits.maxDepth ≤ depth) :
    limits.exceeded depth (Json.itemContainers index items) = [] := by
  induction items generalizing index with
  | nil => rfl
  | cons item rest ih =>
      rw [Json.itemContainers, exceeded_append, exceeded_step, ih,
        exceeded_beyond limits (depth + 1) (Nat.lt_succ_of_le ended), ite_self]
      rfl

theorem memberContainers_beyond (depth : Nat) (members : List (String × Json))
    (ended : limits.maxDepth ≤ depth) :
    limits.exceeded depth (Json.memberContainers members) = [] := by
  induction members with
  | nil => rfl
  | cons member rest ih =>
      rw [Json.memberContainers, exceeded_append, exceeded_step, ih,
        exceeded_beyond limits (depth + 1) (Nat.lt_succ_of_le ended), ite_self]
      rfl

theorem exceeded_here (paths : List (List Json.Step)) :
    limits.exceeded limits.maxDepth ([] :: paths) =
      .sanitizeDepthExceeded limits.maxDepth :: limits.exceeded limits.maxDepth paths := by
  simp [SanitizeLimits.exceeded, SanitizeLimits.stopsAt]

theorem exceeded_above (depth : Nat) (more : depth < limits.maxDepth) (paths : List (List Json.Step)) :
    limits.exceeded depth ([] :: paths) = limits.exceeded depth paths := by
  simp [SanitizeLimits.exceeded, SanitizeLimits.stopsAt, Nat.ne_of_lt more]

mutual
-- By induction on the value, as the texts that trimming reaches are found.
theorem eventsAt_exceeded (depth : Nat) (value : Json) (within : depth ≤ limits.maxDepth) :
    eventsAt limits depth value = limits.exceeded depth value.containers := by
  cases value with
  | array items =>
      rw [eventsAt, Json.containers]
      split
      case isTrue ended =>
        cases Nat.le_antisymm within ended
        rw [exceeded_here, itemContainers_beyond limits _ 0 items ended]
      case isFalse more =>
        rw [exceeded_above limits depth (Nat.not_le.mp more)]
        exact itemEvents_exceeded depth 0 items (Nat.not_le.mp more)
  | object members =>
      rw [eventsAt, Json.containers]
      split
      case isTrue ended =>
        cases Nat.le_antisymm within ended
        rw [exceeded_here, memberContainers_beyond limits _ members ended]
      case isFalse more =>
        rw [exceeded_above limits depth (Nat.not_le.mp more)]
        exact memberEvents_exceeded depth members (Nat.not_le.mp more)
  | _ => rfl

theorem itemEvents_exceeded (depth index : Nat) (items : List Json) (within : depth < limits.maxDepth) :
    itemEvents limits (depth + 1) items = limits.exceeded depth (Json.itemContainers index items) := by
  cases items with
  | nil => rfl
  | cons item rest =>
      rw [itemEvents, Json.itemContainers, exceeded_append, exceeded_step,
        eventsAt_exceeded (depth + 1) item within, itemEvents_exceeded depth (index + 1) rest within]
      rfl

theorem memberEvents_exceeded (depth : Nat) (members : List (String × Json))
    (within : depth < limits.maxDepth) :
    memberEvents limits (depth + 1) members = limits.exceeded depth (Json.memberContainers members) := by
  cases members with
  | nil => rfl
  | cons member rest =>
      obtain ⟨key, value⟩ := member
      rw [memberEvents, Json.memberContainers, exceeded_append, exceeded_step,
        eventsAt_exceeded (depth + 1) value within, memberEvents_exceeded depth rest within]
      rfl
end

end DeepTrim

theorem deepTrimEvents_exceeded (limits : SanitizeLimits) (value : Json) :
    deepTrimEvents limits value = limits.exceeded 0 value.containers :=
  DeepTrim.eventsAt_exceeded limits 0 value (Nat.zero_le _)

def Event.key? : Event → Option String
  | .sanitize key | .normalize key | .require key | .control key | .validationFailed _ key => some key
  | _ => none

def Event.isFailure : Event → Bool
  | .validationFailed _ _ => true
  | _ => false

def Json.given (value : Option Json) : Bool := value.any fun v => !v.isNull

theorem present_isSome (record : Record) (key : String) :
    (record.present? key).isSome = Json.given (record.lookup key) := by
  unfold Record.present?
  cases found : record.lookup key with
  | none => rfl
  | some value => cases value <;> rfl

namespace Property

def cleaningStages (limits : SanitizeLimits) (p : Property) (sent : Option Json) : List Event :=
  let trims := if p.sanitizer.isNone then
      sent.toList.flatMap fun value => limits.exceeded 0 value.containers
    else []
  (if Json.given sent && p.sanitizes then .sanitize p.key :: trims else []) ++
    (if Json.given sent && p.normalizes then [.normalize p.key] else [])

def stages (limits : SanitizeLimits) (p : Property) (sent : Option Json) : List Event :=
  p.cleaningStages limits sent ++
    (if p.required then [.require p.key] else []) ++
    (if Json.given (sent.map (p.clean limits)) && p.validates then [.control p.key] else [])

theorem cleanEvents_stages (limits : SanitizeLimits) (p : Property) (sent : Option Json) :
    sent.toList.flatMap (p.cleanEvents limits) = p.cleaningStages limits sent := by
  cases sent with
  | none => rfl
  | some value =>
      cases value <;> simp [cleaningStages, cleanEvents, Json.given, Json.isNull, deepTrimEvents_exceeded]

theorem events_stages (limits : SanitizeLimits) (p : Property) (record : Record) :
    p.events limits record = p.stages limits (record.lookup p.key) ++
      ((p.failure? (p.cleanIn limits record)).toList.map ValidationError.failure) := by
  rw [events, present_isSome, lookup_cleanIn, cleanEvents_stages, stages, Bool.and_comm p.validates]
  rfl

theorem stages_named (limits : SanitizeLimits) (p : Property) (sent : Option Json) (event : Event)
    (reported : event ∈ p.stages limits sent) :
    event.isFailure = false ∧
      (event = .sanitizeDepthExceeded limits.maxDepth ∨ event.key? = some p.key) := by
  simp only [stages, cleaningStages, List.mem_append, List.mem_ite_nil_right, List.mem_cons, List.not_mem_nil,
    or_false, List.mem_flatMap, SanitizeLimits.exceeded, List.mem_map] at reported
  rcases reported with ((⟨_, rfl | ⟨_, _, _, _, _, rfl⟩⟩ | ⟨_, rfl⟩) | ⟨_, rfl⟩) | ⟨_, rfl⟩
  · exact ⟨rfl, .inr rfl⟩
  · exact ⟨rfl, .inl rfl⟩
  · exact ⟨rfl, .inr rfl⟩
  · exact ⟨rfl, .inr rfl⟩
  · exact ⟨rfl, .inr rfl⟩

theorem accepts_iff (p : Property) (record : Record) :
    p.failure? record = none ↔ p.Accepts (record.lookup p.key) := by
  refine ⟨p.failure_none record, fun accepted => ?_⟩
  cases verdict : p.failure? record with
  | none => rfl
  | some error => exact absurd accepted (p.rejects_not_accepts _ error (p.failure_some record error verdict))

theorem rejects_unique (p : Property) (value : Option Json) (error other : ValidationError)
    (first : p.Rejects value error) (second : p.Rejects value other) : error = other := by
  cases first with
  | missing needed lacking =>
      cases second with
      | missing => rfl
      | invalid v cause found present => exact absurd (lacking v found) present
      | customFailed v cause found present => exact absurd (lacking v found) present
  | invalid v cause found present checks failed builtin =>
      cases second with
      | missing needed lacking => exact absurd (lacking v found) present
      | invalid w reason given _ _ judged =>
          cases found.symm.trans given
          cases failed.symm.trans judged
          rfl
      | customFailed w reason given _ _ _ custom => simp [builtin] at custom
  | customFailed v cause found present checks failed custom =>
      cases second with
      | missing needed lacking => exact absurd (lacking v found) present
      | invalid w reason given _ _ _ builtin => simp [builtin] at custom
      | customFailed w reason given _ _ judged =>
          cases found.symm.trans given
          cases failed.symm.trans judged
          rfl

theorem rejects_iff (p : Property) (record : Record) (error : ValidationError) :
    p.failure? record = some error ↔ p.Rejects (record.lookup p.key) error := by
  refine ⟨p.failure_some record error, fun rejected => ?_⟩
  cases verdict : p.failure? record with
  | none => exact absurd (p.failure_none record verdict) (p.rejects_not_accepts _ error rejected)
  | some other => rw [p.rejects_unique _ other error (p.failure_some record other verdict) rejected]

theorem rejects_key (p : Property) (value : Option Json) (error : ValidationError)
    (rejected : p.Rejects value error) : error.failure = .validationFailed error.code p.key := by
  cases rejected <;> rfl

end Property

namespace Validation

variable (limits : SanitizeLimits)

def reported (properties : List Property) (r : Record) : List Event :=
  properties.flatMap fun p => p.stages limits (r.lookup p.key)

theorem reported_named (properties : List Property) (r : Record) (event : Event)
    (member : event ∈ reported limits properties r) :
    event.isFailure = false ∧
      (event = .sanitizeDepthExceeded limits.maxDepth ∨ ∃ p ∈ properties, event.key? = some p.key) := by
  obtain ⟨p, listed, staged⟩ := List.mem_flatMap.mp member
  obtain ⟨plain, named⟩ := p.stages_named limits _ event staged
  exact ⟨plain, named.imp_right fun key => ⟨p, listed, key⟩⟩

-- By induction on the properties that accept the record: each reports its stages and cleans its own
-- field, which none of the others looks at.
theorem recordEvents_past (earlier following : List Property) (r : Record)
    (distinct : ((earlier ++ following).map (·.key)).Nodup)
    (passed : ∀ p ∈ earlier, p.Accepts (p.cleanedValue limits r)) :
    recordEvents limits (earlier ++ following) r =
      reported limits earlier r ++ recordEvents limits following (r.cleaned limits earlier) := by
  induction earlier generalizing r with
  | nil => rw [Record.cleaned_nil]; rfl
  | cons p rest ih =>
      simp only [List.cons_append, List.map_cons, List.nodup_cons] at distinct
      obtain ⟨fresh, distinct⟩ := distinct
      have unseen : p.key ∉ rest.map (·.key) := by
        intro seen
        rw [List.map_append] at fresh
        exact fresh (List.mem_append_left _ seen)
      have apart : ∀ q ∈ rest, q.key ≠ p.key :=
        fun q member same => unseen (List.mem_map.mpr ⟨q, member, same⟩)
      have accepted : p.failure? (p.cleanIn limits r) = none := by
        rw [p.accepts_iff, lookup_cleanIn]
        exact passed p List.mem_cons_self
      have others : reported limits rest (p.cleanIn limits r) = reported limits rest r := by
        apply List.flatMap_congr
        intro q member
        rw [Property.cleanIn, Record.lookup_adjust]
        simp [apart q member]
      have tail := ih (p.cleanIn limits r) distinct fun q member => by
        rw [cleanedValue_cleanIn limits p q r (apart q member)]
        exact passed q (List.mem_cons_of_mem p member)
      rw [List.cons_append, recordEvents, p.events_stages, accepted, tail, others,
        Record.cleaned_cons limits p rest r unseen]
      simp [reported]

theorem recordEvents_accepted (properties : List Property) (r : Record)
    (distinct : (properties.map (·.key)).Nodup)
    (all : ∀ p ∈ properties, p.Accepts (p.cleanedValue limits r)) :
    recordEvents limits properties r = reported limits properties r := by
  have whole := recordEvents_past limits properties [] r (by rwa [List.append_nil]) all
  rwa [List.append_nil, recordEvents, List.append_nil] at whole

theorem recordEvents_refused (earlier following : List Property) (p : Property) (r : Record)
    (error : ValidationError) (distinct : ((earlier ++ p :: following).map (·.key)).Nodup)
    (passed : ∀ q ∈ earlier, q.Accepts (q.cleanedValue limits r))
    (rejected : p.Rejects (p.cleanedValue limits r) error) :
    recordEvents limits (earlier ++ p :: following) r =
      reported limits (earlier ++ [p]) r ++ [.validationFailed error.code p.key] := by
  have unseen : p.key ∉ earlier.map (·.key) := by
    intro seen
    rw [List.map_append] at distinct
    exact (List.nodup_append.mp distinct).2.2 p.key seen p.key (by simp) rfl
  have sent := Record.lookup_cleaned_other limits earlier r p.key unseen
  have refused : p.failure? (p.cleanIn limits (r.cleaned limits earlier)) = some error := by
    rw [p.rejects_iff, lookup_cleanIn, Property.cleanedValue, sent]
    exact rejected
  rw [recordEvents_past limits earlier (p :: following) r distinct passed, recordEvents,
    p.events_stages, refused, sent]
  simp [reported, p.rejects_key _ error rejected]

theorem record_accepted (properties : List Property) (r : Record)
    (distinct : (properties.map (·.key)).Nodup) :
    (record limits properties r).2 = none ↔ ∀ p ∈ properties, p.Accepts (p.cleanedValue limits r) := by
  have outcome := record_outcome limits properties r distinct
  generalize record limits properties r = result at outcome
  cases outcome with
  | accepted all => simpa using all
  | refused earlier following p error order passed rejected =>
      simp only [reduceCtorEq, false_iff]
      intro all
      exact p.rejects_not_accepts _ error rejected (all p (by simp [order]))

theorem batchEvents_past (properties : List Property) (before later : List Record)
    (distinct : (properties.map (·.key)).Nodup)
    (passed : ∀ r ∈ before, ∀ p ∈ properties, p.Accepts (p.cleanedValue limits r)) :
    batchEvents limits properties (before ++ later) =
      before.flatMap (reported limits properties) ++ batchEvents limits properties later := by
  induction before with
  | nil => rfl
  | cons r rest ih =>
      have all := passed r List.mem_cons_self
      have accepted := (record_accepted limits properties r distinct).mpr all
      rw [List.cons_append, batchEvents, recordEvents_accepted limits properties r distinct all, accepted,
        ih fun other member => passed other (List.mem_cons_of_mem r member)]
      simp

inductive BatchReport (properties : List Property) (records : List Record) :
    Option ValidationError → List Event → Prop where
  | accepted (all : ∀ r ∈ records, ∀ p ∈ properties, p.Accepts (p.cleanedValue limits r)) :
      BatchReport properties records none (records.flatMap (reported limits properties))
  | refused (before later : List Record) (r : Record) (earlier following : List Property) (p : Property)
      (error : ValidationError) (order : records = before ++ r :: later)
      (declared : properties = earlier ++ p :: following)
      (passed : ∀ other ∈ before, ∀ q ∈ properties, q.Accepts (q.cleanedValue limits other))
      (accepted : ∀ q ∈ earlier, q.Accepts (q.cleanedValue limits r))
      (rejected : p.Rejects (p.cleanedValue limits r) error) :
      BatchReport properties records (some error)
        (before.flatMap (reported limits properties) ++ reported limits (earlier ++ [p]) r ++
          [.validationFailed error.code p.key])

theorem batch_report (properties : List Property) (records : List Record)
    (distinct : (properties.map (·.key)).Nodup) :
    BatchReport limits properties records (batch limits properties records).2
      (batchEvents limits properties records) := by
  have outcome := batch_outcome limits properties records distinct
  generalize batch limits properties records = result at outcome
  cases outcome with
  | accepted all =>
      have whole := batchEvents_past limits properties records [] distinct all
      rw [List.append_nil, batchEvents, List.append_nil] at whole
      exact whole ▸ .accepted all
  | refused before later r left error order passed stopped =>
      cases stopped with
      | refused earlier following p error declared accepted rejected =>
          have stops : (record limits properties r).2 ≠ none := by
            rw [Ne, record_accepted limits properties r distinct]
            exact fun all => p.rejects_not_accepts _ error rejected (all p (by simp [declared]))
          have here := recordEvents_refused limits earlier following p r error (declared ▸ distinct)
            accepted rejected
          have whole := batchEvents_past limits properties before (r :: later) distinct passed
          rw [batchEvents, if_pos (Option.isSome_iff_ne_none.mpr stops), List.append_nil, declared, here,
            ← declared, ← order, ← List.append_assoc] at whole
          exact whole ▸ .refused before later r earlier following p error order declared passed accepted
            rejected

section

variable (properties : List Property) (records : List Record) (failure : Option ValidationError)
  (trace : List Event) (report : BatchReport limits properties records failure trace)

include report

theorem BatchReport.named (event : Event) (member : event ∈ trace) :
    event = .sanitizeDepthExceeded limits.maxDepth ∨ ∃ p ∈ properties, event.key? = some p.key := by
  cases report with
  | accepted all =>
      obtain ⟨r, _, staged⟩ := List.mem_flatMap.mp member
      exact (reported_named limits properties r event staged).2
  | refused before later r earlier following p error order declared =>
      have within : ∀ q ∈ earlier ++ [p], q ∈ properties := by
        intro q listed
        rw [declared, List.append_cons]
        exact List.mem_append_left _ listed
      rcases List.mem_append.mp member with staged | last
      · rcases List.mem_append.mp staged with passed | here
        · obtain ⟨other, _, staged⟩ := List.mem_flatMap.mp passed
          exact (reported_named limits properties other event staged).2
        · refine (reported_named limits _ r event here).2.imp_right ?_
          rintro ⟨q, listed, key⟩
          exact ⟨q, within q listed, key⟩
      · cases List.mem_singleton.mp last
        exact .inr ⟨p, within p (by simp), rfl⟩

theorem BatchReport.failures : trace.countP Event.isFailure = failure.toList.length := by
  have none : ∀ (listed : List Property) (sent : List Record),
      (sent.flatMap (reported limits listed)).countP Event.isFailure = 0 := by
    intro listed sent
    refine List.countP_eq_zero.mpr fun event member => ?_
    obtain ⟨r, _, staged⟩ := List.mem_flatMap.mp member
    simp [(reported_named limits listed r event staged).1]
  cases report with
  | accepted all => exact none properties records
  | refused before later r earlier following p error order declared =>
      have here := none (earlier ++ [p]) [r]
      rw [List.flatMap_singleton] at here
      rw [List.countP_append, List.countP_append, none properties before, here]
      rfl

end

end Validation

-- The stages of each property of the operation, record after record, up to the one that fails, whose
-- failure comes last.
theorem validate_reports_stages (e : Entity) (built : e.Built) (records : List Record) (intent : Intent) :
    let properties := e.properties.filter (·.appliesTo (intent.resolve e.verbs))
    let failure := (e.validate records intent).2
    let trace := e.validateEvents records intent
    (failure = none → trace = records.flatMap (Validation.reported e.limits properties)) ∧
    (∀ error, failure = some error →
      ∃ before r later earlier p following,
        records = before ++ r :: later ∧ properties = earlier ++ p :: following ∧
        (∀ other ∈ before, ∀ q ∈ properties, q.Accepts (q.cleanedValue e.limits other)) ∧
        (∀ q ∈ earlier, q.Accepts (q.cleanedValue e.limits r)) ∧
        p.Rejects (p.cleanedValue e.limits r) error ∧
        trace = before.flatMap (Validation.reported e.limits properties) ++
          Validation.reported e.limits (earlier ++ [p]) r ++ [.validationFailed error.code p.key]) ∧
    trace.countP Event.isFailure = failure.toList.length ∧
    (∀ event ∈ trace, event = .sanitizeDepthExceeded e.limits.maxDepth ∨
      ∃ p ∈ properties, event.key? = some p.key) := by
  intro properties failure trace
  have report : Validation.BatchReport e.limits properties records failure trace :=
    Validation.batch_report e.limits properties records
      (propertiesFor_distinct e built (intent.resolve e.verbs))
  refine ⟨fun accepted => ?_, fun error refused => ?_, report.failures, report.named⟩
  · rw [accepted] at report
    generalize trace = events at report
    cases report with
    | accepted all => rfl
  · rw [refused] at report
    generalize trace = events at report
    cases report with
    | refused before later r earlier following p error order declared passed accepted rejected =>
        exact ⟨before, r, later, earlier, p, following, order, declared, passed, accepted, rejected, rfl⟩

def tickets : Entity :=
  ((Entity.build "Ticket" "tickets"
    [{ Declaration.of "meta" "object" with hooks := .none },
     { Declaration.of "title" "string" with
       required := true, normalize := true, normalizer := some "capitalize", hooks := .none },
     { Declaration.of "closed" "date" with
       required := true, operations := some ["update"], hooks := .none }]
    (.builtin .standard)).toOption.getD ⟨"", "", [], .standard, .standard⟩).withLimits ⟨1, none⟩

theorem tickets_built : tickets.Built :=
  .withLimits _ _ (.build _ _ _ _ _ (ok_getD _ _ (by decide +kernel)))

def ticketsBatch : List Record :=
  [[("meta", .object [("owner", .object []), ("tags", .array [.string " a "])]), ("title", .string " one ")],
   [("closed", .string "never"), ("meta", .null), ("title", .null)],
   [("title", .string "three")]]

theorem ticketsBatch_reported :
    tickets.Built ∧
      tickets.validateEvents ticketsBatch (.ofOperation .insert) =
        [.sanitize "meta", .sanitizeDepthExceeded 1, .sanitizeDepthExceeded 1, .control "meta",
         .sanitize "title", .normalize "title", .require "title", .control "title",
         .require "title", .validationFailed "ANTITY_MISSING_FIELD" "title"] ∧
      ∃ error before r later earlier p following,
        (tickets.validate ticketsBatch (.ofOperation .insert)).2 = some error ∧
        ticketsBatch = before ++ r :: later ∧
        tickets.properties.filter (·.appliesTo .insert) = earlier ++ p :: following ∧
        p.Rejects (p.cleanedValue tickets.limits r) error ∧
        tickets.validateEvents ticketsBatch (.ofOperation .insert) =
          before.flatMap (Validation.reported tickets.limits (tickets.properties.filter (·.appliesTo .insert))) ++
            Validation.reported tickets.limits (earlier ++ [p]) r ++ [.validationFailed error.code p.key] := by
  have stops : (tickets.validate ticketsBatch (.ofOperation .insert)).2.isSome = true := by decide +kernel
  obtain ⟨error, failed⟩ := Option.isSome_iff_exists.mp stops
  obtain ⟨_, refused, _⟩ :=
    validate_reports_stages tickets tickets_built ticketsBatch (.ofOperation .insert)
  obtain ⟨before, r, later, earlier, p, following, order, declared, _, _, rejected, trace⟩ :=
    refused error failed
  exact ⟨tickets_built, by decide +kernel,
    error, before, r, later, earlier, p, following, failed, order, declared, rejected, trace⟩

end EntitySchema
