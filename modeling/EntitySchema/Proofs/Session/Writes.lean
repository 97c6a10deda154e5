import EntitySchema.Proofs.Record.Validation
import EntitySchema.Proofs.Sql.Write
import EntitySchema.Session

set_option autoImplicit false

namespace EntitySchema

open Sql

namespace Call

def operation? : Call → Option Operation
  | .insert _ _ => some .insert
  | .update _ _ => some .update
  | .merge _ _ => some .merge
  | _ => none

def records : Call → List Record
  | .insert records _ => records
  | .update record _ => [record]
  | .merge record _ => [record]
  | _ => []

def build (e : Entity) : Call → List Record → Except QueryError Statement
  | .insert _ returning, left => e.insert left returning
  | .update _ id, [left] => e.update left id
  | .merge _ id, [left] => e.merge left id
  | _, _ => .error .noRecords

end Call

theorem write_plan (e : Entity) (modes : MatchModes) (c : Call) (op : Operation)
    (write : c.operation? = some op) :
    e.plan modes c =
      .ofValidation (Validation.batch e.limits (e.propertiesFor op) c.records).1
        (Validation.batch e.limits (e.propertiesFor op) c.records).2
        (c.build e (Validation.batch e.limits (e.propertiesFor op) c.records).1) := by
  cases c with
  | insert records returning =>
      cases write
      rfl
  | update record id =>
      cases write
      rw [Call.records, batch_single]
      rfl
  | merge record id =>
      cases write
      rw [Call.records, batch_single]
      rfl
  | _ => cases write

theorem build_single (e : Entity) (c : Call) (left : List Record) (statement : Statement)
    (single : c.operation? ≠ some .insert) (accepted : c.build e left = .ok statement) :
    ∃ record, left = [record] := by
  cases left with
  | nil => cases c <;> first | exact absurd rfl single | cases accepted
  | cons record rest =>
      cases rest with
      | nil => exact ⟨record, rfl⟩
      | cons other more => cases c <;> first | exact absurd rfl single | cases accepted

theorem build_writes (e : Entity) (wellFormed : e.WellFormed) (c : Call) (op : Operation)
    (left : List Record) (statement : Statement) (write : c.operation? = some op)
    (accepted : c.build e left = .ok statement) :
    ∃ columns others, statement.Writes columns left others ∧ (∀ column ∈ columns, column ∈ e.columns op) ∧
      others.length = if op = .insert then 0 else 1 := by
  cases c with
  | insert records returning =>
      cases write
      exact ⟨e.columns .insert, [], insert_writes e wellFormed left returning statement accepted,
        fun _ member => member, rfl⟩
  | update record id =>
      cases write
      obtain ⟨single, rfl⟩ := build_single e _ left statement (by simp [Call.operation?]) accepted
      exact ⟨e.columns .update, [id], update_writes e wellFormed single id statement accepted,
        fun _ member => member, rfl⟩
  | merge record id =>
      cases write
      obtain ⟨single, rfl⟩ := build_single e _ left statement (by simp [Call.operation?]) accepted
      exact ⟨e.mergeColumns single, [id], merge_writes e wellFormed single id statement accepted,
        fun _ member => (List.mem_filter.mp member).1, rfl⟩
  | _ => cases write

theorem accepted_value (p : Property) (found : Option Json) (accepts : p.Accepts found) :
    (found.getD .null = .null ∧ p.required = false ∧ ∀ v, found = some v → v = .null) ∨
    (found.getD .null ≠ .null ∧ found = some (found.getD .null) ∧
      (p.validates = true → p.check (found.getD .null) = .ok ())) := by
  by_cases lacking : ∀ v, found = some v → v = .null
  · refine .inl ⟨?_, ?_, lacking⟩
    · cases found with
      | none => rfl
      | some v => exact lacking v rfl
    · cases needed : p.required with
      | false => rfl
      | true =>
          obtain ⟨v, same, present⟩ := accepts.given needed
          exact absurd (lacking v same) present
  · obtain ⟨v, same, present⟩ : ∃ v, found = some v ∧ v ≠ .null := by
      simpa using lacking
    subst same
    exact .inr ⟨present, rfl, accepts.checked v rfl present⟩

-- The columns of an operation are those of the properties that its records are validated for.
theorem written_value (e : Entity) (built : e.Built) (op : Operation) (given left : Record)
    (cleaned : given.cleaned e.limits (e.propertiesFor op) = left)
    (all : ∀ p ∈ e.propertiesFor op, p.Accepts (p.cleanedValue e.limits given)) (column : String)
    (known : column ∈ e.columns op) :
    ∃ p ∈ e.propertiesFor op, p.key = column ∧
      ((left.valueAt column = .null ∧ p.required = false ∧ ∀ v, left.lookup p.key = some v → v = .null) ∨
       (left.valueAt column ≠ .null ∧ left.lookup p.key = some (left.valueAt column) ∧
        p.cleanedValue e.limits given = some (left.valueAt column) ∧
        (p.validates = true → p.check (left.valueAt column) = .ok ()))) := by
  obtain ⟨p, taken, key⟩ := List.mem_map.mp known
  have found : left.lookup p.key = p.cleanedValue e.limits given := by
    rw [← cleaned]
    exact Record.lookup_cleaned_member e.limits _ p given (propertiesFor_distinct e built op) taken
  refine ⟨p, taken, key, ?_⟩
  rw [← key, Record.valueAt, found]
  rcases accepted_value p _ (all p taken) with ⟨isNull, optional, lacking⟩ | ⟨present, same, checked⟩
  · exact .inl ⟨isNull, optional, lacking⟩
  · exact .inr ⟨present, same, same, checked⟩

namespace Session

variable {ε : Type} (session : Session) (database : Database ε) (c : Call)

theorem call_refused (error : QueryError)
    (refused : (session.entity.plan session.modes c).statement = .error error) :
    (session.call database c).2 = session := by
  simp only [call, refused]

theorem call_sent (statement : Statement)
    (planned : (session.entity.plan session.modes c).statement = .ok statement) :
    (session.call database c).2.sent = session.sent ++ [statement] ∧
      (session.call database c).1.records = (session.entity.plan session.modes c).records := by
  simp only [call, planned, and_self]

theorem write_outcome (op : Operation) (built : session.entity.Built)
    (write : c.operation? = some op) :
    let properties := session.entity.propertiesFor op
    let left := c.records.map (Record.cleaned session.entity.limits properties)
    (session.call database c).2 = session ∨
    ((∀ r ∈ c.records, ∀ p ∈ properties, p.Accepts (p.cleanedValue session.entity.limits r)) ∧
      (session.call database c).1.records = left ∧
      ∃ statement, c.build session.entity left = .ok statement ∧
        (session.call database c).2.sent = session.sent ++ [statement]) := by
  intro properties left
  have distinct := propertiesFor_distinct session.entity built op
  have planned := write_plan session.entity session.modes c op write
  have outcome := Validation.batch_outcome session.entity.limits properties c.records distinct
  change session.entity.plan session.modes c = .ofValidation
    (Validation.batch session.entity.limits properties c.records).1
    (Validation.batch session.entity.limits properties c.records).2 _ at planned
  generalize Validation.batch session.entity.limits properties c.records = result at planned outcome
  cases outcome with
  | refused before later r left error order passed stopped =>
      refine .inl (call_refused session database c (.validation error) ?_)
      rw [planned]
      rfl
  | accepted all =>
      cases building : c.build session.entity left with
      | error error =>
          refine .inl (call_refused session database c error ?_)
          rw [planned]
          exact building
      | ok statement =>
          have sent := call_sent session database c statement (by rw [planned]; exact building)
          exact .inr ⟨all, by rw [sent.2, planned]; rfl, statement, rfl, sent.1⟩

-- Every place that a write's text assigns to a column holds what was accepted for that column; the
-- identity of an update is the one argument that belongs to no column.
theorem sent_values_checked (op : Operation) (built : session.entity.Built)
    (write : c.operation? = some op) :
    let e := session.entity
    let outcome := session.call database c
    (∀ statement, outcome.2.sent = session.sent ++ [statement] →
      (columnPlaces statement.sql.render).map ColumnPlace.index =
        List.range' 1 (statement.args.length - if op = .insert then 0 else 1) ∧
      ∀ place ∈ columnPlaces statement.sql.render, ∃ p given left value,
        p ∈ e.properties ∧ p.appliesTo op = true ∧ p.key = place.column ∧
        c.records[place.row]? = some given ∧ outcome.1.records[place.row]? = some left ∧
        statement.args[place.index - 1]? = some value ∧
        ((value = .null ∧ p.required = false ∧ ∀ v, left.lookup p.key = some v → v = .null) ∨
         (value ≠ .null ∧ left.lookup p.key = some value ∧
          p.cleanedValue e.limits given = some value ∧
          (p.validates = true → p.check value = .ok ())))) ∧
    ((∃ r ∈ c.records, ∃ p ∈ e.propertiesFor op, ¬ p.Accepts (p.cleanedValue e.limits r)) ∨
      (∃ error, c.build e outcome.1.records = .error error) →
      outcome.2 = session) := by
  intro e outcome
  rcases write_outcome session database c op built write with same | ⟨all, records, statement, building, sent⟩
  · refine ⟨?_, fun _ => same⟩
    intro statement sent
    have grown := congrArg List.length sent
    simp [outcome, same] at grown
  · constructor
    · intro other sent'
      obtain rfl : statement = other := by
        simpa [outcome, sent] using sent'
      obtain ⟨columns, others, writes, known, count⟩ :=
        build_writes e (built_wellFormed e built) c op _ statement write building
      constructor
      · have total : statement.args.length = c.records.length * columns.length + others.length := by
          simp [writes.args, List.length_flatMap, Function.comp_def]
        rw [writes.places, grid_indices, total, count, List.length_map, Nat.add_sub_cancel]
      · intro place member
        obtain ⟨left, inRow, inColumns, argument⟩ :=
          writes_argument statement columns _ others writes place member
        obtain ⟨given, inBatch, cleaned⟩ : ∃ given, c.records[place.row]? = some given ∧
            given.cleaned e.limits (e.propertiesFor op) = left := by
          simpa using inRow
        have accepted := all given (List.mem_of_getElem? inBatch)
        obtain ⟨p, taken, key, value⟩ :=
          written_value e built op given left cleaned accepted place.column (known _ inColumns)
        exact ⟨p, given, left, _, (List.mem_filter.mp taken).1, (List.mem_filter.mp taken).2, key,
          inBatch, by rw [← inRow, ← records], argument, value⟩
    · rintro (⟨r, member, p, taken, refused⟩ | ⟨error, failed⟩)
      · exact absurd (all r member p taken) refused
      · have accepted : c.build e outcome.1.records = .ok statement := by
          rw [← building]
          exact congrArg (c.build e) records
        cases failed.symm.trans accepted

def ordersInsert : Call :=
  .insert [[("cost $1", .ofCount 5), ("meta", .object [("note", .string " a ")])], [("id", .ofCount 2)]]
    (some "a\" = $9 \"b")

theorem ordersInsert_checked :
    orders.Built ∧ ordersInsert.operation? = some .insert ∧
      ((start orders .standard).call (fun _ => .ok [] : Database String) ordersInsert).2.sent.map
        (fun statement => statement.sql.render) =
        ["INSERT INTO \"shop\".\"orders\" (\"id\", \"cost $1\", \"meta\", \"itemsJsonAgg\") " ++
          "VALUES ($1, $2, $3, $4), ($5, $6, $7, $8) RETURNING \"a\" = $9 \"b\""] ∧
      ∃ statement,
        ((start orders .standard).call (fun _ => .ok [] : Database String) ordersInsert).2.sent =
          [] ++ [statement] ∧
        (columnPlaces statement.sql.render).map ColumnPlace.index =
          List.range' 1 (statement.args.length - 0) := by
  have one : ((start orders .standard).call (fun _ => .ok [] : Database String)
      ordersInsert).2.sent.length = 1 := by decide +kernel
  obtain ⟨statement, sent⟩ := List.length_eq_one_iff.mp one
  have built : (start orders .standard).entity.Built := by
    simp only [start]
    exact orders_built
  have checked := sent_values_checked (start orders .standard) (fun _ => .ok [] : Database String)
    ordersInsert .insert built rfl
  exact ⟨orders_built, rfl, by decide +kernel, statement, sent, (checked.1 statement sent).1⟩

end Session

end EntitySchema
