import EntitySchema.Record.Validation
import EntitySchema.Sql.Write

/-!
# Sessions

A session binds an entity to a database. Records are validated before they are written, and nothing
is sent unless the whole batch passes. A session keeps the statements it has sent.
-/

set_option autoImplicit false

namespace EntitySchema

inductive Call where
  | select (request : SelectRequest)
  | insert (records : List Record) (returning : Option String)
  | update (record : Record) (id : Json)
  | merge (record : Record) (id : Json)
  | delete (ids : List Json)
  | deleteArchived (before : Instant)

structure Plan where
  records : List Record
  statement : Except QueryError Statement

namespace Plan

def ofValidation (records : List Record) (failure : Option ValidationError)
    (statement : Except QueryError Statement) : Plan :=
  match failure with
  | some e => ⟨records, .error (.validation e)⟩
  | none => ⟨records, statement⟩

end Plan

def Entity.plan (e : Entity) (modes : MatchModes) : Call → Plan
  | .select request => ⟨[], .ok (e.select modes request).toStatement⟩
  | .insert records returning =>
    let (records, failure) := e.validate records (.ofOperation .insert)
    .ofValidation records failure (e.insert records returning)
  | .update record id =>
    let (record, failure) := e.validateOne record (.ofOperation .update)
    .ofValidation [record] failure (e.update record id)
  | .merge record id =>
    let (record, failure) := e.validateOne record (.ofOperation .merge)
    .ofValidation [record] failure (e.merge record id)
  | .delete ids => ⟨[], e.deleteIds ids⟩
  | .deleteArchived before => ⟨[], .ok (e.deleteArchived before)⟩

def Entity.planEvents (e : Entity) (modes : MatchModes) : Call → List Event
  | .select request => e.selectEvents modes request
  | .insert records _ => e.validateEvents records (.ofOperation .insert)
  | .update record _ => e.validateOneEvents record (.ofOperation .update)
  | .merge record _ => e.validateOneEvents record (.ofOperation .merge)
  | .delete _ | .deleteArchived _ => []

inductive Failure (ε : Type) where
  | refused (e : QueryError)
  | database (e : ε)

abbrev Database (ε : Type) := Statement → Except ε (List Json)

structure Reply (ε : Type) where
  records : List Record
  rows : Except (Failure ε) (List Json)

structure Session where
  entity : Entity
  modes : MatchModes
  sent : List Statement

namespace Session

def start (e : Entity) (modes : MatchModes) : Session := ⟨e, modes, []⟩

variable {ε : Type}

def call (session : Session) (database : Database ε) (c : Call) : Reply ε × Session :=
  let plan := session.entity.plan session.modes c
  match plan.statement with
  | .error e => (⟨plan.records, .error (.refused e)⟩, session)
  | .ok statement =>
    (⟨plan.records, (database statement).mapError .database⟩,
      { session with sent := session.sent ++ [statement] })

def callEvents (session : Session) (database : Database ε) (c : Call) : List Event :=
  session.entity.planEvents session.modes c ++
    match (session.entity.plan session.modes c).statement with
    | .error _ => []
    | .ok statement =>
      match database statement with
      | .ok _ => [.queryExecuted session.entity.name]
      | .error _ => [.queryFailed session.entity.name]

end Session

end EntitySchema
