import EntitySchema.Proofs.Session.Confinement
import EntitySchema.Proofs.Session.Writes

/-!
# The log of a session

Calls in a row, each onto the database as it answers by then. A call sends the one statement that is
built of its records as validation leaves them, or it is refused and sends nothing. What it sends
does not depend on the calls before it.
-/

set_option autoImplicit false

namespace EntitySchema

namespace Call

def validated (e : Entity) : Call → List Record × Option ValidationError
  | .insert records _ => e.validate records (.ofOperation .insert)
  | .update record _ =>
    let (left, failure) := e.validateOne record (.ofOperation .update)
    ([left], failure)
  | .merge record _ =>
    let (left, failure) := e.validateOne record (.ofOperation .merge)
    ([left], failure)
  | _ => ([], none)

def withRecords : Call → List Record → Call
  | .insert _ returning, left => .insert left returning
  | .update _ id, [left] => .update left id
  | .merge _ id, [left] => .merge left id
  | c, _ => c

def appended (e : Entity) (modes : MatchModes) (c : Call) : Option Statement :=
  match c.validated e with
  | (left, none) => (e.statement modes (c.withRecords left)).toOption
  | (_, some _) => none

end Call

inductive Logs {ε : Type} (e : Entity) (modes : MatchModes) (database : Database ε) (c : Call) :
    Option Statement → Except (Failure ε) (List Json) → Prop where
  | unfit (fault : ValidationError) (refused : (c.validated e).2 = some fault) :
      Logs e modes database c none (.error (.refused (.validation fault)))
  | unbuilt (fault : QueryError) (accepted : (c.validated e).2 = none)
      (failed : e.statement modes (c.withRecords (c.validated e).1) = .error fault) :
      Logs e modes database c none (.error (.refused fault))
  | sent (s : Statement) (accepted : (c.validated e).2 = none)
      (built : e.statement modes (c.withRecords (c.validated e).1) = .ok s) :
      Logs e modes database c (some s) ((database s).mapError .database)

theorem plan_validated (e : Entity) (modes : MatchModes) (c : Call) :
    e.plan modes c = .ofValidation (c.validated e).1 (c.validated e).2
      (e.statement modes (c.withRecords (c.validated e).1)) := by
  cases c <;> rfl

theorem mapError_error_iff {ε δ α : Type} {outcome : Except ε α} {f : ε → δ} {fault : δ} :
    outcome.mapError f = .error fault ↔ ∃ cause, outcome = .error cause ∧ f cause = fault := by
  cases outcome <;> simp [Except.mapError]

namespace Session

variable {ε : Type}

def run (session : Session) : List (Database ε × Call) → List (Reply ε) × Session
  | [] => ([], session)
  | (database, c) :: rest =>
    let (reply, next) := session.call database c
    let (replies, last) := next.run rest
    (reply :: replies, last)

def append (session : Session) (appended : Option Statement) : Session :=
  { session with sent := session.sent ++ appended.toList }

theorem call_logs (session : Session) (database : Database ε) (c : Call) :
    (session.call database c).2 =
        session.append (c.appended session.entity session.modes) ∧
      (session.call database c).1.records = (c.validated session.entity).1 ∧
      Logs session.entity session.modes database c (c.appended session.entity session.modes)
        (session.call database c).1.rows := by
  have planned := plan_validated session.entity session.modes c
  have outcome := @Logs.sent ε session.entity session.modes database c
  have unbuilt := @Logs.unbuilt ε session.entity session.modes database c
  have unfit := @Logs.unfit ε session.entity session.modes database c
  rw [call, planned, Call.appended]
  generalize c.validated session.entity = judged at outcome unbuilt unfit ⊢
  obtain ⟨left, failure⟩ := judged
  cases failure with
  | some fault => exact ⟨by simp [append, Plan.ofValidation], rfl, unfit fault rfl⟩
  | none =>
      cases building : session.entity.statement session.modes (c.withRecords left) with
      | error fault =>
          simp only [Plan.ofValidation, building]
          exact ⟨by simp [append, Except.toOption], trivial, unbuilt fault rfl building⟩
      | ok s =>
          simp only [Plan.ofValidation, building]
          exact ⟨rfl, trivial, outcome s rfl building⟩

theorem run_append (session : Session) (before after : List (Database ε × Call)) :
    session.run (before ++ after) =
      ((session.run before).1 ++ ((session.run before).2.run after).1,
        ((session.run before).2.run after).2) := by
  induction before generalizing session with
  | nil => rfl
  | cons first rest ih =>
      obtain ⟨database, c⟩ := first
      simp only [List.cons_append, run, ih]

theorem run_logs (session : Session) (calls : List (Database ε × Call)) :
    (session.run calls).2 =
      { session with
        sent := session.sent ++
          calls.filterMap fun (_, c) => c.appended session.entity session.modes } := by
  induction calls generalizing session with
  | nil => simp [run]
  | cons first rest ih =>
      obtain ⟨database, c⟩ := first
      obtain ⟨step, -⟩ := session.call_logs database c
      simp only [run]
      rw [ih, step]
      cases appends : c.appended session.entity session.modes <;>
        simp [append, appends]

theorem logs_none_iff {e : Entity} {modes : MatchModes} {database : Database ε} {c : Call}
    {appended : Option Statement} {rows : Except (Failure ε) (List Json)}
    (logs : Logs e modes database c appended rows) :
    appended = none ↔ ∃ fault, rows = .error (.refused fault) := by
  cases logs with
  | unfit fault => simp
  | unbuilt fault => simp
  | sent s => simp [mapError_error_iff]

theorem logs_failed {e : Entity} {modes : MatchModes} {database : Database ε} {c : Call}
    {appended : Option Statement} {rows : Except (Failure ε) (List Json)}
    (logs : Logs e modes database c appended rows) (fault : ε)
    (failed : rows = .error (.database fault)) :
    ∃ s, appended = some s ∧ database s = .error fault := by
  cases logs with
  | unfit => simp at failed
  | unbuilt => simp at failed
  | sent s =>
      obtain ⟨cause, answer, same⟩ := mapError_error_iff.mp failed
      cases same
      exact ⟨s, rfl, answer⟩

theorem log_discipline (session : Session) (before after : List (Database ε × Call))
    (database : Database ε) (c : Call) :
    let log := fun calls : List (Database ε × Call) =>
      calls.filterMap fun (_, c) => c.appended session.entity session.modes
    let appended := c.appended session.entity session.modes
    let reached := (session.run before).2
    let reply := (reached.call database c).1
    let next := (reached.call database c).2
    session.run (before ++ (database, c) :: after) =
        ((session.run before).1 ++ reply :: (next.run after).1, (next.run after).2) ∧
      reached = { session with sent := session.sent ++ log before } ∧
      next = { session with sent := reached.sent ++ appended.toList } ∧
      (next.run after).2 = { session with sent := next.sent ++ log after } ∧
      reply.records = (c.validated session.entity).1 ∧
      Logs session.entity session.modes database c appended reply.rows ∧
      (appended = none ↔ ∃ fault, reply.rows = .error (.refused fault)) ∧
      ∀ fault, reply.rows = .error (.database fault) →
        ∃ s, appended = some s ∧ database s = .error fault := by
  intro log appended reached reply next
  have left : reached = { session with sent := session.sent ++ log before } :=
    session.run_logs before
  have entity : reached.entity = session.entity := by rw [left]
  have modes : reached.modes = session.modes := by rw [left]
  obtain ⟨appends, records, logs⟩ := reached.call_logs database c
  rw [entity, modes] at appends logs
  rw [entity] at records
  have grown : next = { session with sent := reached.sent ++ appended.toList } := by
    simp only [next, appends, append, entity, modes, appended]
  have last : (next.run after).2 = { session with sent := next.sent ++ log after } := by
    rw [run_logs, grown]
  exact ⟨run_append session before ((database, c) :: after), left, grown, last, records, logs,
    logs_none_iff logs, fun fault => logs_failed logs fault⟩

example :
    let down : Database String := fun _ => .error "down"
    let calls : List (Database String × Call) :=
      [(down, .insert [] none), (down, .delete [.ofCount 7]), (fun _ => .ok [], .delete [])]
    let (replies, last) := (start orders .standard).run calls
    last.sent.map (fun statement => statement.sql.render) =
        ["DELETE FROM \"shop\".\"orders\" WHERE \"id\" = ANY($1)"] ∧
      replies.map (fun reply => reply.rows matches .error (.refused _)) = [true, false, true] := by
  decide +kernel

end Session

end EntitySchema
