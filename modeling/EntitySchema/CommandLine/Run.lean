import EntitySchema.CommandLine.Arguments
import EntitySchema.Entity.Definition
import EntitySchema.Settings
import EntitySchema.Sql.Select

set_option autoImplicit false

namespace EntitySchema.CommandLine

inductive CommandError where
  | unreadable (path : String) (cause : ReadFault)
  | emptyInput (path : String)
  | json (cause : Json.ShapeError)
  | unknownOperation (op : String)
  | settings (cause : SettingsError)
  | schema (cause : SchemaError)
  | validation (cause : ValidationError)
  | query (cause : QueryError)

namespace CommandError

def code : CommandError → String
  | .unreadable _ _ | .emptyInput _ => "ANTITY_CLI_IO_ERROR"
  | .json _ => "ANTITY_CLI_JSON_ERROR"
  | .unknownOperation _ => "ANTITY_CLI_INVALID_ARGUMENT"
  | .settings cause => cause.code
  | .schema cause => cause.code
  | .validation cause => cause.code
  | .query cause => cause.code

def message : CommandError → String
  | .unreadable path cause => "I/O error: " ++ path ++ ": " ++ cause.message
  | .emptyInput path => "I/O error: " ++ path ++ ": empty input"
  | .json cause => "JSON error: " ++ cause.message
  | .unknownOperation op =>
    "Invalid argument: unknown operation " ++ Quoted.encode op ++ ", expected one of: " ++
      String.intercalate ", " (Operation.all.map Operation.name)
  | .settings cause => cause.message
  | .schema cause => cause.message
  | .validation cause => cause.message
  | .query cause => cause.message

def key? : CommandError → Option String
  | .validation cause => cause.key?
  | .query cause => cause.key?
  | _ => none

end CommandError

structure Surroundings where
  file : String → Except ReadFault String
  variableValue : String → Option String

namespace Surroundings

def json (around : Surroundings) (path : String) : Except CommandError Json := do
  let text ← (around.file path).mapError (.unreadable path)
  if Blank.isBlankText text then .error (.emptyInput path)
  match Json.read? text with
  | some value => return value
  | none => .error (.json .malformed)

def entity (around : Surroundings) (settings : Settings) (path : String) :
    Except CommandError Entity := do
  match around.file path with
  | .error cause => .error (.schema (.malformed path (.unreadable cause)))
  | .ok text =>
    let e ← (Entity.parse settings.types path text).mapError .schema
    return e.withLimits settings.sanitizing

def records (around : Surroundings) (path : String) : Except CommandError (List Record) := do
  match Entity.bodyRecords? (← around.json path) with
  | some records => return records
  | none => .error (.validation .noData)

def settings (around : Surroundings) : Option String → Except CommandError Settings
  | none => (Settings.ofVariables around.variableValue).mapError .settings
  | some path =>
    match around.file path with
    | .error cause => .error (.settings (.unreadable cause))
    | .ok text => (Settings.parse text).mapError .settings

end Surroundings

structure Report where
  outcome : Except CommandError Json
  events : List Event

namespace Report

def failed (e : CommandError) (events : List Event) : Report := ⟨.error e, events⟩

def andThen {α : Type} (result : Except CommandError α) (next : α → Report) : Report :=
  match result with
  | .error e => failed e []
  | .ok value => next value

end Report

def recordsData (records : List Record) : Json :=
  .object [("records", .array (records.map .object))]

namespace Command

def run (around : Surroundings) (settings : Settings) (e : Entity) : Command → Report
  | .validate _ path op =>
    match Intent.parse? op with
    | none => .failed (.validation (.invalidVerb op Intent.accepted)) []
    | some intent =>
      .andThen (around.records path) fun records =>
        match e.validate records intent with
        | (_, some cause) => .failed (.validation cause) (e.validateEvents records intent)
        | (cleaned, none) => ⟨.ok (recordsData cleaned), e.validateEvents records intent⟩
  | .normalize _ path =>
    .andThen (around.records path) fun records =>
      ⟨.ok (recordsData (e.normalize records)), e.normalizeEvents records⟩
  | .compile _ path =>
    let read := (around.json path).bind fun value =>
      (Json.readValue SelectRequest.read value).mapError .json
    .andThen read fun request =>
      .andThen ((settings.requests.pageSize request.rows).mapError .query) fun rows =>
        let request := { request with rows := rows }
        let selection := e.select .standard request
        let dropped := selection.dropped.map fun d =>
          Json.object [("field", .string d.field), ("reason", .string d.anomaly.message)]
        ⟨.ok (.object
            [("args", .array selection.args), ("dropped", .array dropped),
             ("sql", .string selection.sql.render)]),
          e.selectEvents .standard request⟩
  | .columns _ name total =>
    match Operation.parse? name with
    | none => .failed (.unknownOperation name) []
    | some op =>
      ⟨.ok (.object
          [("columns", .array ((e.columns op).map .string)),
           ("list", .string (e.columnList op total).render), ("operation", .string op.name),
           ("unsafe", .array (e.unsafeKeys.map .string))]), []⟩

def entityPath : Command → String
  | .validate path _ _ | .normalize path _ | .compile path _ | .columns path _ _ => path

def paths : Command → List String
  | .validate entity records _ | .normalize entity records => [entity, records]
  | .compile entity request => [entity, request]
  | .columns entity _ _ => [entity]

end Command

namespace Invocation

def paths (i : Invocation) : List String := i.config.toList ++ i.command.paths

def run (i : Invocation) (around : Surroundings) : Report :=
  let loaded : List Event := if i.config.isSome then [.configLoaded] else []
  match around.settings i.config with
  | .error e => .failed e []
  | .ok settings =>
    match around.entity settings i.command.entityPath with
    | .error e => .failed e loaded
    | .ok e =>
      let report := i.command.run around settings e
      ⟨report.outcome, loaded ++ .entityBuilt e.name :: report.events⟩

end Invocation

def envelope : Except CommandError Json → Json
  | .ok data => .object [("data", data), ("status", .string "ok")]
  | .error e =>
    .object
      ([("code", .string e.code)] ++ (e.key?.toList.map fun key => ("key", .string key)) ++
        [("message", .string e.message), ("status", .string "error")])

end EntitySchema.CommandLine
