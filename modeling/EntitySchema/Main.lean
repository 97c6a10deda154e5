import EntitySchema.CommandLine.Run
import EntitySchema.Json.Writer

set_option autoImplicit false

namespace EntitySchema.CommandLine

def usage : String :=
  "Usage: entity-schema [--config <path>] <command>\n\n" ++
  "Commands:\n" ++
  "  validate --entity <path> --records <path> [--op <operation or verb>]\n" ++
  "  normalize --entity <path> --records <path>\n" ++
  "  compile --entity <path> --request <path>\n" ++
  "  columns --entity <path> --op <operation> [--total]\n"

def version : String := "entity-schema 0.1.0"

def UsageError.message : UsageError → String
  | .helpAsked | .nothingAsked => usage
  | .versionAsked => version
  | .missingCommand => "a command is required"
  | .unknownCommand => "there is no such command"
  | .missingOption => "a required option is missing"
  | .unknownArgument => "there is an argument that the command does not take"
  | .missingValue => "an option lacks its value"
  | .superfluousValue => "an option that takes no value has one"
  | .repeatedOption => "an option is given twice"

def readFault : IO.Error → ReadFault
  | .noFileOrDirectory _ _ _ => .absent
  | .permissionDenied _ _ _ => .forbidden
  | .inappropriateType _ 20 _ => .notDirectory
  | .inappropriateType _ _ _ => .directory
  | _ => .notText

def readFile (path : String) : IO (Except ReadFault String) := do
  try
    return .ok (← IO.FS.readFile path)
  catch e =>
    return .error (readFault e)

def surroundings (i : Invocation) : IO Surroundings := do
  let files ← i.paths.mapM fun path => return (path, ← readFile path)
  let environment ← Settings.Variable.all.mapM fun v => return (v.name, ← IO.getEnv v.name)
  return {
    file := fun path => (files.lookup path).getD (.error .absent)
    variableValue := fun name => (environment.lookup name).getD none }

def runUsage (e : UsageError) : IO UInt32 := do
  match e with
  | .helpAsked | .versionAsked =>
    IO.println e.message
    return 0
  | _ =>
    IO.eprintln e.message
    return 2

def runInvocation (i : Invocation) : IO UInt32 := do
  let report := i.run (← surroundings i)
  IO.println (envelope report.outcome).text
  match report.outcome with
  | .ok _ => return 0
  | .error e =>
    IO.eprintln (e.code ++ ": " ++ e.message)
    return 1

end EntitySchema.CommandLine

def main (arguments : List String) : IO UInt32 :=
  match EntitySchema.CommandLine.Invocation.parse arguments with
  | .ok i => EntitySchema.CommandLine.runInvocation i
  | .error e => EntitySchema.CommandLine.runUsage e
