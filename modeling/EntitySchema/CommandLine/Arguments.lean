/-!
# Arguments of the command line

A command line names a command and its options. An option is written `--name value` or
`--name=value`, once at most; `--config` may stand before the command and behind it, and the later
one counts. The first fault ends the reading. An option that waits for its value is looked at when
the next one begins, or at the end.
-/

set_option autoImplicit false

namespace EntitySchema.CommandLine

inductive UsageError where
  | helpAsked
  | versionAsked
  | nothingAsked
  | missingCommand
  | unknownCommand
  | missingOption
  | unknownArgument
  | missingValue
  | superfluousValue
  | repeatedOption
deriving DecidableEq

inductive Command where
  | validate (entity records op : String)
  | normalize (entity records : String)
  | compile (entity request : String)
  | columns (entity op : String) (total : Bool)
deriving DecidableEq

structure Invocation where
  config : Option String
  command : Command
deriving DecidableEq

inductive Operand where
  | path
  | text
  | none
  | help
  | version
deriving DecidableEq

def Operand.isValue : Operand → Bool
  | .path | .text => true
  | .none | .help | .version => false

structure Switch where
  name : String
  operand : Operand
deriving DecidableEq

structure Scan where
  values : List (String × String)
  pending : Option (Switch × Option String)
  closed : Bool
deriving DecidableEq

namespace Scan

def start : Scan := ⟨[], none, false⟩

def value? (scan : Scan) (name : String) : Option String := scan.values.lookup name

def awaitsValue (scan : Scan) : Bool := !scan.closed && scan.pending.any (·.2.isNone)

def store (scan : Scan) (switch : Switch) (value : String) : Except UsageError Scan :=
  if (scan.value? switch.name).isSome then .error .repeatedOption
  else if switch.operand = .path ∧ value = "" then .error .missingValue
  else .ok { scan with values := (switch.name, value) :: scan.values }

def settle (scan : Scan) : Except UsageError Scan :=
  match scan.pending with
  | none => .ok scan
  | some (_, none) => .error .missingValue
  | some (switch, some value) => { scan with pending := none }.store switch value

def flip (scan : Scan) (switch : Switch) : Except UsageError Scan := do
  let scan ← scan.settle
  match switch.operand with
  | .help => .error .helpAsked
  | .version => .error .versionAsked
  | _ => scan.store switch ""

def long (switches : List Switch) (name : String) (attached : Option String) (scan : Scan) :
    Except UsageError Scan :=
  match switches.find? (·.name == name) with
  | none => .error .unknownArgument
  | some switch =>
    match switch.operand.isValue, attached with
    | true, some value => do (← scan.settle).store switch value
    | true, none => do return { ← scan.settle with pending := some (switch, none) }
    | false, some _ => .error .superfluousValue
    | false, none => scan.flip switch

def short (switches : List Switch) (letter : Char) (scan : Scan) : Except UsageError Scan :=
  let named (operand : Operand) : Except UsageError Scan :=
    match switches.find? (·.operand == operand) with
    | some switch => scan.flip switch
    | none => .error .unknownArgument
  if letter = 'h' then named .help
  else if letter = 'V' then named .version
  else .error .unknownArgument

def splitEquals (chars : List Char) : String × Option String :=
  match chars.span (· != '=') with
  | (name, _ :: rest) => (String.ofList name, some (String.ofList rest))
  | (name, []) => (String.ofList name, none)

def step (switches : List Switch) (stray : UsageError) (scan : Scan) (argument : String) :
    Except UsageError Scan :=
  let operand : Except UsageError Scan :=
    match scan.pending with
    | some (switch, none) => .ok { scan with pending := some (switch, some argument) }
    | _ => .error stray
  if scan.closed then .error stray
  else match argument.toList with
    | ['-', '-'] => .ok { scan with closed := true }
    | '-' :: '-' :: rest =>
      let (name, attached) := splitEquals rest
      scan.long switches name attached
    | '-' :: letter :: _ => scan.short switches letter
    | _ => operand

end Scan

def configSwitch : Switch := ⟨"config", .path⟩
def helpSwitch : Switch := ⟨"help", .help⟩
def versionSwitch : Switch := ⟨"version", .version⟩

inductive CommandName where
  | validate
  | normalize
  | compile
  | columns
deriving DecidableEq

namespace CommandName

def all : List CommandName := [.validate, .normalize, .compile, .columns]

def text : CommandName → String
  | .validate => "validate"
  | .normalize => "normalize"
  | .compile => "compile"
  | .columns => "columns"

def parse? (s : String) : Option CommandName := all.find? fun name => name.text == s

def switches (name : CommandName) : List Switch :=
  configSwitch :: helpSwitch :: ⟨"entity", .path⟩ ::
    match name with
    | .validate => [⟨"records", .path⟩, ⟨"op", .text⟩]
    | .normalize => [⟨"records", .path⟩]
    | .compile => [⟨"request", .path⟩]
    | .columns => [⟨"op", .text⟩, ⟨"total", .none⟩]

def command? (name : CommandName) (scan : Scan) : Option Command := do
  let entity ← scan.value? "entity"
  match name with
  | .validate => return .validate entity (← scan.value? "records") ((scan.value? "op").getD "insert")
  | .normalize => return .normalize entity (← scan.value? "records")
  | .compile => return .compile entity (← scan.value? "request")
  | .columns => return .columns entity (← scan.value? "op") (scan.value? "total").isSome

end CommandName

namespace Invocation

def isCommand (argument : String) : Bool := argument == "help" || (CommandName.parse? argument).isSome

def helpOn : List String → UsageError
  | [] => .helpAsked
  | [argument] => if isCommand argument then .helpAsked else .unknownCommand
  | _ => .unknownCommand

def ofCommand (outer : Scan) (name : CommandName) (arguments : List String) :
    Except UsageError Invocation := do
  let scan ← arguments.foldlM (Scan.step name.switches .unknownArgument) .start
  let scan ← scan.settle
  match name.command? scan with
  | none => .error .missingOption
  | some command =>
    let outer ← outer.settle
    return ⟨scan.value? "config" <|> outer.value? "config", command⟩

def ofScan (scan : Scan) : List String → Except UsageError Invocation
  | [] => do
    let scan ← scan.settle
    .error (if scan.values.isEmpty then .nothingAsked else .missingCommand)
  | argument :: rest =>
    if !scan.closed && !scan.awaitsValue && isCommand argument then
      match CommandName.parse? argument with
      | some name => ofCommand scan name rest
      | none => .error (helpOn rest)
    else do
      let stray := if scan.closed && isCommand argument then .unknownArgument else .unknownCommand
      ofScan (← scan.step [configSwitch, helpSwitch, versionSwitch] stray argument) rest

def parse (arguments : List String) : Except UsageError Invocation := ofScan .start arguments

end Invocation

end EntitySchema.CommandLine
