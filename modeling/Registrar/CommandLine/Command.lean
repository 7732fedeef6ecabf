import Registrar.CommandLine.Options
import Registrar.Fault
import Registrar.Files

namespace Registrar.CommandLine

structure PlanRequest where
  configFile : Option Files.Path
  overrides : List String
  policy : Option String
  catalog : Option String
  json : Bool
  paths : List String

structure CheckRequest where
  sanitizing : Bool
  json : Bool
  names : List String

inductive Command
  | listPolicies (json : Bool)
  | plan (request : PlanRequest)
  | checkNames (request : CheckRequest)

inductive Topic
  | program
  | policy
  | policyList
  | policyPlan
  | names
  | namesCheck
  deriving DecidableEq, Repr

def Topic.purpose : Topic → String
  | program => "catreg - catalog registration policy tooling"
  | policy => "Resolve policies and preview registration specs."
  | policyList => "List registered policy names."
  | policyPlan => "Preview the registration specs a policy produces for each path."
  | names => "Check database and table names."
  | namesCheck => "Check names against catalog naming rules."

inductive Stop
  | help (topic : Topic)
  | usage (error : UsageError)
  | fault (fault : Fault)
  deriving DecidableEq, Repr

/-- What the system tells a program that is started: the configuration file that is named for it,
and which files are there but may not be read. -/
structure Environment where
  configFile : Option String
  unreadable : String → Bool

def readOn [OptionReader] {α : Type} (topic : Topic) (rules : List (Rule α)) (placement : Placement)
    (settings : α) (arguments : List String) : Except Stop (Reading α) := do
  let reading ← (OptionReader.read rules placement settings arguments).mapError .usage
  if reading.help then throw (.help topic)
  return reading

/-- Why operands start with no command. They are read once more, as one of them may be an option
that was taken for a command. -/
def notACommand {β : Type} (read : List String → Except Stop β) (operands : List String) : Stop :=
  match read operands, operands with
  | .error stop, _ => stop
  | .ok _, [] => .usage .noCommand
  | .ok _, name :: _ => .usage (.unknownCommand name)

namespace Command

variable [OptionReader]

section Plan

def jsonRule {α : Type} (update : α → α) : Rule α := ⟨["--json"], .flag update⟩

def planRules : List (Rule PlanRequest) :=
  [⟨["--policy", "-p"], .valued fun name request ↦ { request with policy := some name }⟩,
   ⟨["--catalog"], .valued fun name request ↦ { request with catalog := some name }⟩,
   jsonRule fun request ↦ { request with json := true }]

def readPlan (request : PlanRequest) (arguments : List String) : Except Stop Command := do
  let reading ← readOn .policyPlan planRules .anywhere request arguments
  if reading.operands = [] then throw (.usage (.absentOperand "PATHS..."))
  return .plan { reading.settings with paths := reading.operands }

def readList (arguments : List String) : Except Stop Command := do
  let rules := [jsonRule fun _ ↦ true]
  let reading ← readOn .policyList rules .anywhere false arguments
  match reading.operands with
  | [] => return .listPolicies reading.settings
  | operand :: _ => throw (.usage (.extraOperand operand))

structure PolicySettings where
  configFile : Option String
  overrides : List String

def policyRules : List (Rule PolicySettings) :=
  [⟨["--config", "-c"], .valued fun path settings ↦ { settings with configFile := some path }⟩,
   ⟨["--set", "-s"], .valued fun item settings ↦
      { settings with overrides := settings.overrides ++ [item] }⟩]

/-- Refuses a path with a NUL, and one whose file is there but may not be read. -/
def checkPath (environment : Environment) (path : String) : Except Stop Unit := do
  if path.toList.contains '\x00' then throw (.fault .nulInPath)
  if environment.unreadable path then throw (.usage (.unreadable path))

/-- Reads the options of the group `policy`. Of several configuration files the last one counts. -/
def readPolicyOptions (environment : Environment) (arguments : List String) :
    Except Stop (Reading PolicySettings) := do
  -- An empty name in the environment counts as none.
  let settings : PolicySettings := ⟨environment.configFile.filter (· ≠ ""), []⟩
  let reading ← readOn .policy policyRules .first settings arguments
  reading.settings.configFile.forM (checkPath environment)
  return reading

def readPolicy (environment : Environment) (arguments : List String) : Except Stop Command := do
  let reading ← readPolicyOptions environment arguments
  match reading.operands with
  | [] => throw (.help .policy)
  | "list" :: rest => readList rest
  | "plan" :: rest =>
    readPlan {
      configFile := reading.settings.configFile.map Files.Path.ofText
      overrides := reading.settings.overrides
      policy := none
      catalog := none
      json := false
      paths := [] } rest
  | operands => throw (notACommand (readPolicyOptions environment) operands)

end Plan

section Names

def checkRules : List (Rule CheckRequest) :=
  [⟨["--sanitize"], .flag fun request ↦ { request with sanitizing := true }⟩,
   ⟨["--no-sanitize"], .flag fun request ↦ { request with sanitizing := false }⟩,
   jsonRule fun request ↦ { request with json := true }]

def readCheck (arguments : List String) : Except Stop Command := do
  let reading ← readOn .namesCheck checkRules .anywhere ⟨true, false, []⟩ arguments
  if reading.operands = [] then throw (.usage (.absentOperand "NAMES..."))
  return .checkNames { reading.settings with names := reading.operands }

def readNamesOptions (arguments : List String) : Except Stop (Reading Unit) :=
  readOn .names [] .first () arguments

def readNames (arguments : List String) : Except Stop Command := do
  if arguments = [] then throw (.usage .noArguments)
  let reading ← readNamesOptions arguments
  match reading.operands with
  | "check" :: rest => readCheck rest
  | operands => throw (notACommand readNamesOptions operands)

end Names

def programRules : List (Rule Bool) := [⟨["--verbose", "-v"], .flag fun _ ↦ true⟩]

def readProgramOptions (arguments : List String) : Except Stop (Reading Bool) :=
  readOn .program programRules .first false arguments

def read (environment : Environment) (arguments : List String) : Except Stop (Bool × Command) := do
  if arguments = [] then throw (.usage .noArguments)
  let reading ← readProgramOptions arguments
  let command ← match reading.operands with
    | "policy" :: rest => readPolicy environment rest
    | "names" :: rest => readNames rest
    | operands => throw (notACommand readProgramOptions operands)
  return (reading.settings, command)

end Command

end Registrar.CommandLine
