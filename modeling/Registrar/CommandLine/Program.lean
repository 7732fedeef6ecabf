import Registrar.CommandLine.Report
import Registrar.Configuration.Basic
import Registrar.Registry

namespace Registrar.CommandLine

variable [Host]

class Libraries extends OptionReader, Console, CatalogClient

inductive Choice
  | picked (name : String)
  | cancelled (notice : String)
  | nothing
  deriving DecidableEq, Repr

abbrev Prompt := List String → Choice

/-- The choice among names; without names nobody is asked, and an empty name does not count. -/
def Prompt.choose (prompt : Prompt) (names : List String) : Choice :=
  if names = [] then .nothing
  else match prompt names with
    | .picked "" => .nothing
    | choice => choice

structure Surroundings where
  environment : Environment
  files : Files.Source
  registry : Registry
  prompt : Option Prompt

inductive Crash
  | fault (fault : Fault)
  | markup (error : Console.MarkupError)
  deriving DecidableEq, Repr

def Crash.message : Crash → String
  | fault cause => cause.message
  | markup error => error.message

structure Outcome where
  exitCode : Nat
  output : String
  complaint : String
  events : List Event
  crash : Option Crash

namespace Outcome

def finish (exitCode : Nat) (output : String) : Outcome := ⟨exitCode, output, "", [], none⟩

def crashed (crash : Crash) : Outcome := ⟨1, "", "", [], some crash⟩

def configurationCode : Nat := 2

/-- A run that a fault ends. Faults of registration are reported, others are not expected. -/
def ofFault [Console] (fault : Fault) : Outcome :=
  if fault.isRegistration then
    finish (if fault.isConfiguration then configurationCode else 1)
      (Message.failure fault.message)
  else crashed (.fault fault)

def ofTrace [Console] {α : Type} (trace : Trace α) (next : α → Outcome) : Outcome :=
  let outcome := match trace.outcome with
    | .ok a => next a
    | .error fault => ofFault fault
  { outcome with events := trace.events ++ outcome.events }

def ofStop [OptionReader] : Stop → Outcome
  | .help topic => finish 0 (OptionReader.page topic.purpose)
  | .usage error => { finish 2 "" with complaint := s!"Error: {error.message}\n" }
  | .fault fault => crashed (.fault fault)

end Outcome

namespace PlanRequest

variable [Libraries]

def configuration (request : PlanRequest) (files : Files.Source) : Trace Configuration := do
  let config ← match request.configFile with
    | some path => Configuration.load files path
    | none => pure .empty
  let overrides ← PropertyText.parseOverrides request.overrides
  return config.withOverrides (Configuration.toSettings ⟨overrides⟩)

/-- The name of the policy that a request or else the configuration gives. Empty ones are none. -/
def policyName (request : PlanRequest) (config : Configuration) : Option String :=
  (request.policy.filter (· ≠ "")).orElse fun _ ↦ (config.get? Key.policy).filter (· ≠ "")

def report (request : PlanRequest) (name : String) (results : List PlanResult) : String :=
  if request.json then jsonLine (planJson request.catalog results)
  else
    let failed := results.countP (!·.ok)
    planHeader name request.configFile results.length ++ Console.table (planGrid results) ++
      if failed = 0 then Message.success s!"Resolved {results.length} path(s)."
      else Message.failure s!"Failed to resolve {failed} path(s)."

def runNamed (request : PlanRequest) (registry : Registry) (config : Configuration)
    (name : String) : Outcome :=
  let config := config.withOverrides (.ofList [(Key.policy, some (.text name))])
  Outcome.ofTrace (registry.policyFor config) fun policy ↦
    Outcome.ofTrace (policy.plan (request.paths.map .text)) fun results ↦
      .finish (if results.all (·.ok) then 0 else 1) (request.report name results)

def nameNeeded : String :=
  (ConfigurationError.missing .policy).message ++
    s!". Use --policy or --set {Key.policy}=<name>."

def run (request : PlanRequest) (surroundings : Surroundings) : Outcome :=
  Outcome.ofTrace (request.configuration surroundings.files) fun config ↦
    match request.policyName config, surroundings.prompt with
    | some name, _ => request.runNamed surroundings.registry config name
    | none, none => .finish Outcome.configurationCode (Message.failure nameNeeded)
    | none, some prompt =>
      let unpicked := Message.warning "No policy selected."
      match prompt.choose surroundings.registry.names with
      | .picked name => request.runNamed surroundings.registry config name
      | .cancelled notice => .finish 0 (notice ++ unpicked)
      | .nothing => .finish 0 unpicked

end PlanRequest

variable [Libraries]

def CheckRequest.run (request : CheckRequest) : Outcome :=
  let checks := request.names.map Identifier.check
  let refused := checks.countP fun check ↦ !check.accepts request.sanitizing
  let output :=
    if request.json then jsonLine (checksJson checks)
    else Console.table (checkGrid checks) ++
      if refused = 0 then "" else Message.failure s!"{refused} invalid name(s)."
  .finish (if refused = 0 then 0 else 1) output

def listPolicies (registry : Registry) (json : Bool) : Outcome :=
  if json then .finish 0 (jsonLine (namesJson registry.names))
  else match namesGrid registry.names with
    | .ok grid => .finish 0 (Console.table grid)
    | .error error => .crashed (.markup error)

def Command.run (surroundings : Surroundings) : Command → Outcome
  | listPolicies json => CommandLine.listPolicies surroundings.registry json
  | plan request => request.run surroundings
  | checkNames request => request.run

/-- Runs the program. What it does is recorded if it is asked to say so. -/
def run (surroundings : Surroundings) (arguments : List String) : Outcome :=
  match Command.read surroundings.environment arguments with
  | .error stop => .ofStop stop
  | .ok (verbose, command) =>
    let outcome := command.run surroundings
    if verbose then outcome else { outcome with events := [] }

def fileToRead (environment : Environment) (arguments : List String) : Option Files.Path :=
  match Command.read environment arguments with
  | .ok (_, .plan request) => request.configFile
  | _ => none

end Registrar.CommandLine
