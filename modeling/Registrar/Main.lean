import Registrar.CommandLine.Standard

namespace Registrar.CommandLine

attribute [local instance] Libraries.standard

def namedCharacter? (line : String) : Option (String × Char) :=
  match Text.pieces ';' line with
  | code :: name :: _ => do
    let digits ← code.toList.mapM Text.hexValue?
    return (name, Char.ofNat (digits.foldl (fun value digit ↦ 16 * value + digit) 0))
  | _ => none

def readHost : IO Host := do
  let names ← try
      pure ((← IO.FS.lines "/usr/share/unicode/UnicodeData.txt").toList.filterMap namedCharacter?)
    catch _ => pure []
  return { Host.bare with characterNamed? name := names.lookup name.toUpper }

/-- Why a file was not read. What is no directory is refused on opening, what is one on reading, and
only the opening names the file. -/
def refusalOf : IO.Error → Files.Refusal
  | .noFileOrDirectory .. => .notFound
  | .inappropriateType (some _) .. => .notADirectory
  | .inappropriateType none .. => .isADirectory
  | .resourceExhausted .. | .invalidArgument .. => .nameTooLong
  | _ => .notPermitted

def checkedPath? (configFile : Option String) (arguments : List String) : Option String :=
  match Command.read ⟨configFile, fun _ ↦ true⟩ arguments with
  | .error (.usage (.unreadable path)) => some path
  | _ => none

def readEnvironment (arguments : List String) : IO Environment := do
  let configFile ← IO.getEnv "CATREG_CONFIG"
  match checkedPath? configFile arguments with
  | none => return ⟨configFile, fun _ ↦ false⟩
  | some path =>
    let refused ← try
        discard (IO.FS.Handle.mk path .read)
        pure false
      catch error => pure (refusalOf error = .notPermitted)
    return ⟨configFile, fun other ↦ refused && other = path⟩

def sourceOf : Option Files.Path → IO Files.Source
  | none => return fun _ ↦ .error .notFound
  | some path => do
    match ← (IO.FS.readBinFile path.render).toBaseIO with
    | .ok bytes => return fun _ ↦ .ok bytes.toList
    | .error error => return fun _ ↦ .error (refusalOf error)

def asksForPolicy [Host] (environment : Environment) (files : Files.Source)
    (arguments : List String) : Bool :=
  match Command.read environment arguments with
  | .ok (_, .plan request) =>
    match (request.configuration files).outcome with
    | .ok config => request.policyName config = none
    | .error _ => false
  | _ => false

def keysOf (line : String) : List Key :=
  if line = "" then [.cancel]
  else line.toList.filterMap fun
    | 'j' => some .down
    | 'k' => some .up
    | '\n' => some .enter
    | _ => none

def readPrompt (names : List String) (asked : Bool) : IO (Option Prompt) := do
  let input ← IO.getStdin
  if !(← input.isTty) then return none
  if !asked || names = [] then return some (.ofKeys [])
  IO.println "Select a registration policy (j and k move, Enter chooses):"
  names.forM fun name ↦ IO.println s!"  {name}"
  return some (.ofKeys (keysOf (← input.getLine)))

def execute [Host] (arguments : List String) : IO UInt32 := do
  let environment ← readEnvironment arguments
  let files ← sourceOf (fileToRead environment arguments)
  let registry := Registry.default
  let prompt ← readPrompt registry.names (asksForPolicy environment files arguments)
  let outcome := run ⟨environment, files, registry, prompt⟩ arguments
  outcome.events.forM fun event ↦ IO.eprintln s!"DEBUG {event.message}"
  IO.print outcome.output
  IO.eprint outcome.complaint
  if let some crash := outcome.crash then IO.eprintln crash.message
  return outcome.exitCode.toUInt32

end Registrar.CommandLine

open Registrar in
def main (arguments : List String) : IO UInt32 := do
  let host ← CommandLine.readHost
  @CommandLine.execute host arguments
