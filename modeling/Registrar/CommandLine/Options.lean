import Registrar.Text.Basic

namespace Registrar.CommandLine

inductive UsageError
  | unknownOption (name : String)
  | absentValue (name : String)
  | unwantedValue (name : String)
  | noArguments
  | noCommand
  | unknownCommand (name : String)
  | absentOperand (name : String)
  | extraOperand (operand : String)
  | unreadable (path : String)
  deriving DecidableEq, Repr

def UsageError.message : UsageError → String
  | unknownOption name => s!"No such option: {name}"
  | absentValue name => s!"Option '{name}' requires an argument."
  | unwantedValue name => s!"Option '{name}' does not take a value."
  | noArguments | noCommand => "Missing command."
  | unknownCommand name => s!"No such command '{name}'."
  | absentOperand name => s!"Missing argument '{name}'."
  | extraOperand operand => s!"Got unexpected extra argument ({operand})"
  | unreadable path => s!"Invalid value for '--config' / '-c': Path '{path}' is not readable."

inductive Effect (α : Type)
  | help
  | flag (update : α → α)
  | valued (update : String → α → α)

/-- An option with its names, `--name` the long ones and `-n` the short ones. -/
structure Rule (α : Type) where
  names : List String
  effect : Effect α

def Rule.help {α : Type} : Rule α := ⟨["--help"], .help⟩

inductive Placement
  | anywhere
  | first
  deriving DecidableEq, Repr

structure Reading (α : Type) where
  settings : α
  help : Bool
  operands : List String

/-- What reads the options of a command. -/
class OptionReader where
  /-- Reads arguments on top of settings, by rules for options beside the one that asks for help. -/
  read {α : Type} (rules : List (Rule α)) (placement : Placement) (settings : α)
    (arguments : List String) : Except UsageError (Reading α)
  page : String → String

structure Pending (α : Type) where
  name : String
  update : String → α → α

namespace Reading

variable {α : Type}

def ofSettings (settings : α) : Reading α := ⟨settings, false, []⟩

def update (reading : Reading α) (f : α → α) : Reading α :=
  { reading with settings := f reading.settings }

/-- Reads a cluster of short options. The first one that wants a value takes the rest of it. -/
def cluster (rules : List (Rule α)) (reading : Reading α) :
    List Char → Except UsageError (Reading α × Option (Pending α))
  | [] => .ok (reading, none)
  | c :: rest =>
    let name := String.ofList ['-', c]
    match rules.find? (·.names.contains name) with
    | none => .error (.unknownOption name)
    | some ⟨_, .help⟩ => cluster rules { reading with help := true } rest
    | some ⟨_, .flag f⟩ => cluster rules (reading.update f) rest
    | some ⟨_, .valued f⟩ =>
      if rest = [] then .ok (reading, some ⟨name, f⟩)
      else .ok (reading.update (f (String.ofList rest)), none)

def isLong (name : String) : Bool := "--".toList.isPrefixOf name.toList

def option (rules : List (Rule α)) (reading : Reading α) (argument : String) :
    Except UsageError (Reading α × Option (Pending α)) :=
  let (name, value?) := match Text.cut? '=' argument with
    | some (name, value) => (name, some value)
    | none => (argument, none)
  if !isLong argument then cluster rules reading (argument.toList.drop 1)
  else match rules.find? (·.names.contains name), value? with
    | none, _ => .error (.unknownOption name)
    | some ⟨_, .valued f⟩, some value => .ok (reading.update (f value), none)
    | some ⟨_, .valued f⟩, none => .ok (reading, some ⟨name, f⟩)
    | some _, some _ => .error (.unwantedValue name)
    | some ⟨_, .help⟩, none => .ok ({ reading with help := true }, none)
    | some ⟨_, .flag f⟩, none => .ok (reading.update f, none)

def isOption (argument : String) : Bool :=
  match argument.toList with
  | '-' :: _ :: _ => true
  | _ => false

/-- Reads arguments, the first of which is the value of an option that waits for it, if one does. -/
def readFrom (rules : List (Rule α)) (placement : Placement) (reading : Reading α) :
    Option (Pending α) → List String → Except UsageError (Reading α)
  | some pending, [] => .error (.absentValue pending.name)
  | none, [] => .ok reading
  | some pending, argument :: rest =>
    readFrom rules placement (reading.update (pending.update argument)) none rest
  | none, argument :: rest =>
    if argument = "--" then .ok { reading with operands := reading.operands ++ rest }
    else if isOption argument then do
      let (reading, pending) ← option rules reading argument
      readFrom rules placement reading pending rest
    else
      let taken := { reading with operands := reading.operands ++ [argument] }
      match placement with
      | .anywhere => readFrom rules placement taken none rest
      | .first => .ok { taken with operands := taken.operands ++ rest }

def read (rules : List (Rule α)) (placement : Placement) (settings : α)
    (arguments : List String) : Except UsageError (Reading α) :=
  readFrom (.help :: rules) placement (ofSettings settings) none arguments

end Reading

end Registrar.CommandLine
