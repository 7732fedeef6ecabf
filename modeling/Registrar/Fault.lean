import Registrar.Configuration.Error
import Registrar.Text.Utf8

namespace Registrar

inductive Foreign
  | null
  | boolean
  | integer
  | float
  | list
  | mapping
  deriving DecidableEq, Repr

def Foreign.name : Foreign → String
  | null => "NoneType"
  | boolean => "bool"
  | integer => "int"
  | float => "float"
  | list => "list"
  | mapping => "dict"

inductive RaisedKind
  | value
  | key
  | runtime
  | other (name : String)
  deriving DecidableEq, Repr

inductive Fault
  | configuration (e : ConfigurationError)
  | invalidIdentifier (name : String)
  | invalidAffixed (name prefixKey suffixKey : String)
  | noParent (location : String)
  | unknownPolicy (name : String) (registered : List String)
  | policyFailed (name : String) (cause : Fault)
  | notAPolicy (name kind : String)
  | noConfiguration
  | noName
  | blankPolicyName
  | takenPolicyName (name : String)
  | nulInPath
  | integerTooLong (digits : Nat)
  | pattern (e : Pattern.Error)
  | notAPath (kind : Foreign)
  | readOnly
  | absentKey (key : String)
  | noFirstGroup
  | undecodable (e : Text.Utf8Error)
  | raised (kind : RaisedKind) (text : String)
  deriving DecidableEq, Repr

namespace Fault

def message : Fault → String
  | configuration e => e.message
  | invalidIdentifier name => s!"{name} is not a valid database or table name"
  | invalidAffixed name prefixKey suffixKey =>
    s!"{name} is not a valid database or table name (check {prefixKey} and {suffixKey})"
  | noParent location => s!"Path {location} has no parent directory"
  | unknownPolicy name registered =>
    let known := Text.join ", " registered
    s!"Unable to instantiate RegistrationPolicy with type {name}: " ++
      s!"unknown policy (registered: {known})"
  | policyFailed name cause =>
    s!"Unable to instantiate RegistrationPolicy with type {name}: {cause.message}"
  | notAPolicy name kind =>
    s!"Unable to instantiate RegistrationPolicy with type {name}: factory returned {kind}"
  | noConfiguration => "Registration configuration must not be None"
  | noName => "name must not be None"
  | blankPolicyName => "Policy name must not be empty"
  | takenPolicyName name => s!"Policy '{name}' is already registered"
  | nulInPath => "embedded null byte"
  | integerTooLong digits => Text.tooManyDigits digits
  | pattern e => e.message
  | notAPath kind => s!"expected str, bytes or os.PathLike object, not {kind.name}"
  | readOnly => "'RegistrationConfig' object does not support item assignment"
  | absentKey key => Text.quoted key
  | noFirstGroup => "no such group"
  | undecodable e => e.message
  | raised .key text => Text.quoted text
  | raised _ text => text

/-- Whether a fault says that a path cannot be registered as things are. -/
def isRegistration : Fault → Bool
  | configuration _ | invalidIdentifier _ | invalidAffixed .. | noParent _ | unknownPolicy ..
  | policyFailed .. | notAPolicy .. => true
  | _ => false

def isConfiguration : Fault → Bool
  | configuration _ => true
  | _ => false

def resolution? : Fault → Option (String × Option Fault)
  | unknownPolicy name _ | notAPolicy name _ => some (name, none)
  | policyFailed name cause => some (name, some cause)
  | _ => none

end Fault

instance : MonadLift (Except ConfigurationError) (Except Fault) where
  monadLift outcome := outcome.mapError .configuration

/-- A pattern that stands under a key. A malformed one is a fault of the configuration. -/
def Pattern.Error.under (key : String) : Pattern.Error → Fault
  | .malformed source reason position =>
    .configuration (.malformedPattern key source reason position)
  | e => .pattern e

inductive Event
  | loaded (count : Nat) (path : String)
  | sanitized (key name replaced : String)
  | resolvingPolicy (name : String)
  | resolved (path table : String) (partition : Option String)
  deriving DecidableEq, Repr

def Event.message : Event → String
  | loaded count path => s!"Loaded {count} properties from {path}"
  | sanitized key name replaced => s!"Sanitized {key} name '{name}' -> '{replaced}'"
  | resolvingPolicy name => s!"Resolving registration policy '{name}'"
  | resolved path table partition =>
    let tail := match partition with
      | some spec => s!" [{spec}]"
      | none => ""
    s!"Resolved {path} -> {table}{tail}"

structure Trace (α : Type) where
  events : List Event
  outcome : Except Fault α

namespace Trace

variable {α β : Type}

def ofExcept (outcome : Except Fault α) : Trace α := ⟨[], outcome⟩

def bind (trace : Trace α) (f : α → Trace β) : Trace β :=
  match trace.outcome with
  | .ok a =>
    let next := f a
    ⟨trace.events ++ next.events, next.outcome⟩
  | .error e => ⟨trace.events, .error e⟩

instance : Monad Trace where
  pure a := ⟨[], .ok a⟩
  bind := bind

instance : MonadLift (Except Fault) Trace where
  monadLift := ofExcept

instance : MonadLift (Except ConfigurationError) Trace where
  monadLift outcome := ofExcept (outcome.mapError .configuration)

def fail (fault : Fault) : Trace α := ⟨[], .error fault⟩

def record (event : Event) : Trace Unit := ⟨[event], .ok ()⟩

end Trace

end Registrar
