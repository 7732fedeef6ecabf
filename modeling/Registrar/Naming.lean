import Registrar.Configuration.Basic
import Registrar.Fault
import Registrar.Pattern.Basic
import Registrar.Text.Basic

namespace Registrar.Identifier

def isDigit (c : Char) : Bool := '0' ≤ c && c ≤ '9'

def isLead (c : Char) : Bool := ('a' ≤ c && c ≤ 'z') || isDigit c

def isPart (c : Char) : Bool := isLead c || c = '_'

def isIdentifierChars : List Char → Bool
  | [] => false
  | c :: rest => isLead c && rest.all isPart && (c :: rest).any (!isDigit ·)

def isIdentifier (text : String) : Bool := isIdentifierChars text.toList

def isValid (name : String) : Bool := isIdentifier (Text.lower name)

def isKept (c : Char) : Bool := isPart c || ('A' ≤ c && c ≤ 'Z')

/-- Replaces every character other than an ASCII letter, a digit or an underscore by an
underscore. -/
def sanitize (name : String) : String :=
  String.ofList (name.toList.map fun c ↦ if isKept c then c else '_')

structure Check where
  name : String
  valid : Bool
  sanitized : String
  sanitizedValid : Bool
  deriving DecidableEq, Repr

def check (name : String) : Check :=
  let lowered := Text.lower name
  let sanitized := sanitize lowered
  ⟨name, isValid lowered, sanitized, isValid sanitized⟩

def Check.accepts (check : Check) (sanitizing : Bool) : Bool :=
  check.valid || (sanitizing && check.sanitizedValid)

end Registrar.Identifier

namespace Registrar

inductive StoragePath
  | text (location : String)
  | foreign (kind : Foreign)
  deriving DecidableEq, Repr

def StoragePath.location : StoragePath → Except Fault String
  | text location => .ok location
  | foreign kind => .error (.notAPath kind)

structure NameKeys where
  name : String
  regex : String
  deriving DecidableEq, Repr

namespace Naming

def validate : Option String → Except Fault Bool
  | some name => .ok (Identifier.isValid name)
  | none => .error .noName

def compileUnder [Host] (key source : String) : Except Fault Pattern :=
  (Pattern.compile source).mapError (·.under key)

/-- The pattern for a name. A literal name makes it useless, so it is then not even read. -/
def pattern? [Host] (config : Configuration) (keys : NameKeys) :
    Except Fault (Option Pattern) := do
  match config.get? keys.regex with
  | none => return none
  | some source =>
    if config.contains keys.name then return none
    let pattern ← compileUnder keys.regex source
    if pattern.groupCount = 0 then
      throw (.configuration (.patternWithoutGroup keys.regex source))
    return some pattern

def captured (regexKey : String) (pattern : Pattern) (location : String) :
    Except Fault String :=
  let mismatch : Fault := .configuration (.mismatch (.firstGroup regexKey pattern.source location))
  match pattern.search location with
  | none => .error mismatch
  | some found =>
    if pattern.groupCount = 0 then .error .noFirstGroup
    else match found.group? 1 with
      | some text => .ok text
      | none => .error mismatch

def rawName (config : Configuration) (keys : NameKeys) (pattern : Option Pattern)
    (path : StoragePath) : Except Fault String := do
  match config.get? keys.name, pattern with
  | some name, _ => return Text.lower name
  | none, some pattern => return Text.lower (← captured keys.regex pattern (← path.location))
  | none, none => throw (.configuration (.missing (.name keys.name keys.regex)))

def settle (sanitizing : Bool) (nameKey name : String) : Trace String := do
  if sanitizing && !Identifier.isValid name then
    let replaced := Identifier.sanitize name
    Trace.record (.sanitized nameKey name replaced)
    return replaced
  else
    return name

def resolve (config : Configuration) (sanitizing : Bool) (keys : NameKeys)
    (pattern : Option Pattern) (path : StoragePath) : Trace String := do
  let name ← settle sanitizing keys.name (← rawName config keys pattern path)
  if Identifier.isValid name then return name else Trace.fail (.invalidIdentifier name)

end Naming

end Registrar
