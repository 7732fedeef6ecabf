import Registrar.Decimal
import Registrar.Fault
import Registrar.Files
import Registrar.Json.Reader
import Registrar.OrderedMap
import Registrar.Text.Basic
import Registrar.Text.Utf8

namespace Registrar

inductive Scalar
  | text (value : String)
  | boolean (value : Bool)
  | integer (value : Int)
  | float (value : Binary64)
  deriving DecidableEq, Repr

def Scalar.render : Scalar → String
  | text value => value
  | boolean value => if value then "True" else "False"
  | integer value => toString value
  | float value => value.render

/-- Values by key; a key without a value is unset. -/
abbrev Settings := OrderedMap (Option Scalar)

abbrev Bag := OrderedMap String

structure Configuration where
  properties : OrderedMap String
  deriving DecidableEq

namespace Configuration

def empty : Configuration := ⟨.empty⟩

def ofSettings (settings : Settings) : Configuration :=
  ⟨settings.filterMap fun value ↦ value.map Scalar.render⟩

def toSettings (config : Configuration) : Settings :=
  config.properties.map fun text ↦ some (.text text)

def require : Option Configuration → Except Fault Configuration
  | some config => .ok config
  | none => .error .noConfiguration

def get? (config : Configuration) (key : String) : Option String := config.properties.get? key

def getD (config : Configuration) (key fallback : String) : String :=
  (config.get? key).getD fallback

def contains (config : Configuration) (key : String) : Bool := config.properties.contains key

def size (config : Configuration) : Nat := config.properties.size

def value (config : Configuration) (key : String) : Except Fault String :=
  match config.get? key with
  | some value => .ok value
  | none => .error (.absentKey key)

def assign (_ : Configuration) (_ _ : String) : Except Fault Configuration := .error .readOnly

def agrees (config other : Configuration) : Bool :=
  config.size == other.size &&
    config.properties.entries.all fun entry ↦ other.get? entry.1 == some entry.2

/-- The configuration with other settings on top; those without a value unset their keys. -/
def withOverrides (config : Configuration) (overrides : Settings) : Configuration :=
  ofSettings (config.toSettings.insertAll overrides.entries)

def boolean? (text : String) : Option Bool :=
  let word := Text.lower (Text.trim text)
  if ["1", "true", "yes", "on"].contains word then some true
  else if ["0", "false", "no", "off"].contains word then some false
  else none

def getBool (config : Configuration) (key : String) (fallback : Bool) :
    Except ConfigurationError Bool :=
  match config.get? key with
  | none => .ok fallback
  | some raw => match boolean? raw with
    | some value => .ok value
    | none => .error (.notBoolean key raw)

def bagEntry (key item : String) : Except ConfigurationError (String × String) :=
  match Text.cut? ':' item with
  | some (name, value) => .ok (Text.trim name, Text.trim value)
  | none => .error (.bagEntry key item)

/-- The bag that a text spells: properties between commas, blank ones being passed over. -/
def bagOfText (key text : String) : Except ConfigurationError Bag := do
  let items := (Text.pieces ',' text).map Text.trim
  return .ofList (← (items.filter (· ≠ "")).mapM (bagEntry key))

def getBag (config : Configuration) (key : String) : Except ConfigurationError Bag :=
  bagOfText key (config.getD key "")

def render (config : Configuration) : String :=
  let entries := config.properties.entries.map fun entry ↦
    Text.quoted entry.1 ++ ": " ++ Text.quoted entry.2
  "RegistrationConfig(\x7b" ++ Text.join ", " entries ++ "\x7d)"

end Configuration

end Registrar

namespace Registrar.PropertyText

def isIgnored (line : String) : Bool :=
  match line.toList with
  | [] => true
  | c :: _ => c = '#' || c = '!'

def property (number : Nat) (line : String) : Except ConfigurationError (String × String) :=
  match Text.cut? '=' line with
  | some (key, value) => .ok (Text.trim key, Text.trim value)
  | none => .error (.propertyLine number line)

def properties (number : Nat) : List String → Except ConfigurationError (List (String × String))
  | [] => .ok []
  | line :: rest => do
    let line := Text.trim line
    if isIgnored line then properties (number + 1) rest
    else return (← property number line) :: (← properties (number + 1) rest)

/-- The properties that a text spells. A key that is repeated keeps its place and takes the last
value. -/
def parse (text : String) : Except ConfigurationError Bag :=
  (properties 1 (Text.lines text)).map .ofList

def override (item : String) : Except ConfigurationError (String × String) :=
  match Text.cut? '=' item with
  | none => .error (.overrideEntry item)
  | some (key, value) =>
    if Text.trim key = "" then .error (.overrideKey item) else .ok (Text.trim key, value)

def parseOverrides (items : List String) : Except ConfigurationError Bag :=
  (items.mapM override).map .ofList

end Registrar.PropertyText

namespace Registrar.Configuration

/-- The text of a file in UTF-8 with line feeds as line ends. -/
def readText (files : Files.Source) (path : String) : Except Fault String := do
  if path.toList.contains '\x00' then throw .nulInPath
  match files path with
  | .error refusal => throw (.configuration (.unreadable path refusal))
  | .ok bytes => match Text.decodeUtf8 bytes with
    | .error e => throw (.undecodable e)
    | .ok text => return String.ofList (Text.unifyBreaks text.toList)

/-- The text of a value of a JSON object; arrays and objects are refused before. -/
def jsonText : Json.Value → String
  | .null => "None"
  | .boolean value => if value then "true" else "false"
  | .integer value => toString value
  | .number value => value.render
  | .text value => value
  | .array _ | .object _ => ""

def parseJson [Host] (path text : String) : Except Fault Bag := do
  match Json.read text with
  | .error (.integerTooLong digits) => throw (.integerTooLong digits)
  | .error (.malformed cause) => throw (.configuration (.malformedJson path cause))
  | .ok (.object members) =>
    let members := OrderedMap.ofList members
    if members.entries.any (·.2.isContainer) then throw (.configuration (.notFlat path))
    return members.map jsonText
  | .ok _ => throw (.configuration (.notAnObject path))

def load [Host] (files : Files.Source) (path : Files.Path) : Trace Configuration := do
  let name := path.render
  let text ← readText files name
  let properties ← if Text.lower path.suffix = ".json" then parseJson name text
    else (PropertyText.parse text : Except ConfigurationError Bag)
  Trace.record (.loaded properties.size name)
  return ⟨properties⟩

end Registrar.Configuration
