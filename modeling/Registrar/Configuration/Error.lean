import Registrar.Files
import Registrar.Json.Basic
import Registrar.Pattern.Error
import Registrar.Text.Basic

namespace Registrar.Key

def databaseName : String := "database.name"
def databaseRegex : String := "database.regex"
def databasePrefix : String := "database.name.prefix"
def databaseSuffix : String := "database.name.suffix"
def tableName : String := "table.name"
def tableRegex : String := "table.regex"
def tablePrefix : String := "table.name.prefix"
def tableSuffix : String := "table.name.suffix"
def sanitizing : String := "sanitize.invalid.names"
def policy : String := "registration.policy"
def format : String := "serde.manager.type"
def tableProperties : String := "table.partition.props"
def storageProperties : String := "storage.props"
def formatProperties : String := "serde.props"
def partitionRegex : String := "partition.regex"

end Registrar.Key

namespace Registrar

inductive MissingProperty
  | name (nameKey regexKey : String)
  | partitionRegex
  | policy
  deriving DecidableEq, Repr

namespace MissingProperty

def keys : MissingProperty → List String
  | name nameKey regexKey => [nameKey, regexKey]
  | partitionRegex => [Key.partitionRegex]
  | policy => [Key.policy]

def message (property : MissingProperty) : String :=
  "Missing required property " ++ " or ".intercalate property.keys

end MissingProperty

/-- What a pattern lacks at a path. -/
inductive Mismatch
  | firstGroup (key source path : String)
  | partitionKeys (source path : String)
  | tableLocation (path : String)
  deriving DecidableEq, Repr

namespace Mismatch

def key : Mismatch → String
  | firstGroup key .. => key
  | partitionKeys .. | tableLocation _ => Key.partitionRegex

def path : Mismatch → String
  | firstGroup _ _ path | partitionKeys _ path | tableLocation path => path

def message : Mismatch → String
  | firstGroup key source path =>
    s!"Property {key} ({source}) has no match for group 1 in path {path}"
  | partitionKeys source path =>
    s!"Property {Key.partitionRegex} ({source}) does not match every partition key in path {path}"
  | tableLocation path =>
    s!"Property {Key.partitionRegex} matches at the start of {path}, leaving no table location"

end Mismatch

inductive ConfigurationError
  | notBoolean (key raw : String)
  | bagEntry (key item : String)
  | propertyLine (number : Nat) (line : String)
  | overrideEntry (item : String)
  | overrideKey (item : String)
  | unreadable (path : String) (refusal : Files.Refusal)
  | malformedJson (path : String) (cause : Json.Malformed)
  | notAnObject (path : String)
  | notFlat (path : String)
  | malformedPattern (key source : String) (reason : Pattern.Reason) (position : Option Nat)
  | patternWithoutGroup (key source : String)
  | patternWithoutNames (source : String)
  | unknownFormat (name : String) (known : List String)
  | missing (need : MissingProperty)
  | mismatch (lack : Mismatch)
  deriving DecidableEq, Repr

def ConfigurationError.message : ConfigurationError → String
  | notBoolean key raw => s!"Property {key} must be a boolean, got '{raw}'"
  | bagEntry key item => s!"Invalid entry '{item}' in {key} (expected key:value)"
  | propertyLine number line => s!"Line {number}: expected key=value, got '{line}'"
  | overrideEntry item => s!"Invalid override '{item}' (expected key=value)"
  | overrideKey item => s!"Invalid override '{item}' (empty key)"
  | unreadable path refusal => s!"Cannot read config file {path}: {refusal.message path}"
  | malformedJson path cause => s!"Invalid JSON in {path}: {cause.message}"
  | notAnObject path => s!"{path} must contain a JSON object"
  | notFlat path => s!"{path} must be flat (string values only)"
  | malformedPattern key source reason position =>
    s!"Invalid regex for {key}: {Pattern.malformedMessage source reason position}"
  | patternWithoutGroup key source => s!"Regex for {key} must contain a capture group: {source}"
  | patternWithoutNames source =>
    s!"{Key.partitionRegex} must contain at least one named group: {source}"
  | unknownFormat name known =>
    let names := Text.join ", " known
    s!"Unknown {Key.format} '{name}' (expected one of: {names})"
  | missing need => need.message
  | mismatch lack => lack.message

end Registrar
