import Registrar.Naming
import Registrar.Table

namespace Registrar

structure PartitionPattern where
  pattern : Pattern
  named : pattern.names.entries ≠ []

namespace PartitionPattern

def ofPattern (pattern : Pattern) : Except ConfigurationError PartitionPattern :=
  if named : pattern.names.entries ≠ [] then .ok ⟨pattern, named⟩
  else .error (.patternWithoutNames pattern.source)

def ofConfiguration [Host] (config : Configuration) : Except Fault PartitionPattern := do
  match config.get? Key.partitionRegex with
  | none => throw (.configuration (.missing .partitionRegex))
  | some source => ofPattern (← Naming.compileUnder Key.partitionRegex source)

/-- The partition keys: the names of the groups in the order of the groups. -/
def keys (layout : PartitionPattern) : List String := layout.pattern.names.entries.map Prod.fst

def values? (layout : PartitionPattern) (found : Pattern.Match) :
    Option (List (String × String)) :=
  layout.pattern.names.entries.mapM fun (key, index) ↦ (found.group? index).map (key, ·)

def find (layout : PartitionPattern) (location : String) :
    Except ConfigurationError (Pattern.Match × List (String × String)) :=
  match layout.pattern.search location with
  | none => .error (.mismatch (.partitionKeys layout.pattern.source location))
  | some found => match layout.values? found with
    | some values => .ok (found, values)
    | none => .error (.mismatch (.partitionKeys layout.pattern.source location))

def tableLocation (layout : PartitionPattern) (location : String) :
    Except ConfigurationError String := do
  let (found, _) ← layout.find location
  let before := Text.trimRight '/' (String.ofList (location.toList.take found.start))
  if before = "" then .error (.mismatch (.tableLocation location)) else return before

end PartitionPattern

namespace Location

def isSchemePart (c : Char) : Bool := c.isAlphanum || c = '+' || c = '.' || c = '-'

/-- A location cut after its scheme and authority, the first part being empty if it has none. -/
def splitRoot (location : List Char) : List Char × List Char :=
  let scheme := location.takeWhile isSchemePart
  match location.drop scheme.length with
  | ':' :: '/' :: '/' :: rest =>
    if scheme.head?.any (·.isAlpha) then
      let authority := rest.takeWhile (· ≠ '/')
      (scheme ++ ':' :: '/' :: '/' :: authority, rest.drop authority.length)
    else ([], location)
  | _ => ([], location)

/-- The part before the last slash, without the slashes at its end unless it is slashes alone. -/
def directory (path : List Char) : List Char :=
  let head := Text.dropWhileRight (· ≠ '/') path
  if head.all (· = '/') then head else Text.dropWhileRight (· = '/') head

/-- The directory around a location; the root of a URI is never cut. -/
def parent? (location : String) : Option String :=
  let (root, rest) := splitRoot location.toList
  let rest := Text.dropWhileRight (· = '/') rest
  let parent := directory rest
  if parent = [] ∨ parent = rest ∨ parent.getLast? = some ':' then none
  else if root = [] then some (String.ofList parent)
  else some (String.ofList (root ++ Text.dropWhileRight (· = '/') parent))

end Location

inductive Layout
  | flat
  | parentDirectory
  | partitioned (pattern : PartitionPattern)

namespace Layout

def title : Layout → String
  | flat => "FlatLayout"
  | parentDirectory => "ParentDirectoryLayout"
  | partitioned _ => "PartitionedLayout"

def keys? : Layout → Option (List String)
  | partitioned pattern => some pattern.keys
  | _ => none

def tableLocation (layout : Layout) (path : StoragePath) : Except Fault String := do
  let location ← path.location
  match layout with
  | flat => return location
  | parentDirectory => match Location.parent? location with
    | some parent => return parent
    | none => throw (.noParent location)
  | partitioned pattern => pattern.tableLocation location

def partition (layout : Layout) (path : StoragePath) (table : Table) :
    Except Fault (Option Partition) := do
  match layout with
  | flat | parentDirectory => return none
  | partitioned pattern =>
    let location ← path.location
    let (_, values) ← (pattern.find location : Except ConfigurationError _)
    return some {
      database := table.database
      table := table.name
      values
      location
      properties := table.properties
      storageProperties := table.storageProperties
      formatProperties := table.formatProperties }

end Layout

end Registrar
