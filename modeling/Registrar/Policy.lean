import Registrar.Layout

namespace Registrar

structure NameRule where
  keys : NameKeys
  headKey : String
  tailKey : String
  pattern : Option Pattern
  head : String
  tail : String

namespace NameRule

def ofConfiguration [Host] (config : Configuration) (keys : NameKeys)
    (headKey tailKey : String) : Except Fault NameRule := do
  let pattern ← Naming.pattern? config keys
  return {
    keys, headKey, tailKey, pattern
    head := config.getD headKey ""
    tail := config.getD tailKey "" }

/-- A name between the affixes, in lower case. Without affixes it is left alone. -/
def affix (rule : NameRule) (name : String) : Except Fault String :=
  if rule.head = "" ∧ rule.tail = "" then .ok name
  else
    let full := Text.lower (rule.head ++ name ++ rule.tail)
    if Identifier.isValid full then .ok full
    else .error (.invalidAffixed full rule.headKey rule.tailKey)

def resolve (rule : NameRule) (config : Configuration) (sanitizing : Bool) (path : StoragePath) :
    Trace String := do
  rule.affix (← Naming.resolve config sanitizing rule.keys rule.pattern path)

end NameRule

structure Policy where
  title : String
  config : Configuration
  layout : Layout
  sanitizing : Bool
  database : NameRule
  table : NameRule
  format : Format
  tableProperties : Bag
  storageProperties : Bag
  formatProperties : Bag

namespace Policy

def defaultTitle : String := "RegistrationPolicy"

def build [Host] (config : Configuration) (layout : Layout) : Except Fault Policy := do
  let sanitizing ← config.getBool Key.sanitizing true
  let database ← NameRule.ofConfiguration config ⟨Key.databaseName, Key.databaseRegex⟩
    Key.databasePrefix Key.databaseSuffix
  let table ← NameRule.ofConfiguration config ⟨Key.tableName, Key.tableRegex⟩
    Key.tablePrefix Key.tableSuffix
  let format ← Format.ofConfiguration config
  let tableProperties ← config.getBag Key.tableProperties
  let storageProperties ← config.getBag Key.storageProperties
  let formatProperties ← config.getBag Key.formatProperties
  return {
    title := defaultTitle
    config, layout, sanitizing, database, table, format
    tableProperties, storageProperties, formatProperties }

def render (policy : Policy) : String := s!"{policy.title}(layout={policy.layout.title})"

def databaseName (policy : Policy) (path : StoragePath) : Trace String :=
  policy.database.resolve policy.config policy.sanitizing path

def tableName (policy : Policy) (path : StoragePath) : Trace String :=
  policy.table.resolve policy.config policy.sanitizing path

def tableFor (policy : Policy) (path : StoragePath) : Trace Table := do
  let database ← policy.databaseName path
  let name ← policy.tableName path
  let location ← policy.layout.tableLocation path
  return {
    database, name, location
    format := policy.format
    properties := policy.tableProperties
    storageProperties := policy.storageProperties
    formatProperties := policy.formatProperties }

def specs (policy : Policy) (path : StoragePath) : Trace (List Spec) := do
  let table ← policy.tableFor path
  let partition ← policy.layout.partition path table
  let location ← path.location
  Trace.record (.resolved location table.fullName (partition.map Partition.spec))
  return [⟨location, table, partition⟩]

end Policy

structure PlanResult where
  path : String
  specs : List Spec
  error : Option String
  deriving DecidableEq

def PlanResult.ok (result : PlanResult) : Bool := result.error.isNone

namespace Policy

def planPath (policy : Policy) (path : StoragePath) : Trace PlanResult :=
  let trace := policy.specs path
  match trace.outcome with
  | .ok specs => ⟨trace.events, do return ⟨← path.location, specs, none⟩⟩
  | .error fault =>
    if fault.isRegistration then
      ⟨trace.events, do return ⟨← path.location, [], some fault.message⟩⟩
    else ⟨trace.events, .error fault⟩

def plan (policy : Policy) (paths : List StoragePath) : Trace (List PlanResult) :=
  paths.mapM policy.planPath

end Policy

end Registrar
