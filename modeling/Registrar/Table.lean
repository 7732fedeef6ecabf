import Registrar.Configuration.Basic
import Registrar.Json.Basic

namespace Registrar

structure Format where
  name : String
  library : String
  inputFormat : String
  outputFormat : String
  dataSource : String
  deriving DecidableEq, Repr

namespace Format

def avro : Format where
  name := "AVRO"
  library := "org.apache.hadoop.hive.serde2.avro.AvroSerDe"
  inputFormat := "org.apache.hadoop.hive.ql.io.avro.AvroContainerInputFormat"
  outputFormat := "org.apache.hadoop.hive.ql.io.avro.AvroContainerOutputFormat"
  dataSource := "AVRO"

def orc : Format where
  name := "ORC"
  library := "org.apache.hadoop.hive.ql.io.orc.OrcSerde"
  inputFormat := "org.apache.hadoop.hive.ql.io.orc.OrcInputFormat"
  outputFormat := "org.apache.hadoop.hive.ql.io.orc.OrcOutputFormat"
  dataSource := "ORC"

def parquet : Format where
  name := "PARQUET"
  library := "org.apache.hadoop.hive.ql.io.parquet.serde.ParquetHiveSerDe"
  inputFormat := "org.apache.hadoop.hive.ql.io.parquet.MapredParquetInputFormat"
  outputFormat := "org.apache.hadoop.hive.ql.io.parquet.MapredParquetOutputFormat"
  dataSource := "PARQUET"

def text : Format where
  name := "TEXT"
  library := "org.apache.hadoop.hive.serde2.lazy.LazySimpleSerDe"
  inputFormat := "org.apache.hadoop.mapred.TextInputFormat"
  outputFormat := "org.apache.hadoop.hive.ql.io.HiveIgnoreKeyTextOutputFormat"
  dataSource := "TEXT"

def all : List Format := [avro, orc, parquet, text]

def names : List String := all.map (·.name)

def ofConfiguration (config : Configuration) : Except ConfigurationError Format :=
  let name := Text.upper (Text.trim (config.getD Key.format avro.name))
  match all.find? (·.name = name) with
  | some format => .ok format
  | none => .error (.unknownFormat name names)

end Format

structure Table where
  database : String
  name : String
  format : Format
  location : String
  properties : Bag
  storageProperties : Bag
  formatProperties : Bag
  deriving DecidableEq

namespace Table

def buckets : Int := -1

def kind : String := "EXTERNAL"

def fullName (table : Table) : String := s!"{table.database}.{table.name}"

end Table

structure Partition where
  database : String
  table : String
  values : List (String × String)
  location : String
  properties : Bag
  storageProperties : Bag
  formatProperties : Bag
  deriving DecidableEq

namespace Partition

def keys (partition : Partition) : List String := partition.values.map Prod.fst

def spec (partition : Partition) : String :=
  Text.join "/" (partition.values.map fun (key, value) ↦ s!"{key}={value}")

end Partition

structure Spec where
  path : String
  table : Table
  partition : Option Partition
  deriving DecidableEq

structure TableInfo where
  catalog : Option String
  schema : String
  name : String
  fullName : String
  kind : String
  dataSource : String
  location : String
  properties : Bag
  deriving DecidableEq

namespace Bag

def labelled (label : String) (bag : Bag) : List (String × String) :=
  bag.entries.map fun entry ↦ (label ++ entry.1, entry.2)

end Bag

/-- The bags of a table in one: those of storage and format carry the kind in their names. -/
def Table.allProperties (table : Table) : Bag :=
  (table.properties.insertAll (Bag.labelled "storage." table.storageProperties)).insertAll
    (Bag.labelled "serde." table.formatProperties)

/-- What a catalog is told of a spec. An empty catalog name does not count. -/
def Spec.tableInfo (spec : Spec) (catalog : Option String) : TableInfo where
  catalog := catalog
  schema := spec.table.database
  name := spec.table.name
  fullName := match catalog with
    | none | some "" => spec.table.fullName
    | some catalog => s!"{catalog}.{spec.table.fullName}"
  kind := Table.kind
  dataSource := spec.table.format.dataSource
  location := spec.table.location
  properties := spec.table.allProperties

open Json in
class CatalogClient where
  toJson : TableInfo → Value

section Json

open Json

def Bag.toJson (bag : Bag) : Value :=
  .object (bag.entries.map fun entry ↦ (entry.1, .text entry.2))

def Table.toJson (table : Table) : Value :=
  .object [("db_name", .text table.database), ("table_name", .text table.name),
    ("location", .text table.location), ("serde", .text table.format.name),
    ("props", Bag.toJson table.properties), ("storage_props", Bag.toJson table.storageProperties),
    ("serde_props", Bag.toJson table.formatProperties), ("num_buckets", .integer Table.buckets),
    ("table_type", .text Table.kind)]

def Partition.toJson (partition : Partition) : Value :=
  .object [("values", Bag.toJson (.ofList partition.values)),
    ("location", .text partition.location)]

def Spec.members (spec : Spec) : List (String × Value) :=
  [("path", .text spec.path), ("table", spec.table.toJson),
   ("partition", match spec.partition with
    | some partition => partition.toJson
    | none => .null)]

def Spec.toJson (spec : Spec) : Value := .object spec.members

end Json

end Registrar
