import Registrar.CommandLine.Program
import Registrar.Console.Grid
import Registrar.Console.Markup

namespace Registrar

open Json in
def TableInfo.toJson (info : TableInfo) : Value :=
  .object ((info.catalog.toList.map fun catalog ↦ ("catalog_name", .text catalog)) ++
    [("data_source_format", .text info.dataSource), ("full_name", .text info.fullName),
     ("name", .text info.name)] ++
    (if info.properties.size = 0 then [] else [("properties", Bag.toJson info.properties)]) ++
    [("schema_name", .text info.schema), ("storage_location", .text info.location),
     ("table_type", .text info.kind)])

namespace CommandLine

abbrev Libraries.standard : Libraries where
  read := Reading.read
  page purpose := s!"{purpose}\n"
  readMarkup := Console.Markup.read
  plain := Console.Markup.plain
  paragraph := Console.wrapped
  table := Console.Grid.render
  toJson := TableInfo.toJson

inductive Key
  | up
  | down
  | enter
  | cancel
  deriving DecidableEq, Repr

def cancelNotice : String := "\nCancelled by user\n\n"

/-- The choice that keys settle, with the pointer at a place. Keys that end before the choice is
settled cancel it. -/
def settle (names : List String) (pointer : Nat) : List Key → Choice
  | [] | .cancel :: _ => .cancelled cancelNotice
  | .up :: keys => settle names ((pointer + names.length - 1) % names.length) keys
  | .down :: keys => settle names ((pointer + 1) % names.length) keys
  | .enter :: _ => match names[pointer]? with
    | some name => .picked name
    | none => .nothing

def Prompt.ofKeys (keys : List Key) : Prompt := fun names ↦ settle names 0 keys

end CommandLine

end Registrar
