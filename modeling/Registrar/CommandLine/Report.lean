import Registrar.CommandLine.Command
import Registrar.Console.Basic
import Registrar.Json.Basic
import Registrar.Naming
import Registrar.Policy
import Registrar.Table

namespace Registrar.CommandLine

open Console (Column Grid MarkupError)

def jsonLine (value : Json.Value) : String := Json.render value ++ "\n"

namespace Message

variable [Console]

def signed (sign text : String) : String := Console.paragraph (sign ++ " " ++ Console.plain text)

def failure (text : String) : String := signed "✗" text

def warning (text : String) : String := signed "⚠" text

def success (text : String) : String := signed "✓" text

def labelled (label text : String) : String :=
  Console.paragraph (label ++ ": " ++ Console.plain text)

end Message

section Names

open Json

def checkJson (check : Identifier.Check) : Value :=
  .object [("name", .text check.name), ("valid", .boolean check.valid),
    ("sanitized", .text check.sanitized), ("sanitized_valid", .boolean check.sanitizedValid)]

def checksJson (checks : List Identifier.Check) : Value := .array (checks.map checkJson)

def yesNo (answer : Bool) : String := if answer then "yes" else "no"

def checkRow [Console] (check : Identifier.Check) : List String :=
  [Console.plain check.name, yesNo check.valid, check.sanitized, yesNo check.sanitizedValid]

def checkGrid [Console] (checks : List Identifier.Check) : Grid where
  title := "Name check"
  columns := [⟨"Name", .fold⟩, ⟨"Valid", .ellipsis⟩, ⟨"Sanitized", .fold⟩,
    ⟨"Sanitized valid", .ellipsis⟩]
  rows := checks.map checkRow

end Names

section Policies

def namesJson (names : List String) : Json.Value := .array (names.map .text)

/-- The table of policies. Their names are taken as markup. -/
def namesGrid [Console] (names : List String) : Except MarkupError Grid := do
  return .ofTexts "Registered policies" ⟨"Policy", .ellipsis⟩ (← names.mapM Console.readMarkup)

end Policies

section Plans

variable [Console] [CatalogClient]

open Json

def specJson (catalog : Option String) (spec : Spec) : Value :=
  .object (spec.members ++ [("table_info", CatalogClient.toJson (spec.tableInfo catalog))])

def resultJson (catalog : Option String) (result : PlanResult) : Value :=
  .object [("path", .text result.path),
    ("error", match result.error with
      | some error => .text error
      | none => .null),
    ("specs", .array (result.specs.map (specJson catalog)))]

def planJson (catalog : Option String) (results : List PlanResult) : Value :=
  .array (results.map (resultJson catalog))

def specRow (spec : Spec) : List String :=
  [Console.plain spec.path, spec.table.fullName, Console.plain spec.table.location,
    Console.plain ((spec.partition.map Partition.spec).getD ""), spec.table.format.name]

def resultRows (result : PlanResult) : List (List String) :=
  match result.error.filter (· ≠ "") with
  | some error => [[Console.plain result.path, "FAIL " ++ Console.plain error, "", "", ""]]
  | none => result.specs.map specRow

def planGrid (results : List PlanResult) : Grid where
  title := "Registration specs"
  columns := [⟨"Path", .fold⟩, ⟨"Table", .fold⟩, ⟨"Location", .fold⟩, ⟨"Partition", .fold⟩,
    ⟨"Format", .ellipsis⟩]
  rows := results.flatMap resultRows

def planHeader (policy : String) (configFile : Option Files.Path) (paths : Nat) : String :=
  Console.paragraph "Registration plan" ++ Message.labelled "Policy" policy ++
    Message.labelled "Config" ((configFile.map Files.Path.render).getD "-") ++
    Message.labelled "Paths" (toString paths)

end Plans

end Registrar.CommandLine
