import Registrar.Decimal
import Registrar.Text.Notation

namespace Registrar.Json

inductive Value
  | null
  | boolean (value : Bool)
  | integer (value : Int)
  | number (value : Binary64)
  | text (value : String)
  | array (items : List Value)
  | object (members : List (String × Value))

def Value.isContainer : Value → Bool
  | array _ | object _ => true
  | _ => false

inductive Problem
  | byteOrderMark
  | value
  | propertyName
  | colon
  | comma
  | extraData
  | unterminatedString
  | controlCharacter
  | escape
  | unicodeEscape
  deriving DecidableEq, Repr

def Problem.message : Problem → String
  | byteOrderMark => "Unexpected UTF-8 BOM (decode using utf-8-sig)"
  | value => "Expecting value"
  | propertyName => "Expecting property name enclosed in double quotes"
  | colon => "Expecting ':' delimiter"
  | comma => "Expecting ',' delimiter"
  | extraData => "Extra data"
  | unterminatedString => "Unterminated string starting at"
  | controlCharacter => "Invalid control character at"
  | escape => "Invalid \\escape"
  | unicodeEscape => "Invalid \\uXXXX escape"

/-- A problem with its place: line and column from 1, position from 0. -/
structure Malformed where
  problem : Problem
  line : Nat
  column : Nat
  position : Nat
  deriving DecidableEq, Repr

def Malformed.at (problem : Problem) (text : List Char) (position : Nat) : Malformed :=
  ⟨problem, Text.lineAt text position, Text.columnAt text position, position⟩

def Malformed.message (e : Malformed) : String :=
  s!"{e.problem.message}: line {e.line} column {e.column} (char {e.position})"

inductive Error
  | malformed (e : Malformed)
  | integerTooLong (digits : Nat)
  deriving DecidableEq, Repr

def unitEscape (unit : Nat) : List Char := '\\' :: 'u' :: Text.hexadecimal 4 unit

def stringChar (c : Char) : List Char :=
  if c = '"' then ['\\', '"']
  else if c = '\\' then ['\\', '\\']
  else if c = '\n' then ['\\', 'n']
  else if c = '\r' then ['\\', 'r']
  else if c = '\t' then ['\\', 't']
  else if c = '\x08' then ['\\', 'b']
  else if c = '\x0c' then ['\\', 'f']
  else if ' ' ≤ c ∧ c ≤ '~' then [c]
  else if c.toNat < 0x10000 then unitEscape c.toNat
  else
    unitEscape (0xD800 + (c.toNat - 0x10000) / 0x400) ++
      unitEscape (0xDC00 + (c.toNat - 0x10000) % 0x400)

def stringText (text : String) : String :=
  String.ofList ('"' :: text.toList.flatMap stringChar ++ ['"'])

def bracketed (opening closing : String) (indent : String) (items : List String) : String :=
  if items.isEmpty then opening ++ closing
  else
    let separator := ",\n" ++ indent ++ "  "
    opening ++ "\n" ++ indent ++ "  " ++ separator.intercalate items ++ "\n" ++ indent ++ closing

mutual

def renderFrom (indent : String) : Value → String
  | .null => "null"
  | .boolean value => if value then "true" else "false"
  | .integer value => toString value
  | .number .nan => "NaN"
  | .number (.infinite negative) => if negative then "-Infinity" else "Infinity"
  | .number value => value.render
  | .text value => stringText value
  | .array items => bracketed "[" "]" indent (renderItems (indent ++ "  ") items)
  | .object members =>
    let lines := renderMembers (indent ++ "  ") members
    let sorted := lines.mergeSort fun a b ↦ a.1 ≤ b.1
    bracketed "\x7b" "\x7d" indent (sorted.map Prod.snd)

def renderItems (indent : String) : List Value → List String
  | [] => []
  | item :: rest => renderFrom indent item :: renderItems indent rest

def renderMembers (indent : String) : List (String × Value) → List (String × String)
  | [] => []
  | (name, value) :: rest =>
    (name, stringText name ++ ": " ++ renderFrom indent value) :: renderMembers indent rest

end

def render (value : Value) : String := renderFrom "" value

end Registrar.Json
