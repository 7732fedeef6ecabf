import Registrar.Character.Classes
import Registrar.Decimal
import Registrar.Json.Basic
import Registrar.Text.Notation

namespace Registrar.Json

/-- A place in a text: the characters from there on, and how many stand before them. -/
structure Cursor where
  rest : List Char
  position : Nat

/-- Why reading stopped: a problem and its position, or an integer of too many digits. -/
inductive Stop
  | problem (problem : Problem) (position : Nat)
  | integerTooLong (digits : Nat)

abbrev Reading := StateT Cursor (Except Stop)

section Characters

variable {α : Type}

def failAt (problem : Problem) (position : Nat) : Reading α :=
  throw (.problem problem position)

def failHere (problem : Problem) (back : Nat) : Reading α := do
  failAt problem ((← get).position - back)

def peek : Reading (Option Char) := do
  return (← get).rest.head?

def advance (count : Nat) : Reading Unit :=
  modify fun cursor ↦ ⟨cursor.rest.drop count, cursor.position + count⟩

def isBlank (c : Char) : Bool := c = ' ' || c = '\t' || c = '\n' || c = '\r'

def takeWhile (p : Char → Bool) : Reading (List Char) := do
  let taken := (← get).rest.takeWhile p
  advance taken.length
  return taken

def skipBlanks : Reading Unit := do
  let _ ← takeWhile isBlank

def skip (c : Char) : Reading Bool := do
  if (← peek) = some c then
    advance 1
    return true
  else
    return false

end Characters

section Strings

def controlEscape? : Char → Option Char
  | '"' => some '"'
  | '\\' => some '\\'
  | '/' => some '/'
  | 'b' => some '\x08'
  | 'f' => some '\x0c'
  | 'n' => some '\n'
  | 'r' => some '\r'
  | 't' => some '\t'
  | _ => none

def fourDigits? (chars : List Char) : Option Nat := do
  let digits ← (chars.take 4).mapM Text.hexValue?
  if digits.length < 4 then none else Text.numberOfDigits 16 digits

def readFourDigits : Reading Nat := do
  let cursor ← get
  match fourDigits? cursor.rest with
  | some n =>
    if cursor.rest.length ≤ 4 then failHere .unicodeEscape 1
    advance 4
    return n
  | none => failHere .unicodeEscape 1

def readLowSurrogate? (high : Nat) : Reading (Option Nat) := do
  let cursor ← get
  match cursor.rest with
  | '\\' :: 'u' :: rest =>
    if rest.length ≤ 4 then return none
    match fourDigits? rest with
    | none => failAt .unicodeEscape (cursor.position + 1)
    | some low =>
      if 0xDC00 ≤ low ∧ low ≤ 0xDFFF then
        advance 6
        return some (0x10000 + (high - 0xD800) * 0x400 + (low - 0xDC00))
      else return none
  | _ => return none

def readUnicodeEscape [Host] : Reading Char := do
  let code ← readFourDigits
  if 0xD800 ≤ code ∧ code ≤ 0xDBFF then
    match ← readLowSurrogate? code with
    | some code => return Char.ofNat code
    | none => return Host.standIn code
  else if 0xDC00 ≤ code ∧ code ≤ 0xDFFF then
    return Host.standIn code
  else
    return Char.ofNat code

/-- The rest of a string whose quote stands at `start`; its characters so far are in reverse. -/
def readStringRest [Host] (start : Nat) (read : List Char) : Nat → Reading String
  | 0 => failAt .unterminatedString start
  | n + 1 => do
    match ← peek with
    | none => failAt .unterminatedString start
    | some c =>
      if c = '"' then
        advance 1
        return String.ofList read.reverse
      else if c = '\\' then
        advance 1
        match ← peek with
        | none => failAt .unterminatedString start
        | some 'u' =>
          advance 1
          readStringRest start ((← readUnicodeEscape) :: read) n
        | some e =>
          match controlEscape? e with
          | none => failHere .escape 1
          | some c =>
            advance 1
            readStringRest start (c :: read) n
      else if c.toNat < 0x20 then failHere .controlCharacter 0
      else
        advance 1
        readStringRest start (c :: read) n

def readString [Host] : Reading String := do
  let cursor ← get
  readStringRest (cursor.position - 1) [] (cursor.rest.length + 1)

end Strings

section Numbers

def isDigit (c : Char) : Bool := '0' ≤ c && c ≤ '9'

def digitValues (digits : List Char) : List Nat := digits.map (·.toNat - '0'.toNat)

def readWhole : Reading (List Char) := do
  if ← skip '0' then return ['0'] else takeWhile isDigit

/-- Digits after a point; the point stands for itself if none follow. -/
def readFraction? : Reading (Option (List Char)) := do
  match (← get).rest with
  | '.' :: c :: _ =>
    if isDigit c then
      advance 1
      return some (← takeWhile isDigit)
    else return none
  | _ => return none

def readExponent? : Reading (Option Int) := do
  let before ← get
  unless before.rest.head? = some 'e' || before.rest.head? = some 'E' do return none
  advance 1
  let negative ← skip '-'
  unless negative do
    let _ ← skip '+'
  match ← takeWhile isDigit with
  | [] =>
    set before
    return none
  | digits =>
    let n : Int := Text.numberOfDigits 10 (digitValues digits)
    return some (if negative then -n else n)

def readNumber : Reading Value := do
  let start := (← get).position
  let negative ← skip '-'
  let whole ← readWhole
  if whole.isEmpty then failAt .value start
  let fraction ← readFraction?
  let exponent ← readExponent?
  match fraction, exponent with
  | none, none =>
    if whole.length > Text.integerDigitLimit then throw (.integerTooLong whole.length)
    let n : Int := Text.numberOfDigits 10 (digitValues whole)
    return .integer (if negative then -n else n)
  | _, _ =>
    let parts : Binary64.Parts :=
      ⟨digitValues whole, digitValues (fraction.getD []), exponent.getD 0⟩
    return .number (parts.toBinary64 negative)

end Numbers

section Values

variable [Host]

def wordValues : List (String × Value) :=
  [("null", .null), ("true", .boolean true), ("false", .boolean false), ("NaN", .number .nan),
   ("Infinity", .number (.infinite false)), ("-Infinity", .number (.infinite true))]

def word? (chars : List Char) : Option (String × Value) :=
  wordValues.find? fun word ↦ word.1.toList.isPrefixOf chars

def readItems (value : Reading Value) (items : List Value) : Nat → Reading Value
  | 0 => failHere .comma 0
  | n + 1 => do
    let items := items ++ [← value]
    skipBlanks
    if ← skip ']' then return .array items
    unless ← skip ',' do failHere .comma 0
    skipBlanks
    readItems value items n

def readMembers (value : Reading Value) (members : List (String × Value)) : Nat → Reading Value
  | 0 => failHere .comma 0
  | n + 1 => do
    unless ← skip '"' do failHere .propertyName 0
    let name ← readString
    skipBlanks
    unless ← skip ':' do failHere .colon 0
    skipBlanks
    let members := members ++ [(name, ← value)]
    skipBlanks
    if ← skip '\x7d' then return .object members
    unless ← skip ',' do failHere .comma 0
    skipBlanks
    readMembers value members n

/-- A value whose containers are nested no deeper than the given depth. -/
def readValue : Nat → Reading Value
  | 0 => failHere .value 0
  | depth + 1 => do
    let cursor ← get
    match cursor.rest with
    | [] => failHere .value 0
    | '"' :: _ =>
      advance 1
      return .text (← readString)
    | '[' :: _ =>
      advance 1
      skipBlanks
      if ← skip ']' then return .array []
      readItems (readValue depth) [] (cursor.rest.length + 1)
    | '\x7b' :: _ =>
      advance 1
      skipBlanks
      if ← skip '\x7d' then return .object []
      readMembers (readValue depth) [] (cursor.rest.length + 1)
    | chars =>
      match word? chars with
      | some (word, value) =>
        advance word.length
        return value
      | none => readNumber

def readWholeText : Reading Value := do
  let start ← get
  if start.rest.head? = some '\ufeff' then failHere .byteOrderMark 0
  skipBlanks
  let value ← readValue (start.rest.length + 1)
  skipBlanks
  unless (← get).rest.isEmpty do failHere .extraData 0
  return value

end Values

def read [Host] (text : String) : Except Error Value :=
  let chars := text.toList
  match readWholeText ⟨chars, 0⟩ with
  | .ok (value, _) => .ok value
  | .error (.problem problem position) => .error (.malformed (.at problem chars position))
  | .error (.integerTooLong digits) => .error (.integerTooLong digits)

end Registrar.Json
