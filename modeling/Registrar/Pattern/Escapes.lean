import Registrar.Character.Classes
import Registrar.Pattern.Error
import Registrar.Pattern.Syntax
import Registrar.Text.Notation

namespace Registrar.Pattern

open Registrar.Character

structure Progress where
  source : String
  rest : List Token
  length : Nat
  dangling : Bool
  /-- The width of each group opened so far, from group 1 on; a group is open while it has none. -/
  groups : List (Option Width)
  names : GroupNames
  /-- The number of groups at the start of the outermost lookbehind around this place. -/
  lookbehindFrom : Option Nat
  /-- Numbers that conditions refer to, each with the position of its first use. -/
  conditions : List (Nat × Nat)
  flags : Flags

abbrev Reading := StateT Progress (Except Error)

namespace Progress

def position (progress : Progress) : Nat :=
  match progress.rest with
  | token :: _ => token.position
  | [] => progress.length

def nextGroup (progress : Progress) : Nat := progress.groups.length + 1

def closedWidth? (progress : Progress) (index : Nat) : Option Width :=
  if index = 0 then none else (progress.groups[index - 1]?).join

def width (progress : Progress) (node : Node) : Width :=
  node.width fun index ↦ (progress.closedWidth? index).getD ⟨0, 0⟩

end Progress

section Tokens

variable {α : Type}

def failAt (reason : Reason) (position : Nat) : Reading α := do
  throw (.malformed (← get).source reason (some position))

def failBack (reason : Reason) (distance : Nat) : Reading α := do
  failAt reason ((← get).position - distance)

def peek : Reading (Option Lexeme) := do
  return (← get).rest.head?.map (·.lexeme)

def advance : Reading Unit := do
  let progress ← get
  match progress.rest with
  | [] => return
  | _ :: rest =>
    if rest.isEmpty && progress.dangling then
      failAt .danglingBackslash (progress.length - 1)
    set { progress with rest }

def next : Reading (Option Lexeme) := do
  let lexeme ← peek
  advance
  return lexeme

def skip (c : Char) : Reading Bool := do
  if (← peek) = some (.plain c) then
    advance
    return true
  else
    return false

def readWhile (p : Char → Bool) : Nat → Reading (List Char)
  | 0 => return []
  | n + 1 => do
    match ← peek with
    | some (.plain c) =>
      if p c then
        advance
        return c :: (← readWhile p n)
      else
        return []
    | _ => return []

def isDigit (c : Char) : Bool := '0' ≤ c && c ≤ '9'

def isOctalDigit (c : Char) : Bool := '0' ≤ c && c ≤ '7'

def isHexDigit (c : Char) : Bool := (Text.hexValue? c).isSome

def isAsciiLetter (c : Char) : Bool := c.isAlpha

def readDigits : Reading (List Char) := do
  readWhile isDigit (← get).rest.length

def readTokensUntil (terminator : Char) (what : String) (read : List Char) :
    Nat → Reading (List Char)
  | 0 => return read
  | n + 1 => do
    match ← next with
    | none =>
      if read.isEmpty then failBack (.missingName what) 0
      failBack (.unterminatedName terminator) read.length
    | some lexeme =>
      if lexeme = .plain terminator then
        if read.isEmpty then failBack (.missingName what) 1
        return read
      else
        readTokensUntil terminator what (read ++ lexeme.chars) n

def readUntil (terminator : Char) (what : String) : Reading String := do
  return String.ofList (← readTokensUntil terminator what [] ((← get).rest.length + 1))

end Tokens

section Escapes

variable [Host]

def hexNumber (digits : List Char) : Nat :=
  Text.numberOfDigits 16 (digits.filterMap Text.hexValue?)

def octalNumber (digits : List Char) : Nat :=
  Text.numberOfDigits 8 (digits.filterMap Text.hexValue?)

def controlEscape? : Char → Option Nat
  | 'a' => some 7
  | 'b' => some 8
  | 'f' => some 12
  | 'n' => some 10
  | 'r' => some 13
  | 't' => some 9
  | 'v' => some 11
  | '\\' => some 92
  | _ => none

def classEscape? : Char → Option (CharClass × Bool)
  | 'd' => some (.digit, false)
  | 'D' => some (.digit, true)
  | 's' => some (.space, false)
  | 'S' => some (.space, true)
  | 'w' => some (.word, false)
  | 'W' => some (.word, true)
  | _ => none

def anchorEscape? (flags : Flags) : Char → Option Anchor
  | 'A' => some .textStart
  | 'b' => some (.wordBoundary flags.ascii false)
  | 'B' => some (.wordBoundary flags.ascii true)
  | 'Z' => some .textEnd
  | _ => none

/-- Code points of this size and above are refused without a look at where they stand. -/
def codeLimit : Nat := Nat.pow 2 31

def readHexEscape (letter : Char) (count : Nat) : Reading Nat := do
  let digits ← readWhile isHexDigit count
  let text := '\\' :: letter :: digits
  if digits.length ≠ count then
    failBack (.incompleteEscape (String.ofList text)) text.length
  if codeLimit ≤ hexNumber digits then throw .codeTooLarge
  if hexNumber digits > 0x10FFFF then
    failBack (.badEscape (String.ofList text)) text.length
  return hexNumber digits

def readNamedEscape : Reading Nat := do
  unless ← skip '\x7b' do failBack .missingBrace 0
  let name ← readUntil '\x7d' "character name"
  match Host.characterNamed? name with
  | some c => return c.toNat
  | none => failBack (.unknownCharacter name) (name.length + 4)

def failOctal (text : List Char) : Reading Nat :=
  failBack (.octalTooLarge (String.ofList text)) text.length

def readCommonEscape (c : Char) : Reading Nat :=
  match c with
  | 'x' => readHexEscape 'x' 2
  | 'u' => readHexEscape 'u' 4
  | 'U' => readHexEscape 'U' 8
  | 'N' => readNamedEscape
  | _ =>
    if isAsciiLetter c || isDigit c then
      failBack (.badEscape (String.ofList ['\\', c])) 2
    else
      return c.toNat

def readSetEscape (c : Char) : Reading SetItem := do
  match controlEscape? c, classEscape? c with
  | some code, _ => return .code code
  | _, some (kind, negated) => return .cls kind negated
  | none, none =>
    if isOctalDigit c then
      let digits := c :: (← readWhile isOctalDigit 2)
      if octalNumber digits > 0o377 then
        return .code (← failOctal ('\\' :: digits))
      return .code (octalNumber digits)
    else
      return .code (← readCommonEscape c)

/-- Inside a lookbehind, only groups that were closed before it may be referred to. -/
def checkLookbehind (index : Nat) : Reading Unit := do
  let progress ← get
  if let some start := progress.lookbehindFrom then
    if (progress.closedWidth? index).isNone then failBack .openGroup 0
    if start ≤ index then failBack .groupOfLookbehind 0

/-- A number after a backslash: a character in octal if it has three octal digits, otherwise a
group. -/
def readNumberEscape (flags : Flags) (c : Char) : Reading Node := do
  let second ← readWhile isDigit 1
  if isOctalDigit c && !second.isEmpty && second.all isOctalDigit then
    let third ← readWhile isOctalDigit 1
    if !third.isEmpty then
      let digits := c :: second ++ third
      if octalNumber digits > 0o377 then
        return .char flags.charMode false (← failOctal ('\\' :: digits))
      return .char flags.charMode false (octalNumber digits)
  let digits := c :: second
  let index := Text.numberOfDigits 10 (digits.filterMap Text.hexValue?)
  let progress ← get
  if index < progress.nextGroup then
    if (progress.closedWidth? index).isNone then
      failBack .openGroup (digits.length + 1)
    checkLookbehind index
    return .reference flags.charMode index
  failBack (.noSuchGroup index) digits.length

/-- What a sequence is made of. A repetition may follow neither an anchor nor a repetition. -/
inductive Item
  | plain (node : Node)
  | anchor (anchor : Anchor)
  | repeated (node : Node)

def Item.node : Item → Node
  | plain node | repeated node => node
  | .anchor a => .anchor a

def readEscape (flags : Flags) (c : Char) : Reading Item := do
  match anchorEscape? flags c, classEscape? c, controlEscape? c with
  | some anchor, _, _ => return .anchor anchor
  | _, some (kind, negated), _ => return .plain (.set flags.charMode false [.cls kind negated])
  | _, _, some code => return .plain (.char flags.charMode false code)
  | none, none, none =>
    if c = '0' then
      return .plain (.char flags.charMode false (octalNumber (← readWhile isOctalDigit 2)))
    else if isDigit c then
      return .plain (← readNumberEscape flags c)
    else
      return .plain (.char flags.charMode false (← readCommonEscape c))

end Escapes

section Sets

variable [Host]

def readSetItem : Lexeme → Reading SetItem
  | .plain c => return .code c.toNat
  | .escape c => readSetEscape c

def readSetItems (start : Nat) (items : List SetItem) : Nat → Reading (List SetItem)
  | 0 => failAt .unterminatedSet start
  | n + 1 => do
    match ← next with
    | none => failAt .unterminatedSet start
    | some first =>
      if first = .plain ']' && !items.isEmpty then return items
      let item ← readSetItem first
      if ← skip '-' then
        match ← next with
        | none => failAt .unterminatedSet start
        | some last =>
          if last = .plain ']' then return items ++ [item, .code '-'.toNat]
          match item, ← readSetItem last with
          | .code least, .code most =>
            if most < least then failRange first last
            readSetItems start (items ++ [.range least most]) n
          | _, _ => failRange first last
      else
        readSetItems start (items ++ [item]) n
where
  failRange {α : Type} (first last : Lexeme) : Reading α :=
    failBack (.badRange first.text last.text) (first.chars.length + 1 + last.chars.length)

def readSet (flags : Flags) (start : Nat) : Reading Node := do
  let negated ← skip '^'
  let items ← readSetItems start [] ((← get).rest.length + 1)
  match items.eraseDups with
  | [.code code] => return .char flags.charMode negated code
  | items => return .set flags.charMode negated items

end Sets

end Registrar.Pattern
