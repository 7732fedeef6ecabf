import Registrar.Character.Classes
import Registrar.Character.Printable
import Registrar.Text.Basic

namespace Registrar.Text

def hexDigit (value : Nat) : Char :=
  if value < 10 then Char.ofNat ('0'.toNat + value) else Char.ofNat ('a'.toNat + value - 10)

def hexadecimal : Nat → Nat → List Char
  | 0, _ => []
  | width + 1, n => hexadecimal width (n / 16) ++ [hexDigit (n % 16)]

def hexValue? (c : Char) : Option Nat :=
  if '0' ≤ c ∧ c ≤ '9' then some (c.toNat - '0'.toNat)
  else if 'a' ≤ c ∧ c ≤ 'f' then some (c.toNat - 'a'.toNat + 10)
  else if 'A' ≤ c ∧ c ≤ 'F' then some (c.toNat - 'A'.toNat + 10)
  else none

def numberOfDigits (base : Nat) (digits : List Nat) : Nat :=
  digits.foldl (fun n digit ↦ base * n + digit) 0

theorem length_hexadecimal (width n : Nat) : (hexadecimal width n).length = width := by
  induction width generalizing n with
  | zero => rfl
  | succ width ih => simp [hexadecimal, ih]

open Registrar.Character

def integerDigitLimit : Nat := 4300

def tooManyDigits (digits : Nat) : String :=
  s!"Exceeds the limit ({integerDigitLimit} digits) for integer string conversion: " ++
    s!"value has {digits} digits; use sys.set_int_max_str_digits() to increase the limit"

/-- Digit values of a text in which single underscores may separate digits. -/
def digitValues? : List Char → Option (List Nat)
  | [] => none
  | [c] => (decimalValue? c).map fun value ↦ [value]
  | c :: d :: rest => do
    let value ← decimalValue? c
    let more ← if d = '_' then digitValues? rest else digitValues? (d :: rest)
    return value :: more

def integer? (chars : List Char) : Option Int := do
  let (negative, digits) := match trimChars chars with
    | '-' :: rest => (true, rest)
    | '+' :: rest => (false, rest)
    | rest => (false, rest)
  let values ← digitValues? digits
  if values.length > integerDigitLimit then none
  let n := numberOfDigits 10 values
  return if negative then -(n : Int) else n

open Registrar.Character

def quoteFor (chars : List Char) : Char :=
  if chars.contains '\'' && !chars.contains '"' then '"' else '\''

def quotedChar (quote c : Char) : List Char :=
  if c = quote ∨ c = '\\' then ['\\', c]
  else if c = '\n' then ['\\', 'n']
  else if c = '\r' then ['\\', 'r']
  else if c = '\t' then ['\\', 't']
  else if isPrintable c then [c]
  else if c.toNat < 0x100 then '\\' :: 'x' :: hexadecimal 2 c.toNat
  else if c.toNat < 0x10000 then '\\' :: 'u' :: hexadecimal 4 c.toNat
  else '\\' :: 'U' :: hexadecimal 8 c.toNat

def quoted (text : String) : String :=
  let quote := quoteFor text.toList
  String.ofList (quote :: text.toList.flatMap (quotedChar quote) ++ [quote])

def lineAt (chars : List Char) (position : Nat) : Nat :=
  (chars.take position).count '\n' + 1

def columnAt (chars : List Char) (position : Nat) : Nat :=
  ((chars.take position).reverse.takeWhile (· ≠ '\n')).length + 1

end Registrar.Text

namespace Registrar

/-- What a program has from the machine it runs on. -/
class Host where
  characterNamed? : String → Option Char
  /-- The character that a text holds for half of a surrogate pair, given by its number. Alone, such
  a half is no character, and no text can hold it. -/
  standIn : Nat → Char
  /-- Whether the groups of a pattern are nested so deeply that the stack ends while it is read. How
  deep that is depends on where the program stands. -/
  overflows : String → Bool

abbrev Host.bare : Host := ⟨fun _ ↦ none, fun _ ↦ '\ufffd', fun _ ↦ false⟩

end Registrar
