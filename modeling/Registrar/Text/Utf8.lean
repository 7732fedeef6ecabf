import Registrar.Text.Notation

namespace Registrar.Text

inductive Utf8Problem
  | invalidStart
  | invalidContinuation
  | unexpectedEnd
  deriving DecidableEq, Repr

def Utf8Problem.message : Utf8Problem → String
  | invalidStart => "invalid start byte"
  | invalidContinuation => "invalid continuation byte"
  | unexpectedEnd => "unexpected end of data"

structure Utf8Error where
  problem : Utf8Problem
  start : Nat
  count : Nat
  first : UInt8
  deriving DecidableEq, Repr

def Utf8Error.message (e : Utf8Error) : String :=
  let place :=
    if e.count = 1 then
      s!"byte 0x{String.ofList (hexadecimal 2 e.first.toNat)} in position {e.start}"
    else s!"bytes in position {e.start}-{e.start + e.count - 1}"
  s!"'utf-8' codec can't decode {place}: {e.problem.message}"

/-- What the first byte of a character says: its share of the code point, the number of bytes that
follow, and the least and the greatest value of the next one. -/
def lead? (byte : UInt8) : Option (Nat × Nat × UInt8 × UInt8) :=
  let n := byte.toNat
  if n < 0x80 then some (n, 0, 0, 0)
  else if n < 0xC2 then none
  else if n < 0xE0 then some (n - 0xC0, 1, 0x80, 0xBF)
  else if n = 0xE0 then some (0, 2, 0xA0, 0xBF)
  else if n = 0xED then some (13, 2, 0x80, 0x9F)
  else if n < 0xF0 then some (n - 0xE0, 2, 0x80, 0xBF)
  else if n = 0xF0 then some (0, 3, 0x90, 0xBF)
  else if n < 0xF4 then some (n - 0xF0, 3, 0x80, 0xBF)
  else if n = 0xF4 then some (4, 3, 0x80, 0x8F)
  else none

/-- The code point whose first `taken` bytes gave `value`, with the bytes after it; or what is
wrong, with the number of bytes that are. -/
def takeTails (value taken : Nat) :
    (tails : Nat) → (low high : UInt8) → List UInt8 →
      Except (Utf8Problem × Nat) (Nat × List UInt8)
  | 0, _, _, rest => .ok (value, rest)
  | _ + 1, _, _, [] => .error (.unexpectedEnd, taken)
  | tails + 1, low, high, byte :: rest =>
    if low ≤ byte ∧ byte ≤ high then
      takeTails (value * 64 + (byte.toNat - 0x80)) (taken + 1) tails 0x80 0xBF rest
    else .error (.invalidContinuation, taken)

theorem length_takeTails {value taken tails : Nat} {low high : UInt8} {bytes rest : List UInt8}
    {code : Nat} (h : takeTails value taken tails low high bytes = .ok (code, rest)) :
    rest.length ≤ bytes.length := by
  induction tails generalizing value taken low high bytes with
  | zero => cases h; exact Nat.le_refl _
  | succ tails ih =>
    cases bytes with
    | nil => cases h
    | cons byte bytes =>
      rw [takeTails] at h
      split at h
      · exact Nat.le_succ_of_le (ih h)
      · cases h

def decodeFrom (position : Nat) : List UInt8 → Except Utf8Error (List Char)
  | [] => .ok []
  | byte :: bytes =>
    match lead? byte with
    | none => .error ⟨.invalidStart, position, 1, byte⟩
    | some (value, tails, low, high) =>
      match h : takeTails value 1 tails low high bytes with
      | .error (problem, count) => .error ⟨problem, position, count, byte⟩
      | .ok (code, rest) => do
        return Char.ofNat code :: (← decodeFrom (position + tails + 1) rest)
termination_by bytes => bytes.length
decreasing_by exact Nat.lt_succ_of_le (length_takeTails h)

def decodeUtf8 (bytes : List UInt8) : Except Utf8Error String :=
  (decodeFrom 0 bytes).map String.ofList

end Registrar.Text
