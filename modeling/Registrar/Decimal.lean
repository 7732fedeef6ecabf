import Registrar.Character.Classes
import Registrar.Text.Basic
import Registrar.Text.Notation

namespace Registrar

/-- A floating-point number. A finite one has the magnitude `mantissa * 2 ^ exponent`, where the
mantissa has 53 bits unless the exponent is the least one. -/
inductive Binary64
  | finite (negative : Bool) (mantissa : Nat) (exponent : Int)
  | infinite (negative : Bool)
  | nan
  deriving DecidableEq, Repr

namespace Binary64

def leastExponent : Int := -1074

def greatestExponent : Int := 971

def zero (negative : Bool) : Binary64 := finite negative 0 leastExponent

def roundDiv (num den : Nat) : Nat :=
  let quotient := num / den
  let twice := 2 * (num % den)
  if twice < den then quotient
  else if den < twice then quotient + 1
  else quotient + quotient % 2

def scale (num den : Nat) (exponent : Int) : Nat × Nat :=
  match exponent with
  | .ofNat e => (num, den * Nat.pow 2 e)
  | .negSucc e => (num * Nat.pow 2 (e + 1), den)

def ofQuotient (negative : Bool) (num den : Nat) : Binary64 :=
  let low : Int := (num.log2 : Int) - den.log2 - 53
  let (n, d) := scale num den low
  let exponent := max leastExponent (if n / d < Nat.pow 2 53 then low else low + 1)
  let (n, d) := scale num den exponent
  let mantissa := roundDiv n d
  let (mantissa, exponent) :=
    if mantissa = Nat.pow 2 53 then (Nat.pow 2 52, exponent + 1) else (mantissa, exponent)
  if greatestExponent < exponent then infinite negative else finite negative mantissa exponent

/-- The floating-point number nearest to `digits * 10 ^ exponent`. Exponents far out of range are
settled without computing the power. -/
def ofDecimal (negative : Bool) (digits : Nat) (exponent : Int) : Binary64 :=
  if digits = 0 then zero negative
  else
    let magnitude := (Nat.toDigits 10 digits).length + exponent
    if 400 < magnitude then infinite negative
    else if magnitude < -400 then zero negative
    else match exponent with
      | .ofNat e => ofQuotient negative (digits * Nat.pow 10 e) 1
      | .negSucc e => ofQuotient negative digits (Nat.pow 10 (e + 1))

structure Parts where
  whole : List Nat
  fraction : List Nat
  exponent : Int

def Parts.toBinary64 (parts : Parts) (negative : Bool) : Binary64 :=
  ofDecimal negative (Text.numberOfDigits 10 (parts.whole ++ parts.fraction))
    (parts.exponent - parts.fraction.length)

def overPowerOfTen (num den : Nat) (exponent : Int) : Nat × Nat :=
  match exponent with
  | .ofNat e => (num, den * Nat.pow 10 e)
  | .negSucc e => (num * Nat.pow 10 (e + 1), den)

def quotient (mantissa : Nat) (exponent : Int) : Nat × Nat :=
  match exponent with
  | .ofNat e => (mantissa * Nat.pow 2 e, 1)
  | .negSucc e => (mantissa, Nat.pow 2 (e + 1))

/-- The least and the greatest quarter-ulp multiple that still rounds to the number, in units of a
quarter of the last place. -/
def bounds (mantissa : Nat) (exponent : Int) : Nat × Nat :=
  let low :=
    if mantissa = Nat.pow 2 52 ∧ leastExponent < exponent then 4 * mantissa - 1
    else 4 * mantissa - 2
  (low, 4 * mantissa + 2)

/-- Whether `digits * 10 ^ power` rounds to the number. The ends of the interval round to it if its
mantissa is even. -/
def readsBack (mantissa : Nat) (exponent : Int) (digits : Nat) (power : Int) : Bool :=
  let (low, high) := bounds mantissa exponent
  let (ln, ld) := quotient low (exponent - 2)
  let (hn, hd) := quotient high (exponent - 2)
  let (d, one) := match power with
    | .ofNat e => (digits * Nat.pow 10 e, 1)
    | .negSucc e => (digits, Nat.pow 10 (e + 1))
  if mantissa % 2 = 0 then ln * one ≤ d * ld && d * hd ≤ hn * one
  else ln * one < d * ld && d * hd < hn * one

def onGrid (mantissa : Nat) (exponent power : Int) : Option Nat :=
  let (num, den) := quotient mantissa exponent
  let (n, d) := overPowerOfTen num den power
  let below := n / d
  let near := roundDiv n d
  let far := if near = below then below + 1 else below
  [near, far].find? fun digits ↦ 0 < digits && readsBack mantissa exponent digits power

def powerBelow (num den : Nat) : Int :=
  if den ≤ num then ((Nat.toDigits 10 (num / den)).length : Int) - 1
  else -((Nat.toDigits 10 (den / num)).length : Int)

/-- The fewest digits that read back, with the power of ten of the last one. -/
def shortest (mantissa : Nat) (exponent : Int) : Nat × Int :=
  let (num, den) := quotient mantissa exponent
  let top := powerBelow num den + 1
  ((List.range 19).findSome? fun (count : Nat) ↦
    let power := top - count
    (onGrid mantissa exponent power).map (·, power)).getD (mantissa, exponent)

def stripZeros (digits : List Char) : List Char := Text.dropWhileRight (· == '0') digits

def positional (digits : List Char) (point : Int) : List Char :=
  if point ≤ 0 then '0' :: '.' :: List.replicate (-point).toNat '0' ++ digits
  else
    let whole := digits.take point.toNat
    let fraction := digits.drop point.toNat
    whole ++ List.replicate (point.toNat - whole.length) '0' ++
      '.' :: (if fraction.isEmpty then ['0'] else fraction)

def scientific (digits : List Char) (point : Int) : List Char :=
  let exponent := point - 1
  let power := Nat.toDigits 10 exponent.natAbs
  digits.take 1 ++ (if digits.length ≤ 1 then [] else '.' :: digits.drop 1) ++
    'e' :: (if exponent < 0 then '-' else '+') ::
      List.replicate (2 - power.length) '0' ++ power

def magnitudeChars (mantissa : Nat) (exponent : Int) : List Char :=
  if mantissa = 0 then ['0', '.', '0']
  else
    let (digits, power) := shortest mantissa exponent
    let chars := Nat.toDigits 10 digits
    let point := chars.length + power
    if -4 < point ∧ point ≤ 16 then positional (stripZeros chars) point
    else scientific (stripZeros chars) point

def render : Binary64 → String
  | .nan => "nan"
  | .infinite negative => if negative then "-inf" else "inf"
  | .finite negative mantissa exponent =>
    String.ofList ((if negative then ['-'] else []) ++ magnitudeChars mantissa exponent)

end Binary64

end Registrar
