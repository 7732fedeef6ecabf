import Registrar.Character.Case
import Registrar.Character.Classes
import Registrar.Pattern.Syntax

namespace Registrar.Pattern

open Registrar.Character

def sharedUpperCase : List (List Nat) :=
  [[105, 305], [115, 383], [181, 956], [837, 953, 8126], [912, 8147], [944, 8163], [946, 976],
   [949, 1013], [952, 977], [954, 1008], [960, 982], [961, 1009], [962, 963], [966, 981],
   [1074, 7296], [1076, 7297], [1086, 7298], [1089, 7299], [1090, 7300, 7301], [1098, 7302],
   [1123, 7303], [7304, 42571], [7777, 7835], [64261, 64262]]

def caseMates (code : Nat) : List Nat :=
  (sharedUpperCase.find? fun mates ↦ mates.contains code).getD [code]

def lowerAscii (code : Nat) : Nat := if 65 ≤ code ∧ code ≤ 90 then code + 32 else code

def lowerAsciiSources (code : Nat) : List Nat :=
  if 97 ≤ code ∧ code ≤ 122 then [code, code - 32]
  else if 65 ≤ code ∧ code ≤ 90 then [] else [code]

namespace CharMode

def fold (mode : CharMode) (code : Nat) : Nat :=
  if !mode.ignoreCase then code else if mode.ascii then lowerAscii code else lowerCode code

def sameFolded (mode : CharMode) (folded other : Nat) : Bool :=
  folded == other || (mode.ignoreCase && !mode.ascii && (caseMates other).contains folded)

def same (mode : CharMode) (code other : Nat) : Bool :=
  mode.sameFolded (mode.fold code) (mode.fold other)

def sources (mode : CharMode) (folded : Nat) : List Nat :=
  if !mode.ignoreCase then [folded]
  else if mode.ascii then lowerAsciiSources folded
  else (caseMates folded).flatMap lowerSources

end CharMode

def CharClass.contains (ascii : Bool) (code : Nat) : CharClass → Bool
  | .digit => if ascii then 48 ≤ code && code ≤ 57 else isDecimal (Char.ofNat code)
  | .space =>
    if ascii then (9 ≤ code && code ≤ 13) || code == 32 else isBlank (Char.ofNat code)
  | .word =>
    let c := Char.ofNat code
    c == '_' || (if ascii then c.isAlphanum else isLetter c || isNumeral c)

/-- The code points above this one are compared more simply when case is ignored. -/
def lastBasicCode : Nat := 0xFFFF

/-- Whether a folded character belongs to a member of a set. Members above `lastBasicCode` are not
folded: a single character is compared as written, a range also with the upper case. -/
def SetItem.contains (mode : CharMode) (folded : Nat) : SetItem → Bool
  | .code single =>
    if mode.fold single ≤ lastBasicCode then mode.sameFolded folded (mode.fold single)
    else folded == single
  | .range least most =>
    if !mode.ignoreCase then least ≤ folded && folded ≤ most
    else
      (mode.sources folded).any (fun source ↦ least ≤ source && source ≤ min most lastBasicCode) ||
        (lastBasicCode < most &&
          ((least ≤ folded && folded ≤ most) ||
            (least ≤ upperCode folded && upperCode folded ≤ most)))
  | .cls kind negated => kind.contains mode.ascii folded != negated

def setContains (mode : CharMode) (items : List SetItem) (code : Nat) : Bool :=
  items.any fun item ↦ item.contains mode (mode.fold code)

structure Captures where
  opened : List (Nat × Nat) := []
  closed : List (Nat × Nat) := []
  deriving Repr

def Captures.span? (captures : Captures) (index : Nat) : Option (Nat × Nat) := do
  let start ← captures.opened.lookup index
  let stop ← captures.closed.lookup index
  if start ≤ stop then some (start, stop) else none

abbrev Found := Nat × Captures

abbrev Continuation := Nat → Captures → Option Found

/-- Matching of a node from a position on, up to and with what follows it. -/
abbrev Step := Nat → Captures → Continuation → Option Found

def Step.first (step : Step) (position : Nat) (captures : Captures) : Option Found :=
  step position captures fun position captures ↦ some (position, captures)

variable (text : Array Char)

def isWordAt (ascii : Bool) (position : Nat) : Bool :=
  text[position]?.any fun c ↦ CharClass.word.contains ascii c.toNat

def isBreakAt (position : Nat) : Bool := text[position]? = some '\n'

/-- Whether an anchor holds at a position. Neither kind of word boundary holds in an empty text. -/
def Anchor.holds (position : Nat) : Anchor → Bool
  | .textStart => position = 0
  | .textEnd => position = text.size
  | .lineStart => position = 0 || isBreakAt text (position - 1)
  | .lineEnd => position = text.size || isBreakAt text position
  | .finalLineEnd =>
    position = text.size || (position + 1 = text.size && isBreakAt text position)
  | .wordBoundary ascii negated =>
    !text.isEmpty &&
      ((0 < position && isWordAt text ascii (position - 1)) != isWordAt text ascii position)
        != negated

def takeChar (test : Char → Bool) : Step := fun position captures next ↦
  match text[position]? with
  | some c => if test c then next (position + 1) captures else none
  | none => none

def takeCopy (mode : CharMode) (start stop : Nat) : Step := fun position captures next ↦
  let wanted := (text.extract start stop).map fun c ↦ mode.fold c.toNat
  let found := (text.extract position (position + (stop - start))).map fun c ↦ mode.fold c.toNat
  if wanted = found then next (position + (stop - start)) captures else none

/-- Whether another round may follow `count` rounds, the last optional one of which started at
`last`: the limit must not be reached, and an empty round ends the repetition. -/
def mayRepeat (most : Option Nat) (count : Nat) (last : Option Nat) (position : Nat) : Bool :=
  most.all (count < ·) && last ≠ some position

/-- Rounds of a step, as many as possible first. `fuel` bounds the number of rounds. -/
def repeatGreedy (step : Step) (least : Nat) (most : Option Nat) :
    (fuel count : Nat) → (last : Option Nat) → Step
  | 0, _, _ => fun position captures next ↦ next position captures
  | fuel + 1, count, last => fun position captures next ↦
    if count < least then
      step position captures fun position captures ↦
        repeatGreedy step least most fuel (count + 1) last position captures next
    else if mayRepeat most count last position then
      (step position captures fun after captures ↦
        repeatGreedy step least most fuel (count + 1) (some position) after captures next).orElse
          fun _ ↦ next position captures
    else next position captures

def repeatLazy (step : Step) (least : Nat) (most : Option Nat) :
    (fuel count : Nat) → (last : Option Nat) → Step
  | 0, _, _ => fun position captures next ↦ next position captures
  | fuel + 1, count, last => fun position captures next ↦
    if count < least then
      step position captures fun position captures ↦
        repeatLazy step least most fuel (count + 1) last position captures next
    else
      (next position captures).orElse fun _ ↦
        if mayRepeat most count last position then
          step position captures fun after captures ↦
            repeatLazy step least most fuel (count + 1) (some position) after captures next
        else none

def repeatPossessive (step : Step) (least : Nat) (most : Option Nat) :
    (fuel count : Nat) → (last : Option Nat) → Nat → Captures → Option Found
  | 0, _, _, position, captures => some (position, captures)
  | fuel + 1, count, last, position, captures =>
    if count < least then
      (step.first position captures).bind fun (after, captures) ↦
        repeatPossessive step least most fuel (count + 1) last after captures
    else if mayRepeat most count last position then
      match step.first position captures with
      | some (after, captures) =>
        repeatPossessive step least most fuel (count + 1) (some position) after captures
      | none => some (position, captures)
    else some (position, captures)

/-- Rounds of a step. Beyond the least number every round but the last one moves on, so there are
no more of them than characters left and two. -/
def iterateStep (greed : Greed) (step : Step) (least : Nat) (most : Option Nat) : Step :=
  fun position captures next ↦
    let fuel := least + (text.size - position) + 2
    match greed with
    | .greedy => repeatGreedy step least most fuel 0 none position captures next
    | .lazy => repeatLazy step least most fuel 0 none position captures next
    | .possessive =>
      (repeatPossessive step least most fuel 0 none position captures).bind fun (after, captures) ↦
        next after captures

def lookStep (negated : Bool) (step : Step) (start : Nat) : Step := fun position captures next ↦
  match step.first start captures with
  | some (_, inner) => if negated then none else next position inner
  | none => if negated then next position captures else none

def Node.run : Node → Step
  | .empty => fun position captures next ↦ next position captures
  | .char mode negated code => takeChar text fun c ↦ mode.same c.toNat code != negated
  | .set mode negated items => takeChar text fun c ↦ setContains mode items c.toNat != negated
  | .anyChar lineBreaks => takeChar text fun c ↦ lineBreaks || c ≠ '\n'
  | .anchor kind => fun position captures next ↦
    if kind.holds text position then next position captures else none
  | .seq first second => fun position captures next ↦
    first.run position captures fun position captures ↦ second.run position captures next
  | .alt first second => fun position captures next ↦
    (first.run position captures next).orElse fun _ ↦ second.run position captures next
  | .group index body => fun position captures next ↦
    body.run position { captures with opened := (index, position) :: captures.opened }
      fun after captures ↦
        next after { captures with closed := (index, after) :: captures.closed }
  | .iterate greed least most body => iterateStep text greed body.run least most
  | .reference mode index => fun position captures next ↦
    match captures.span? index with
    | some (start, stop) => takeCopy text mode start stop position captures next
    | none => none
  | .conditional index yes no => fun position captures next ↦
    if (captures.span? index).isSome then yes.run position captures next
    else no.run position captures next
  | .lookahead negated body => fun position captures next ↦
    lookStep negated body.run position position captures next
  | .lookbehind negated width body => fun position captures next ↦
    if width.least ≤ position then
      lookStep negated body.run (position - width.least) position captures next
    else if negated then next position captures else none
  | .atomic body => fun position captures next ↦
    (body.run.first position captures).bind fun (after, captures) ↦ next after captures

end Registrar.Pattern
