import Registrar.Pattern.Groups

namespace Registrar.Pattern

section Repetitions

def countLimit : Nat := Nat.pow 2 32 - 1

def readCount (digits : List Char) : Reading Nat := do
  if digits.length > Text.integerDigitLimit then throw (.countTooLong digits.length)
  let count := Text.numberOfDigits 10 (digits.filterMap Text.hexValue?)
  if countLimit ≤ count then throw .countTooLarge
  return count

/-- The counts between braces, after the opening one; nothing if the brace stands for itself, and
then nothing is passed over. -/
def readCounts? : Reading (Option (Nat × Option Nat)) := do
  if (← peek) = some (.plain '\x7d') then return none
  let before ← get
  let start := before.position
  let low ← readDigits
  let high ← if ← skip ',' then readDigits else pure low
  unless ← skip '\x7d' do
    set before
    return none
  let least ← if low.isEmpty then pure 0 else readCount low
  if high.isEmpty then return some (least, none)
  let most ← readCount high
  if most < least then failAt .reversedCounts start
  return some (least, some most)

def readGreed : Reading Greed := do
  if ← skip '?' then return .lazy
  if ← skip '+' then return .possessive
  return .greedy

/-- A repetition of the last one of the items, which stand in reverse order; its counts have been
read and it starts at `start`. -/
def readRepetition (start : Nat) (counts : Nat × Option Nat) : List Item → Reading (List Item)
  | [] | .anchor _ :: _ => failAt .nothingToRepeat start
  | .repeated _ :: _ => failAt .multipleRepeat start
  | .plain node :: items => do
    return .repeated (.iterate (← readGreed) counts.1 counts.2 node) :: items

end Repetitions

section Sequences

variable [Host]

/-- Reads what stands between parentheses: `alternatives` all of it, `branch` as far as the next
bar. -/
structure Inner where
  alternatives : Flags → Reading Node
  branch : Flags → Reading Node

inductive Opened
  | item (node : Node)
  | nothing
  | flags (flags : Flags)

def readBranches (inner : Inner) (flags : Flags) (index : Nat) : Reading Node := do
  let yes ← inner.branch flags
  if ← skip '|' then
    let no ← inner.branch flags
    if (← peek) = some (.plain '|') then failBack .thirdBranch 0
    return .conditional index yes no
  else
    return .conditional index yes .empty

def readLookbehind (inner : Inner) (flags : Flags) : Reading (Width × Node) := do
  let outer := (← get).lookbehindFrom
  modify fun progress ↦
    { progress with lookbehindFrom := outer.getD progress.nextGroup }
  let body ← inner.alternatives flags
  modify fun progress ↦ { progress with lookbehindFrom := outer }
  return ((← get).width body, body)

/-- A group, after its parenthesis, which stands at `start`. Flags of the whole pattern may stand
only where `leading` holds. -/
def readGroup (inner : Inner) (flags : Flags) (leading : Bool) (start : Nat) : Reading Opened := do
  match ← readGroupHead flags start with
  | .comment => return .nothing
  | .reference node => return .item node
  | .flags on =>
    modify fun progress ↦ { progress with flags := on.foldl (·.set true ·) progress.flags }
    unless leading do failAt .lateFlags start
    return .flags (← get).flags
  | .capturing name =>
    let index ← openGroup name
    let body ← inner.alternatives flags
    closeGroup start
    modify fun progress ↦
      { progress with groups := progress.groups.set (index - 1) (some (progress.width body)) }
    return .item (.group index body)
  | .noncapturing within =>
    let body ← inner.alternatives within
    closeGroup start
    return .item body
  | .atomic =>
    let body ← inner.alternatives flags
    closeGroup start
    return .item (.atomic body)
  | .lookahead negated =>
    let body ← inner.alternatives flags
    closeGroup start
    return .item (.lookahead negated body)
  | .lookbehind negated =>
    let (width, body) ← readLookbehind inner flags
    closeGroup start
    return .item (.lookbehind negated width body)
  | .conditional index =>
    let node ← readBranches inner flags index
    closeGroup start
    return .item node

def isIgnoredBlank (c : Char) : Bool :=
  c = ' ' || ('\t' ≤ c && c ≤ '\r')

def skipLine : Nat → Reading Unit
  | 0 => return
  | n + 1 => do
    match ← next with
    | none | some (.plain '\n') => return
    | some _ => skipLine n

def countsOf : Char → Option (Nat × Option Nat)
  | '?' => some (0, some 1)
  | '*' => some (0, none)
  | '+' => some (1, none)
  | _ => none

def readItem (inner : Inner) (flags : Flags) (leading : Bool) (items : List Item) (start : Nat)
    (c : Char) : Reading (List Item × Flags) := do
  let literal : Item := .plain (.char flags.charMode false c.toNat)
  match c with
  | '[' => return (.plain (← readSet flags start) :: items, flags)
  | '.' => return (.plain (.anyChar flags.dotAll) :: items, flags)
  | '^' => return (.anchor (if flags.multiline then .lineStart else .textStart) :: items, flags)
  | '$' => return (.anchor (if flags.multiline then .lineEnd else .finalLineEnd) :: items, flags)
  | '(' =>
    match ← readGroup inner flags (leading && items.isEmpty) start with
    | .item node => return (.plain node :: items, flags)
    | .nothing => return (items, flags)
    | .flags flags => return (items, flags)
  | '\x7b' =>
    match ← readCounts? with
    | some counts => return (← readRepetition start counts items, flags)
    | none => return (literal :: items, flags)
  | c =>
    match countsOf c with
    | some counts => return (← readRepetition start counts items, flags)
    | none => return (literal :: items, flags)

/-- A sequence up to a bar, a closing parenthesis or the end. The items so far stand in reverse
order. -/
def readItems (inner : Inner) (leading : Bool) (flags : Flags) (items : List Item) :
    Nat → Reading (Node × Flags)
  | 0 => return (Node.ofList (items.reverse.map Item.node), flags)
  | n + 1 => do
    let start := (← get).position
    match ← peek with
    | none | some (.plain '|') | some (.plain ')') =>
      return (Node.ofList (items.reverse.map Item.node), flags)
    | some lexeme =>
      advance
      match lexeme with
      | .escape c => readItems inner leading flags ((← readEscape flags c) :: items) n
      | .plain c =>
        if flags.verbose && isIgnoredBlank c then
          readItems inner leading flags items n
        else if flags.verbose && c = '#' then
          skipLine ((← get).rest.length + 1)
          readItems inner leading flags items n
        else
          let (items, flags) ← readItem inner flags leading items start c
          readItems inner leading flags items n

def readSequence (inner : Inner) (leading : Bool) (flags : Flags) : Reading (Node × Flags) := do
  readItems inner leading flags [] ((← get).rest.length + 1)

def readMore (inner : Inner) (flags : Flags) : Nat → Reading (List Node)
  | 0 => return []
  | n + 1 => do
    if ← skip '|' then
      let (node, _) ← readSequence inner false flags
      return node :: (← readMore inner flags n)
    else
      return []

def readAlternatives (inner : Inner) (leading : Bool) (flags : Flags) : Reading Node := do
  let (first, flags) ← readSequence inner leading flags
  return Node.oneOf first (← readMore inner flags ((← get).rest.length + 1))

/-- Reads groups that are nested no deeper than the given depth. -/
def innerOf : Nat → Inner
  | 0 => ⟨fun _ ↦ pure .empty, fun _ ↦ pure .empty⟩
  | depth + 1 =>
    ⟨readAlternatives (innerOf depth) false,
      fun flags ↦ return (← readSequence (innerOf depth) false flags).1⟩

end Sequences

section Checks

def Greed.operator : Greed → String
  | greedy => "MAX_REPEAT"
  | lazy => "MIN_REPEAT"
  | possessive => "POSSESSIVE_REPEAT"

def widthLimit : Nat := Nat.pow 2 32 - 1

/-- The first rule that a node breaks which can be told only when all of the pattern is known. -/
def Node.late? (template : Bool) : Node → Option Reason
  | .seq first second | .alt first second | .conditional _ first second =>
    (first.late? template).or (second.late? template)
  | .group _ body | .lookahead _ body | .atomic body => body.late? template
  | .iterate greed _ _ body =>
    if template then some (.repeatInTemplate greed.operator) else body.late? template
  | .lookbehind _ width body =>
    if widthLimit < width.least then some .wideLookbehind
    else if width.least ≠ width.most then some .variableLookbehind
    else body.late? template
  | _ => none

def readPattern [Host] : Reading Node := do
  let start ← get
  if start.rest.isEmpty && start.dangling then failAt .danglingBackslash (start.length - 1)
  let node ← readAlternatives (innerOf (start.rest.length + 1)) true start.flags
  let progress ← get
  if progress.flags.ascii && progress.flags.unicode then throw .asciiAndUnicode
  if (← peek).isSome then failBack .unbalanced 0
  if let some (index, position) := progress.conditions.find? (progress.nextGroup ≤ ·.1) then
    failAt (.noSuchGroup index) position
  if let some reason := node.late? progress.flags.template then
    throw (.malformed progress.source reason none)
  return node

end Checks

end Registrar.Pattern
