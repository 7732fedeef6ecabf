import Registrar.Pattern.Matcher
import Registrar.Pattern.Reader

namespace Registrar.Pattern

structure StartSet where
  negated : Bool
  items : List SetItem
  deriving DecidableEq, Repr

def CharMode.isCased (mode : CharMode) (code : Nat) : Bool :=
  if mode.ascii then (Char.ofNat code).isAlpha
  else Character.lowerCode code != code || Character.upperCode code != code

namespace SetItem

def isClass : SetItem → Bool
  | cls .. => true
  | _ => false

def isCaseless (mode : CharMode) : SetItem → Bool
  | code single => !mode.isCased single
  | range least most =>
    most ≤ lastBasicCode && (List.range' least (most + 1 - least)).all (!mode.isCased ·)
  | cls .. => true

end SetItem

/-- The set at the start of a node, if it names a class and none of its members has case. -/
def Node.startSet? : Node → Option StartSet
  | .set mode negated items =>
    if items.any (·.isClass) && (!mode.ignoreCase || items.all (·.isCaseless mode)) then
      some ⟨negated, items⟩
    else none
  | .group _ body => body.startSet?
  | .seq .empty second => second.startSet?
  | .seq first _ => first.startSet?
  | _ => none

namespace StartSet

def holds (set : StartSet) (ascii : Bool) (c : Char) : Bool :=
  setContains ⟨false, ascii⟩ set.items c.toNat != set.negated

def holdsAt (set : StartSet) (ascii : Bool) (text : Array Char) (position : Nat) : Bool :=
  text[position]?.any (set.holds ascii)

end StartSet

end Registrar.Pattern

namespace Registrar

structure Pattern where
  source : String
  node : Pattern.Node
  groupCount : Nat
  names : Pattern.GroupNames
  /-- Whether its classes are those of ASCII, unless a group says otherwise. -/
  ascii : Bool

namespace Pattern

def compile [Host] (source : String) : Except Error Pattern := do
  if Host.overflows source then throw .nestedTooDeep
  let chars := source.toList
  let (rest, dangling) := tokens 0 chars
  let start : Progress :=
    { source, rest, length := chars.length, dangling, groups := [], names := .empty,
      lookbehindFrom := none, conditions := [], flags := {} }
  let (node, progress) ← readPattern start
  return {
    source, node
    groupCount := progress.groups.length
    names := progress.names
    ascii := progress.flags.ascii }

structure Match where
  text : Array Char
  start : Nat
  stop : Nat
  captures : Captures

def Match.group? (m : Match) (index : Nat) : Option String :=
  (m.captures.span? index).map fun (start, stop) ↦
    String.ofList (m.text.extract start stop).toList

def matchAt? (pattern : Pattern) (text : Array Char) (start : Nat) : Option Match :=
  (Step.first (pattern.node.run text) start {}).map fun (stop, captures) ↦
    { text, start, stop, captures }

def search (pattern : Pattern) (text : String) : Option Match :=
  let chars := text.toList.toArray
  let set := pattern.node.startSet?
  (List.range (chars.size + 1)).findSome? fun start ↦
    if set.all (·.holdsAt pattern.ascii chars start) then pattern.matchAt? chars start else none

end Pattern

end Registrar
