import Registrar.Character.Classes

namespace Registrar.Pattern

inductive CharClass
  | digit
  | space
  | word
  deriving DecidableEq, Repr

/-- How characters are compared: with or without case, by all of Unicode or by ASCII alone. -/
structure CharMode where
  ignoreCase : Bool
  ascii : Bool
  deriving DecidableEq, Repr

inductive SetItem
  | code (code : Nat)
  | range (least most : Nat)
  | cls (kind : CharClass) (negated : Bool)
  deriving DecidableEq, Repr

inductive Anchor
  | textStart
  | textEnd
  | lineStart
  | lineEnd
  /-- The end of the text, or just before a line break that ends the text. -/
  | finalLineEnd
  | wordBoundary (ascii negated : Bool)
  deriving DecidableEq, Repr

inductive Greed
  | greedy
  | lazy
  | possessive
  deriving DecidableEq, Repr

structure Width where
  least : Nat
  most : Nat
  deriving DecidableEq, Repr

inductive Node
  | empty
  | char (mode : CharMode) (negated : Bool) (code : Nat)
  | set (mode : CharMode) (negated : Bool) (items : List SetItem)
  /-- Any character, a line break only if `lineBreaks` is set. -/
  | anyChar (lineBreaks : Bool)
  | anchor (anchor : Anchor)
  | seq (first second : Node)
  | alt (first second : Node)
  | group (index : Nat) (body : Node)
  | iterate (greed : Greed) (least : Nat) (most : Option Nat) (body : Node)
  | reference (mode : CharMode) (index : Nat)
  | conditional (index : Nat) (yes no : Node)
  | lookahead (negated : Bool) (body : Node)
  | lookbehind (negated : Bool) (width : Width) (body : Node)
  | atomic (body : Node)
  deriving DecidableEq, Repr

def Node.ofList : List Node → Node
  | [] => .empty
  | [node] => node
  | node :: rest => .seq node (Node.ofList rest)

def Node.oneOf (first : Node) : List Node → Node
  | [] => first
  | second :: rest => .alt first (Node.oneOf second rest)

inductive Flag
  | ignoreCase
  | locale
  | multiline
  | dotAll
  | verbose
  | ascii
  | template
  | unicode
  deriving DecidableEq, Repr

namespace Flag

def ofChar? : Char → Option Flag
  | 'i' => some ignoreCase
  | 'L' => some locale
  | 'm' => some multiline
  | 's' => some dotAll
  | 'x' => some verbose
  | 'a' => some ascii
  | 't' => some template
  | 'u' => some unicode
  | _ => none

def isType : Flag → Bool
  | ascii | locale | unicode => true
  | _ => false

end Flag

structure Flags where
  ignoreCase : Bool := false
  multiline : Bool := false
  dotAll : Bool := false
  verbose : Bool := false
  ascii : Bool := false
  template : Bool := false
  unicode : Bool := false
  deriving DecidableEq, Repr

namespace Flags

def set (flags : Flags) (value : Bool) : Flag → Flags
  | .ignoreCase => { flags with ignoreCase := value }
  | .locale => flags
  | .multiline => { flags with multiline := value }
  | .dotAll => { flags with dotAll := value }
  | .verbose => { flags with verbose := value }
  | .ascii => { flags with ascii := value }
  | .template => { flags with template := value }
  | .unicode => { flags with unicode := value }

def within (flags : Flags) (on off : List Flag) : Flags :=
  let start := if on.any Flag.isType then { flags with ascii := false, unicode := false } else flags
  off.foldl (·.set false ·) (on.foldl (·.set true ·) start)

def charMode (flags : Flags) : CharMode := ⟨flags.ignoreCase, flags.ascii⟩

end Flags

namespace Width

/-- Widths are not counted beyond this bound, which stands for "any number". -/
def limit : Nat := Nat.pow 2 64

def clamp (w : Width) : Width := ⟨min w.least limit, min w.most limit⟩

def add (v w : Width) : Width := ⟨v.least + w.least, v.most + w.most⟩

def either (v w : Width) : Width := ⟨min v.least w.least, max v.most w.most⟩

def times (w : Width) (least : Nat) : Option Nat → Width
  | some most => ⟨w.least * least, w.most * most⟩
  | none => ⟨w.least * least, if w.most = 0 then 0 else limit⟩

end Width

def Node.width (groups : Nat → Width) : Node → Width
  | .empty | .anchor _ | .lookahead .. | .lookbehind .. => ⟨0, 0⟩
  | .char .. | .set .. | .anyChar _ => ⟨1, 1⟩
  | .seq first second => ((first.width groups).add (second.width groups)).clamp
  | .alt first second => (first.width groups).either (second.width groups)
  | .group _ body | .atomic body => body.width groups
  | .iterate _ least most body => ((body.width groups).times least most).clamp
  | .reference _ index => groups index
  | .conditional _ yes no => (yes.width groups).either (no.width groups)

open Registrar.Character

def isGroupName (name : String) : Bool :=
  match name.toList with
  | [] => false
  | c :: rest => startsName c && rest.all continuesName

/-- The names of groups with the numbers of the groups, by increasing number. -/
structure GroupNames where
  entries : List (String × Nat)
  nodup : (entries.map Prod.fst).Nodup
  increasing : (entries.map Prod.snd).Pairwise (· < ·)
  named : ∀ entry ∈ entries, isGroupName entry.1 = true

namespace GroupNames

def empty : GroupNames :=
  ⟨[], List.nodup_nil, .nil, fun _ mem ↦ absurd mem List.not_mem_nil⟩

instance : Inhabited GroupNames := ⟨empty⟩

def index? (names : GroupNames) (name : String) : Option Nat := names.entries.lookup name

def add? (names : GroupNames) (name : String) (index : Nat) : Option GroupNames :=
  if h : isGroupName name = true ∧ name ∉ names.entries.map Prod.fst ∧
      ∀ i ∈ names.entries.map Prod.snd, i < index then
    some {
      entries := names.entries ++ [(name, index)]
      nodup := by
        simpa [List.nodup_append, names.nodup] using fun a _ mem eq ↦ h.2.1 (by
          simpa using ⟨_, eq ▸ mem⟩)
      increasing := by
        simpa [List.pairwise_append, names.increasing] using fun i _ mem ↦ h.2.2 i (by
          simpa using ⟨_, mem⟩)
      named := fun entry mem ↦ by
        rcases List.mem_append.1 mem with mem | mem
        · exact names.named entry mem
        · rw [List.mem_singleton.1 mem]
          exact h.1 }
  else none

end GroupNames

end Registrar.Pattern
