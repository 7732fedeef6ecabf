import Registrar.Text.Basic
import Registrar.Text.Notation

namespace Registrar.Files

inductive Refusal
  | notFound
  | notPermitted
  | notADirectory
  | isADirectory
  | nameTooLong
  deriving DecidableEq, Repr

namespace Refusal

def number : Refusal → Nat
  | notFound => 2
  | notPermitted => 13
  | notADirectory => 20
  | isADirectory => 21
  | nameTooLong => 36

def wording : Refusal → String
  | notFound => "No such file or directory"
  | notPermitted => "Permission denied"
  | notADirectory => "Not a directory"
  | isADirectory => "Is a directory"
  | nameTooLong => "File name too long"

def message (refusal : Refusal) (path : String) : String :=
  s!"[Errno {refusal.number}] {refusal.wording}: {Text.quoted path}"

end Refusal

abbrev Source := String → Except Refusal (List UInt8)

structure Path where
  /-- No slash for a relative path, one or two for an absolute one. -/
  root : String
  components : List String
  deriving DecidableEq, Repr

namespace Path

def rootOf : Nat → String
  | 0 => ""
  | 2 => "//"
  | _ => "/"

def ofText (text : String) : Path :=
  let slashes := (text.toList.takeWhile (· = '/')).length
  ⟨rootOf slashes, (Text.pieces '/' text).filter fun c ↦ c ≠ "" ∧ c ≠ "."⟩

def render (path : Path) : String :=
  if path.root = "" ∧ path.components = [] then "."
  else path.root ++ "/".intercalate path.components

/-- The part of the last component from its last point on, unless the point is its first or its
last character. -/
def suffix (path : Path) : String :=
  let name := ((path.components.getLast?).getD "").toList
  let tail := (name.reverse.takeWhile (· ≠ '.')).reverse
  if tail = [] ∨ name.length ≤ tail.length + 1 then ""
  else String.ofList ('.' :: tail)

end Path

inductive Entry
  | file (bytes : List UInt8)
  | directory

structure Tree where
  entries : List (List String × Entry)
  working : List String

namespace Tree

def ofWorking (working : List String) : Tree :=
  ⟨(List.range (working.length + 1)).map fun n ↦ (working.take n, .directory), working⟩

def add (tree : Tree) (path : String) (entry : Entry) : Tree :=
  { tree with entries := (tree.working ++ (Path.ofText path).components, entry) :: tree.entries }

def componentLimit : Nat := 255

def pathLimit : Nat := 4095

def follow (tree : Tree) : List String → List String → Except Refusal Entry
  | place, [] => (tree.entries.lookup place).elim (.error .notFound) .ok
  | place, component :: rest => do
    match tree.entries.lookup place with
    | none => .error .notFound
    | some (.file _) => .error .notADirectory
    | some .directory =>
      if component = ".." then follow tree place.dropLast rest
      else if componentLimit < component.utf8ByteSize then .error .nameTooLong
      else if (tree.entries.lookup (place ++ [component])).isNone then .error .notFound
      else follow tree (place ++ [component]) rest

def read (tree : Tree) : Source := fun text ↦ do
  if pathLimit < text.utf8ByteSize then throw .nameTooLong
  let path := Path.ofText text
  match ← tree.follow (if path.root = "" then tree.working else []) path.components with
  | .file bytes => return bytes
  | .directory => throw .isADirectory

end Tree

end Registrar.Files
