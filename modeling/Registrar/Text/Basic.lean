import Registrar.Character.Case
import Registrar.Character.Classes

namespace Registrar.Text

open Registrar.Character

def dropWhileRight (p : Char → Bool) (chars : List Char) : List Char :=
  (chars.reverse.dropWhile p).reverse

def trimChars (chars : List Char) : List Char := dropWhileRight isBlank (chars.dropWhile isBlank)

def trim (text : String) : String := String.ofList (trimChars text.toList)

def trimRight (c : Char) (text : String) : String :=
  String.ofList (dropWhileRight (· == c) text.toList)

def cutChars? (separator : Char) : List Char → Option (List Char × List Char)
  | [] => none
  | c :: rest =>
    if c = separator then some ([], rest)
    else (cutChars? separator rest).map fun (left, right) ↦ (c :: left, right)

def cut? (separator : Char) (text : String) : Option (String × String) :=
  (cutChars? separator text.toList).map fun (left, right) ↦
    (String.ofList left, String.ofList right)

/-- The runs of characters between separators; there is one more of them than separators. -/
def piecesChars (separator : Char) : List Char → List (List Char)
  | [] => [[]]
  | c :: rest =>
    if c = separator then [] :: piecesChars separator rest
    else match piecesChars separator rest with
      | [] => [[c]]
      | piece :: more => (c :: piece) :: more

def pieces (separator : Char) (text : String) : List String :=
  (piecesChars separator text.toList).map String.ofList

def words (text : String) : List String :=
  let spaced := text.toList.map fun c ↦ if isBlank c then ' ' else c
  ((piecesChars ' ' spaced).filter (· ≠ [])).map String.ofList

def join (separator : String) (texts : List String) : String := separator.intercalate texts

open Registrar.Character

def unifyBreaks : List Char → List Char
  | [] => []
  | '\r' :: '\n' :: rest => '\n' :: unifyBreaks rest
  | '\r' :: rest => '\n' :: unifyBreaks rest
  | c :: rest => c :: unifyBreaks rest

def extendFirst (c : Char) : List (List Char) → List (List Char)
  | [] => [[c]]
  | line :: more => (c :: line) :: more

/-- The lines of a text without their ends; there is no line after the last end. -/
def linesChars : List Char → List (List Char)
  | [] => []
  | '\r' :: '\n' :: rest => [] :: linesChars rest
  | c :: rest =>
    if isLineBoundary c then [] :: linesChars rest else extendFirst c (linesChars rest)

def lines (text : String) : List String := (linesChars text.toList).map String.ofList

open Registrar.Character

/-- A capital sigma ends a word if the nearest character before it that is not case-ignorable is
cased and the nearest one after it is not. -/
def endsWord (before after : List Char) : Bool :=
  ((before.dropWhile isCaseIgnorable).head?.any isCased) &&
    !((after.dropWhile isCaseIgnorable).head?.any isCased)

/-- Lower case of the characters after those of `before`, which stand in reverse order. -/
def lowerFrom (before : List Char) : List Char → List Char
  | [] => []
  | c :: rest =>
    (if c = 'Σ' then [if endsWord before rest then 'ς' else 'σ'] else lowerAlone c) ++
      lowerFrom (c :: before) rest

def lowerChars (chars : List Char) : List Char := lowerFrom [] chars

def lower (text : String) : String := String.ofList (lowerChars text.toList)

def upper (text : String) : String := String.ofList (text.toList.flatMap upperAlone)

end Registrar.Text
