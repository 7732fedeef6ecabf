namespace Registrar

namespace Console

structure MarkupError where
  message : String
  deriving DecidableEq, Repr

inductive Overflow
  | fold
  | ellipsis
  deriving DecidableEq, Repr

structure Column where
  title : String
  overflow : Overflow

structure Grid where
  title : String
  columns : List Column
  rows : List (List String)

def Grid.ofTexts (title : String) (column : Column) (texts : List String) : Grid :=
  ⟨title, [column], texts.map fun text ↦ [text]⟩

end Console

open Console in
class Console where
  /-- What is shown for a text that is taken as markup. -/
  readMarkup : String → Except MarkupError String
  /-- What is shown for a text that is kept from being markup. -/
  plain : String → String
  paragraph : String → String
  table : Grid → String

end Registrar
