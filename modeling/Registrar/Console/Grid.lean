import Registrar.Console.Basic
import Registrar.Text.Basic

namespace Registrar.Console

open Character (isBlank)

def isUnseen (c : Char) : Bool := c.toNat < 32 || (127 ≤ c.toNat && c.toNat < 160)

def cells (chars : List Char) : Nat := chars.countP (!isUnseen ·)

def tabStop : Nat := 8

def expandTabs (cell : Nat) : List Char → List Char
  | [] => []
  | c :: rest =>
    if c = '\t' then
      let gap := tabStop - cell % tabStop
      List.replicate gap ' ' ++ expandTabs (cell + gap) rest
    else c :: expandTabs (cell + cells [c]) rest

/-- The words of a line with the blanks around them; blanks between words belong to the first of the
two. The current word is held in reverse. -/
def wordsFrom (current : List Char) : List Char → List (List Char)
  | [] => if current.all isBlank then [] else [current.reverse]
  | c :: rest =>
    if !isBlank c && current.head?.any isBlank && !current.all isBlank then
      current.reverse :: wordsFrom [c] rest
    else wordsFrom (c :: current) rest

def chop (width : Nat) (current : List Char) : List Char → List (List Char)
  | [] => [current.reverse]
  | c :: rest =>
    if width < cells (c :: current) then current.reverse :: chop width [c] rest
    else chop width (c :: current) rest

structure Filling where
  complete : List (List Char)
  line : List Char

namespace Filling

def start (filling : Filling) (word : List Char) : Filling :=
  if filling.line = [] then { filling with line := word }
  else ⟨filling.complete ++ [filling.line], word⟩

/-- Adds a word. Blanks at its end need not fit. -/
def add (width : Nat) (overflow : Overflow) (filling : Filling) (word : List Char) : Filling :=
  let size := cells (Text.dropWhileRight isBlank word)
  if cells filling.line + size ≤ width then { filling with line := filling.line ++ word }
  else if size ≤ width || overflow = .ellipsis then filling.start word
  else (chop width [] word).foldl start filling

end Filling

def cutBlanks (width : Nat) (line : List Char) : List Char :=
  let blanks := line.length - (Text.dropWhileRight isBlank line).length
  line.take (line.length - min blanks (line.length - width))

def wrapLine (width : Nat) (overflow : Overflow) (line : List Char) : List (List Char) :=
  let line := expandTabs 0 line
  match wordsFrom [] line with
  | [] => [cutBlanks width line]
  | words =>
    let filling := words.foldl (Filling.add width overflow) ⟨[], []⟩
    (filling.complete ++ [filling.line]).map (cutBlanks width)

def wrap (width : Nat) (overflow : Overflow) (text : String) : List (List Char) :=
  (Text.piecesChars '\n' text.toList).flatMap (wrapLine width overflow)

def consoleWidth : Nat := 1000

def wrapped (text : String) : String :=
  String.join ((wrap consoleWidth .fold text).map fun line ↦ String.ofList (line ++ ['\n']))

namespace Grid

def padding : Nat := 1

def textWidth (text : String) : Nat :=
  ((Text.linesChars text.toList).map cells).foldl max 0

def frameWidth (grid : Grid) : Nat := grid.columns.length + 1

def room (grid : Grid) : Nat := consoleWidth - grid.frameWidth

def columnTexts (grid : Grid) : List (List String) :=
  grid.columns.zipIdx.map fun (column, index) ↦
    column.title :: grid.rows.filterMap (·[index]?)

def naturalWidths (grid : Grid) : List Nat :=
  grid.columnTexts.map fun texts ↦
    min grid.room ((texts.map textWidth).foldl max 0 + 2 * padding)

def roundedQuotient (n k : Nat) : Nat :=
  let q := n / k
  let r := n % k
  if 2 * r < k then q else if k < 2 * r then q + 1 else q + q % 2

/-- Takes an excess from the columns of a width, of which there are `count`, in equal parts of at
most `limit`. -/
def shareExcess (width limit : Nat) (excess count : Nat) : List Nat → List Nat
  | [] => []
  | w :: rest =>
    if w = width then
      let part := min limit (roundedQuotient excess count)
      (w - part) :: shareExcess width limit (excess - part) (count - 1) rest
    else w :: shareExcess width limit excess count rest

def narrowOnce (excess : Nat) (widths : List Nat) : List Nat :=
  let widest := widths.foldl max 0
  let next := (widths.filter (· ≠ widest)).foldl max 0
  shareExcess widest (min excess (widest - next)) excess (widths.count widest) widths

def total (widths : List Nat) : Nat := widths.foldl (· + ·) 0

def narrow (room : Nat) : Nat → List Nat → List Nat
  | 0, widths => widths
  | steps + 1, widths =>
    if total widths ≤ room then widths
    else narrow room steps (narrowOnce (total widths - room) widths)

/-- The widths of the columns. Every step of narrowing takes at least one cell. -/
def widths (grid : Grid) : List Nat :=
  narrow grid.room (total grid.naturalWidths) grid.naturalWidths

def takeCells : Nat → List Char → List Char
  | _, [] => []
  | 0, _ => []
  | width + 1, c :: rest =>
    c :: if isUnseen c then takeCells (width + 1) rest else takeCells width rest

def fit (width : Nat) (overflow : Overflow) (line : List Char) : List Char :=
  let line :=
    if cells line ≤ width then line
    else match overflow with
      | .fold => takeCells width line
      | .ellipsis => takeCells (width - 1) line ++ ['…']
  line ++ List.replicate (width - cells line) ' '

def cellLines (width : Nat) (overflow : Overflow) (text : String) : List (List Char) :=
  let inner := width - 2 * padding
  let blank := List.replicate padding ' '
  (wrap inner overflow text).map fun line ↦ blank ++ fit inner overflow line ++ blank

def rowLines (bar : Char) (widths : List Nat) (row : List (List (List Char))) :
    List (List Char) :=
  let height := (row.map List.length).foldl max 1
  (List.range height).map fun index ↦
    let parts := (widths.zip row).map fun (width, lines) ↦
      (lines[index]?).getD (List.replicate width ' ')
    bar :: [bar].intercalate parts ++ [bar]

def ruleLine (left fill cross right : Char) (widths : List Nat) : List Char :=
  left :: [cross].intercalate (widths.map fun width ↦ List.replicate width fill) ++ [right]

def centred (width : Nat) (line : List Char) : List Char :=
  let line := Text.dropWhileRight Character.isBlank line
  let left := (width - cells line) / 2
  fit width .fold (List.replicate left ' ' ++ line)

def lines (grid : Grid) : List (List Char) :=
  let widths := grid.widths
  let width := total widths + grid.frameWidth
  let row (bar : Char) (texts : List String) :=
    rowLines bar widths ((grid.columns.zip (widths.zip texts)).map fun (column, width, text) ↦
      cellLines width column.overflow text)
  (wrap width .fold grid.title).map (centred width) ++
    [ruleLine '┏' '━' '┳' '┓' widths] ++
    row '┃' (grid.columns.map Column.title) ++
    [ruleLine '┡' '━' '╇' '┩' widths] ++
    grid.rows.flatMap (row '│') ++
    [ruleLine '└' '─' '┴' '┘' widths]

def render (grid : Grid) : String :=
  String.join (grid.lines.map fun line ↦ String.ofList (line ++ ['\n']))

end Grid

end Registrar.Console
