import Registrar.Console.Basic
import Registrar.OrderedMap
import Registrar.Text.Basic
import Registrar.Text.Notation

namespace Registrar.Console.Colour

def families : List (String × List String) :=
  [("aquamarine", ["1", "3"]), ("black", [""]), ("blue", ["", "1", "3"]), ("blue_violet", [""]),
   ("bright_black", [""]), ("bright_blue", [""]), ("bright_cyan", [""]), ("bright_green", [""]),
   ("bright_magenta", [""]), ("bright_red", [""]), ("bright_white", [""]),
   ("bright_yellow", [""]), ("cadet_blue", [""]), ("chartreuse", ["1", "2", "3", "4"]),
   ("cornflower_blue", [""]), ("cornsilk", ["1"]), ("cyan", ["", "1", "2", "3"]),
   ("dark_blue", [""]), ("dark_cyan", [""]), ("dark_goldenrod", [""]), ("dark_green", [""]),
   ("dark_khaki", [""]), ("dark_magenta", [""]), ("dark_olive_green", ["1", "2", "3"]),
   ("dark_orange", ["", "3"]), ("dark_red", [""]), ("dark_sea_green", ["", "1", "2", "3", "4"]),
   ("dark_slate_gray", ["1", "2", "3"]), ("dark_turquoise", [""]), ("dark_violet", [""]),
   ("deep_pink", ["1", "2", "3", "4"]), ("deep_sky_blue", ["1", "2", "3", "4"]),
   ("dodger_blue", ["1", "2", "3"]), ("gold", ["1", "3"]),
   ("green", ["", "1", "3", "4"]), ("green_yellow", [""]),
   ("honeydew", ["2"]), ("hot_pink", ["", "2", "3"]), ("indian_red", ["", "1"]),
   ("khaki", ["1", "3"]), ("light_coral", [""]), ("light_cyan", ["1", "3"]),
   ("light_goldenrod", ["1", "2", "3"]), ("light_green", [""]), ("light_pink", ["1", "3", "4"]),
   ("light_salmon", ["1", "3"]), ("light_sea_green", [""]), ("light_sky_blue", ["1", "3"]),
   ("light_slate_blue", [""]), ("light_slate_gray", [""]), ("light_slate_grey", [""]),
   ("light_steel_blue", ["", "1", "3"]), ("light_yellow", ["3"]),
   ("magenta", ["", "1", "2", "3"]), ("medium_orchid", ["", "1", "3"]),
   ("medium_purple", ["", "1", "2", "3", "4"]), ("medium_spring_green", [""]),
   ("medium_turquoise", [""]), ("medium_violet_red", [""]), ("misty_rose", ["1", "3"]),
   ("navajo_white", ["1", "3"]), ("navy_blue", [""]), ("orange", ["1", "3", "4"]),
   ("orange_red", ["1"]), ("orchid", ["", "1", "2"]), ("pale_green", ["1", "3"]),
   ("pale_turquoise", ["1", "4"]), ("pale_violet_red", ["1"]), ("pink", ["1", "3"]),
   ("plum", ["1", "2", "3", "4"]), ("purple", ["", "3", "4"]), ("red", ["", "1", "3"]),
   ("rosy_brown", [""]), ("royal_blue", ["1"]), ("salmon", ["1"]), ("sandy_brown", [""]),
   ("sea_green", ["1", "2", "3"]), ("sky_blue", ["1", "2", "3"]), ("slate_blue", ["1", "3"]),
   ("spring_green", ["1", "2", "3", "4"]), ("steel_blue", ["", "1", "3"]), ("tan", [""]),
   ("thistle", ["1", "3"]), ("turquoise", ["2", "4"]), ("violet", [""]), ("wheat", ["1", "4"]),
   ("white", [""]), ("yellow", ["", "1", "2", "3", "4"])]

def shades : List Nat :=
  [0, 3, 7, 11, 15, 19, 23, 27, 30, 35, 37, 39, 42, 46, 50, 53, 54, 58, 62, 63, 66, 69, 70, 74, 78,
   82, 84, 85, 89, 93, 100]

def names : List String :=
  "default" :: (families.flatMap fun (stem, numbers) ↦ numbers.map (stem ++ ·)) ++
    ["gray", "grey"].flatMap fun stem ↦ shades.map fun shade ↦ s!"{stem}{shade}"

def argument? (opening : String) (text : List Char) : Option (List Char) := do
  let rest ← opening.toList.isPrefixOf? text
  if rest.getLast? = some ')' then return rest.dropLast else none

def isByte (chars : List Char) : Bool :=
  !chars.isEmpty && chars.all Char.isDigit && (Text.integer? chars).any (· ≤ 255)

def isHexadecimal (chars : List Char) : Bool :=
  match chars with
  | '#' :: digits => digits.length == 6 && digits.all fun c ↦ c.isDigit || ('a' ≤ c && c ≤ 'f')
  | _ => false

def isNumber (chars : List Char) : Bool :=
  (argument? "color(" chars).any fun digits ↦ digits.length ≤ 3 && isByte digits

def isTriple (chars : List Char) : Bool :=
  (argument? "rgb(" chars).any fun inner ↦
    let components := Text.piecesChars ',' inner
    components.length == 3 && components.all isByte

def isName (word : String) : Bool :=
  let chars := word.toList
  names.contains word || isHexadecimal chars || isNumber chars || isTriple chars

end Registrar.Console.Colour

namespace Registrar.Console

structure Style where
  switches : OrderedMap Bool
  ink : Option String
  paper : Option String
  link : Option String

namespace Style

def empty : Style := ⟨.empty, none, none, none⟩

def attributes : List String :=
  ["bold", "dim", "italic", "underline", "blink", "blink2", "reverse", "conceal", "strike",
   "underline2", "frame", "encircle", "overline"]

def shortNames : List (String × String) :=
  [("b", "bold"), ("d", "dim"), ("i", "italic"), ("u", "underline"), ("r", "reverse"),
   ("c", "conceal"), ("s", "strike"), ("uu", "underline2"), ("o", "overline")]

def attribute? (word : String) : Option String :=
  if attributes.contains word then some word else shortNames.lookup word

def ofWordsFrom (style : Style) : List String → Option Style
  | [] => some style
  | [word] => ofWord style (Text.lower word)
  | word :: next :: rest =>
    match Text.lower word with
    | "on" =>
      let colour := Text.lower next
      if Colour.isName colour then ofWordsFrom { style with paper := some colour } rest else none
    | "not" => do
      let name ← attribute? next
      ofWordsFrom { style with switches := style.switches.insert name false } rest
    | "link" => ofWordsFrom { style with link := some next } rest
    | word => do ofWordsFrom (← ofWord style word) (next :: rest)
where
  ofWord (style : Style) (word : String) : Option Style :=
    match attribute? word with
    | some name => some { style with switches := style.switches.insert name true }
    | none => if Colour.isName word then some { style with ink := some word } else none

def words (style : Style) : List String :=
  (attributes.filterMap fun name ↦ (style.switches.get? name).map fun switched ↦
    if switched then name else "not " ++ name) ++
    style.ink.toList ++
    (style.paper.map ("on " ++ ·)).toList ++
    (style.link.map ("link " ++ ·)).toList

def render (style : Style) : String :=
  if style.words.isEmpty then "none" else Text.join " " style.words

def normalForm (name : String) : String :=
  match ofWordsFrom empty (Text.words name) with
  | some style => style.render
  | none => Text.lower (Text.trim name)

end Style

namespace Markup

def unmatched (tag : String) (position : Nat) : MarkupError :=
  ⟨s!"closing tag '[{tag}]' at position {position} doesn't match any open tag"⟩

def nothingOpen (position : Nat) : MarkupError :=
  ⟨s!"closing tag '[/]' at position {position} has nothing to close"⟩

/-- A piece of markup: a character, a bracket that starts no tag, or what may be a tag. Backslashes
belong to the bracket after them. -/
inductive Segment
  | char (c : Char)
  | bracket (slashes : Nat)
  | tag (slashes : Nat) (body : List Char)
  deriving DecidableEq, Repr

def slash : Char := '\\'

def Segment.written : Segment → List Char
  | char c => [c]
  | bracket slashes => List.replicate slashes slash ++ ['[']
  | tag slashes body => List.replicate slashes slash ++ '[' :: body ++ [']']

def startsTag (c : Char) : Bool := ('a' ≤ c && c ≤ 'z') || c = '#' || c = '/' || c = '@'

def body? (text : List Char) : Option (List Char) :=
  let body := text.takeWhile fun c ↦ c ≠ '[' && c ≠ ']'
  if body.head?.any startsTag && (text.drop body.length).head? = some ']' then some body else none

def segmentsFrom (slashes : Nat) (text : List Char) : List Segment :=
  match text with
  | [] => List.replicate slashes (.char slash)
  | c :: rest =>
    if c = slash then segmentsFrom (slashes + 1) rest
    else if c = '[' then
      match body? rest with
      | some body => .tag slashes body :: segmentsFrom 0 (rest.drop (body.length + 1))
      | none => .bracket slashes :: segmentsFrom 0 rest
    else List.replicate slashes (.char slash) ++ .char c :: segmentsFrom 0 rest
termination_by text.length
decreasing_by all_goals simp only [List.length_cons, List.length_drop]; omega

theorem eq_of_body?_eq_some {text body : List Char} (h : body? text = some body) :
    text = body ++ ']' :: text.drop (body.length + 1) := by
  simp only [body?] at h
  split at h
  · rename_i found
    simp only [Bool.and_eq_true, decide_eq_true_eq] at found
    cases h
    have taken := List.prefix_iff_eq_append.1
      (List.takeWhile_prefix (fun c ↦ c ≠ '[' && c ≠ ']') (l := text))
    obtain ⟨rest, eq⟩ := List.head?_eq_some_iff.1 found.2
    rw [← List.drop_drop, eq, List.drop_succ_cons, List.drop_zero, ← eq]
    exact taken.symm
  · cases h

theorem written_replicate (slashes : Nat) :
    (List.replicate slashes (Segment.char slash)).flatMap Segment.written =
      List.replicate slashes slash := by
  induction slashes with
  | zero => rfl
  | succ slashes ih => simp [List.replicate_succ, ih, Segment.written]

theorem written_segmentsFrom (slashes : Nat) (text : List Char) :
    (segmentsFrom slashes text).flatMap Segment.written =
      List.replicate slashes slash ++ text := by
  fun_induction segmentsFrom slashes text with
  | case1 slashes => simp [written_replicate]
  | case2 slashes rest ih => simp [ih, List.replicate_succ']
  | case3 slashes rest body found _ ih =>
    have eq := eq_of_body?_eq_some found
    simp only [List.flatMap_cons, ih, Segment.written]
    conv => rhs; rw [eq]
    simp
  | case4 slashes rest found _ ih => simp [ih, Segment.written]
  | case5 slashes c rest _ _ ih =>
    simp [List.flatMap_append, written_replicate, ih, Segment.written]

def segments (text : String) : List Segment := segmentsFrom 0 text.toList

theorem written_segments (text : String) :
    (segments text).flatMap Segment.written = text.toList := written_segmentsFrom 0 text.toList

inductive Token
  | shown (text : List Char)
  | opening (style : String)
  | closing (style : Option String) (tag : String) (position : Nat)
  deriving DecidableEq, Repr

/-- The token for the body of a tag at a position. What follows an equals sign does not matter. -/
def tagToken (body : List Char) (position : Nat) : Token :=
  match body.takeWhile (· ≠ '=') with
  | '/' :: name =>
    let name := Text.trimChars name
    let style := if name = [] then none else some (Style.normalForm (String.ofList name))
    .closing style (String.ofList body) position
  | name => .opening (Style.normalForm (String.ofList name))

/-- The tokens for segments, the first of which stands at a position. Of the backslashes before a
tag each pair stands for one, and a single one makes the tag text. -/
def tokensFrom (position : Nat) : List Segment → List Token
  | [] => []
  | segment :: rest =>
    let more := tokensFrom (position + segment.written.length) rest
    match segment with
    | .char c => .shown [c] :: more
    | .bracket slashes => .shown (List.replicate (slashes - 1) slash ++ ['[']) :: more
    | .tag slashes body =>
      .shown (List.replicate (slashes / 2) slash) ::
        (if slashes % 2 = 1 then .shown ('[' :: body ++ [']'])
          else tagToken body (position + slashes)) :: more

def tokens (markup : String) : List Token := tokensFrom 0 (segments markup)

def check (opened : List String) : List Token → Except MarkupError Unit
  | [] => .ok ()
  | .shown _ :: rest => check opened rest
  | .opening style :: rest => check (style :: opened) rest
  | .closing none _ position :: rest =>
    match opened with
    | [] => .error (nothingOpen position)
    | _ :: opened => check opened rest
  | .closing (some style) tag position :: rest =>
    if opened.contains style then check (opened.erase style) rest
    else .error (unmatched tag position)

/-- Whether a character moves the cursor backwards or over lines; such are left out. -/
def isDropped (c : Char) : Bool := ['\x07', '\x08', '\x0b', '\x0c', '\r'].contains c

def shown (tokens : List Token) : String :=
  String.ofList ((tokens.flatMap fun
    | .shown text => text
    | _ => []).filter (!isDropped ·))

def read (markup : String) : Except MarkupError String := do
  check [] (tokens markup)
  return shown (tokens markup)

/-- Markup in which every tag of the text is kept from being one. A single backslash at the end is
doubled, lest it join what follows. -/
def escape (text : String) : String :=
  let chars := (segments text).flatMap fun
    | .tag slashes body => (Segment.tag (2 * slashes + 1) body).written
    | segment => segment.written
  let single := chars.getLast? = some slash && chars.dropLast.getLast? ≠ some slash
  String.ofList (if single then chars ++ [slash] else chars)

def plain (text : String) : String := shown (tokens (escape text))

end Markup

end Registrar.Console
