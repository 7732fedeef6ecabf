import Registrar.Console.Markup
import Registrar.Proofs.Lines
import Registrar.Proofs.LowerCase
import Registrar.Proofs.Trimming

namespace Registrar.Console

open Character (isBlank isLineBoundary)

section Texts

def PrintableAscii (c : Char) : Prop := ' ' ≤ c ∧ c ≤ '~'

instance : DecidablePred PrintableAscii := fun c ↦ inferInstanceAs (Decidable (' ' ≤ c ∧ c ≤ '~'))

namespace PrintableAscii

variable {c : Char}

theorem forall_of_decide {P : Char → Prop}
    (hall : ∀ code < 128, PrintableAscii (Char.ofNat code) → P (Char.ofNat code))
    (h : PrintableAscii c) : P c :=
  Character.forall_ascii (P := fun c ↦ PrintableAscii c → P c) hall
    (Nat.lt_of_le_of_lt h.2 (by decide)) h

theorem isLineBoundary (h : PrintableAscii c) : isLineBoundary c = false :=
  forall_of_decide (P := fun c ↦ Character.isLineBoundary c = false) (by decide) h

theorem ne_tab (h : PrintableAscii c) : c ≠ '\t' :=
  forall_of_decide (P := (· ≠ '\t')) (by decide) h

theorem ne_feed (h : PrintableAscii c) : c ≠ '\n' :=
  forall_of_decide (P := (· ≠ '\n')) (by decide) h

end PrintableAscii

/-- A text of printable characters that fits on a line. -/
structure Fits (width : Nat) (text : String) : Prop where
  printable : ∀ c ∈ text.toList, PrintableAscii c
  length_le : text.length ≤ width

instance (width : Nat) (text : String) : Decidable (Fits width text) :=
  haveI : Decidable (∀ c ∈ text.toList, PrintableAscii c) := List.decidableBAll _ _
  decidable_of_iff ((∀ c ∈ text.toList, PrintableAscii c) ∧ text.length ≤ width)
    ⟨fun h ↦ ⟨h.1, h.2⟩, fun h ↦ ⟨h.1, h.2⟩⟩

theorem Fits.of_sublist {width : Nat} {text part : String} (h : Fits width text)
    (hpart : part.toList.Sublist text.toList) : Fits width part where
  printable c hc := h.printable c (hpart.subset hc)
  length_le := by
    have hlength := hpart.length_le
    rw [String.length_toList, String.length_toList] at hlength
    exact hlength.trans h.length_le

end Texts

section Markup

namespace Markup

/-- A tag goes on with some text: its body up to the next bracket, which closes it. -/
def OpensTag (text : List Char) : Prop :=
  ∃ body rest, text = body ++ ']' :: rest ∧ (∀ c ∈ body, c ≠ '[' ∧ c ≠ ']') ∧
    ∃ c ∈ body.head?, startsTag c = true

/-- No bracket of a text opens a tag or stands behind a backslash. -/
def Literal (chars : List Char) : Prop :=
  ∀ before after, chars = before ++ '[' :: after → before.getLast? ≠ some slash ∧ ¬OpensTag after

end Markup

/-- Codes that stand for signs, between colons, do not occur in a text. -/
def FreeOf (isCode : String → Prop) (text : String) : Prop :=
  ∀ code, isCode code → ¬(':' :: code.toList ++ [':'] <:+: text.toList)

structure Showable (room : Nat) (isCode : String → Prop) (text : String) : Prop extends
    Fits room text where
  codes : FreeOf isCode text

end Markup

section Rows

/-- The text in a row with a single cell, without the blanks that fill the cell up. -/
def rowText? (line : List Char) : Option String :=
  match line with
  | '│' :: ' ' :: rest =>
    if rest.getLast? = some '│' then
      some (String.ofList (Text.dropWhileRight isBlank rest.dropLast))
    else none
  | _ => none

def rowTexts (output : String) : List String :=
  (Text.piecesChars '\n' output.toList).filterMap rowText?

def trimEnd (text : String) : String :=
  String.ofList (Text.dropWhileRight isBlank text.toList)

theorem trimEnd_eq_self {text : String} (h : Text.Trimmed text) : trimEnd text = text := by
  rw [trimEnd, Text.dropWhileRight_isBlank_eq_self h.last, String.ofList_toList]

theorem length_trimEnd_le (text : String) : (trimEnd text).length ≤ text.length := by
  rw [trimEnd, ← String.length_toList, String.toList_ofList, ← String.length_toList]
  exact (Text.prefix_dropWhileRight isBlank text.toList).length_le

end Rows

/-- What is known of a console, which has room for some characters in a column and codes for signs.
Of markup it shows all but the tags and the backslashes before brackets, if it finds nothing wrong
with the tags. In a table with a single column each text has a row of its own. -/
structure Documented [Console] (room : Nat) (isCode : String → Prop) : Prop where
  literal {text : String} (h : Showable room isCode text)
    (hliteral : Markup.Literal text.toList) : readMarkup text = .ok text
  removed {text shown : String} (h : Showable room isCode text)
    (hmarkup : ¬Markup.Literal text.toList) (hread : readMarkup text = .ok shown) :
    shown.toList.Sublist text.toList ∧ shown.length < text.length
  rows {title : String} {column : Column} {texts : List String} (htitle : Fits room title)
    (h : ∀ text ∈ column.title :: texts, Fits room text) :
    rowTexts (table (.ofTexts title column texts)) = texts.map trimEnd

end Registrar.Console
