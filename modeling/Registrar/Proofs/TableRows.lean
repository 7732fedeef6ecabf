import Registrar.Console.Grid
import Registrar.Proofs.Wrapping

namespace Registrar.Console

open Character (isBlank)

section Reading

variable {line : List Char}

structure Aside (line : List Char) : Prop where
  feed : '\n' ∉ line
  head : line.head? ≠ some '│'

theorem Aside.of_printable (h : ∀ c ∈ line, PrintableAscii c) : Aside line where
  feed hmem := (h _ hmem).ne_feed rfl
  head hhead := absurd (h _ (List.mem_of_head? hhead)) (by decide)

theorem Aside.rowText? (h : Aside line) : rowText? line = none := by
  have hhead := h.head
  unfold Console.rowText?
  split
  · exact absurd rfl hhead
  · rfl

theorem Aside.filterMap {lines : List (List Char)} (h : ∀ line ∈ lines, Aside line) :
    lines.filterMap Console.rowText? = [] :=
  List.filterMap_eq_nil_iff.2 fun line hline ↦ (h line hline).rowText?

end Reading

namespace Grid

variable {text title : String} {texts : List String} {column : Column} {width inner : Nat}
  {overflow : Overflow} {line : List Char} {c : Char}

section Widths

theorem foldl_max_le_iff (numbers : List Nat) (first bound : Nat) :
    numbers.foldl max first ≤ bound ↔ first ≤ bound ∧ ∀ n ∈ numbers, n ≤ bound := by
  induction numbers generalizing first with
  | nil => simp
  | cons n rest ih => rw [List.foldl_cons, ih, Nat.max_le, List.forall_mem_cons, and_assoc]

theorem textWidth_eq_length (h : ∀ c ∈ text.toList, PrintableAscii c) :
    textWidth text = text.length := by
  rw [textWidth, ← String.length_toList]
  cases hchars : text.toList with
  | nil => rfl
  | cons c rest =>
    have hline : Text.linesChars text.toList = [text.toList] :=
      Text.linesChars_eq_singleton (by simp [hchars]) fun d hd ↦ (h d hd).isLineBoundary
    rw [← hchars, hline, List.map_singleton, cells_eq_length h, List.foldl_cons, List.foldl_nil,
      Nat.zero_max]

theorem narrow_of_le {room : Nat} {widths : List Nat} (h : total widths ≤ room) (steps : Nat) :
    narrow room steps widths = widths := by
  cases steps with
  | zero => rfl
  | succ steps => exact if_pos h

def roomForText : Nat := 996

theorem columnTexts_ofTexts (title : String) (column : Column) (texts : List String) :
    (ofTexts title column texts).columnTexts = [column.title :: texts] := by
  have htexts : (texts.map fun text ↦ [text]).filterMap (·[0]?) = texts := by
    rw [List.filterMap_map]
    exact List.filterMap_some
  simp only [columnTexts, ofTexts, List.zipIdx_singleton, List.map_singleton, htexts]

/-- A single column is not narrowed as long as there is room for each of its texts. -/
theorem exists_widths_ofTexts (title : String)
    (h : ∀ text ∈ column.title :: texts, Fits roomForText text) :
    ∃ inner, (ofTexts title column texts).widths = [inner + 2 * padding] ∧
      ∀ text ∈ column.title :: texts, Fits inner text := by
  have hwidths :
      (column.title :: texts).map textWidth = (column.title :: texts).map String.length :=
    List.map_congr_left fun text htext ↦ textWidth_eq_length (h text htext).printable
  let inner := ((column.title :: texts).map String.length).foldl max 0
  have hinner : inner ≤ roomForText :=
    (foldl_max_le_iff _ _ _).2 ⟨Nat.zero_le _, List.forall_mem_map.2 fun text htext ↦
      (h text htext).length_le⟩
  have hnatural : (ofTexts title column texts).naturalWidths = [inner + 2 * padding] := by
    rw [naturalWidths, columnTexts_ofTexts, List.map_singleton, hwidths]
    exact congrArg ([·]) (Nat.min_eq_right (Nat.add_le_add_right hinner _))
  refine ⟨inner, ?_, fun text htext ↦ ⟨(h text htext).printable, ?_⟩⟩
  · have htotal : total [inner + 2 * padding] = inner + 2 * padding := Nat.zero_add _
    rw [widths, hnatural]
    refine narrow_of_le ?_ _
    rw [htotal]
    exact Nat.add_le_add_right hinner _
  · exact ((foldl_max_le_iff _ _ _).1 (Nat.le_refl inner)).2 _ (List.mem_map_of_mem htext)

end Widths

section Rows

theorem fit_of_le (h : cells line ≤ width) (overflow : Overflow) :
    fit width overflow line = line ++ List.replicate (width - cells line) ' ' := by
  unfold fit
  simp only [h, if_true]

def rowLine (bar : Char) (inner : Nat) (text : String) : List Char :=
  bar :: ' ' :: (text.toList ++ List.replicate (inner - text.length) ' ' ++ [' ', bar])

theorem rowLines_singleton (bar : Char) (overflow : Overflow) (h : Fits inner text) :
    rowLines bar [inner + 2 * padding] [cellLines (inner + 2 * padding) overflow text] =
      [rowLine bar inner text] := by
  have hcells : cells text.toList = text.length := by
    rw [cells_eq_length h.printable, String.length_toList]
  have hcell : cellLines (inner + 2 * padding) overflow text =
      [[' '] ++ (text.toList ++ List.replicate (inner - text.length) ' ') ++ [' ']] := by
    rw [cellLines, Nat.add_sub_cancel, wrap_eq_singleton h.printable h.length_le,
      List.map_singleton, fit_of_le (hcells ▸ h.length_le), hcells]
    rfl
  rw [hcell, rowLine]
  simp [rowLines]

theorem rowText?_rowLine (inner : Nat) (text : String) :
    rowText? (rowLine '│' inner text) = some (trimEnd text) := by
  have hlast : (text.toList ++ List.replicate (inner - text.length) ' ' ++ [' ', '│']).getLast? =
      some '│' := by simp
  have hinit : (text.toList ++ List.replicate (inner - text.length) ' ' ++ [' ', '│']).dropLast =
      text.toList ++ (List.replicate (inner - text.length) ' ' ++ [' ']) := by simp
  have hblanks : Text.dropWhileRight isBlank (List.replicate (inner - text.length) ' ' ++ [' ']) =
      [] := by
    rw [Text.dropWhileRight_eq_nil_iff]
    intro c hc
    have hspace : c = ' ' := by
      rcases List.mem_append.1 hc with hc | hc
      · exact (List.mem_replicate.1 hc).2
      · exact List.mem_singleton.1 hc
    rw [hspace]
    decide
  rw [rowLine, rowText?, if_pos hlast, hinit, Text.dropWhileRight_append, if_pos hblanks]
  rfl

theorem feed_notMem_rowLine {bar : Char} (hbar : bar ≠ '\n') (h : Fits inner text) :
    '\n' ∉ rowLine bar inner text := by
  have htext : '\n' ∉ text.toList := fun hmem ↦ (h.printable _ hmem).ne_feed rfl
  simp [rowLine, htext, hbar.symm]

theorem aside_ruleLine {left fill right : Char} (h : left ≠ '\n' ∧ fill ≠ '\n' ∧ right ≠ '\n')
    (hleft : left ≠ '│') (cross : Char) (width : Nat) :
    Aside (ruleLine left fill cross right [width]) where
  feed := by simp [ruleLine, h.1.symm, h.2.1.symm, h.2.2.symm]
  head hhead := hleft (Option.some.inj hhead)

theorem aside_header (h : Fits inner text) : Aside (rowLine '┃' inner text) where
  feed := feed_notMem_rowLine (by decide) h
  head hhead := absurd (Option.some.inj hhead) (by decide)

end Rows

section Title

theorem takeCells_sublist (width : Nat) (line : List Char) :
    (takeCells width line).Sublist line := by
  fun_induction takeCells width line with
  | case1 => exact .refl []
  | case2 => exact List.nil_sublist _
  | case3 width c rest ih₁ ih₂ =>
    split
    · exact ih₁.cons_cons c
    · exact ih₂.cons_cons c

theorem mem_fit (h : c ∈ fit width .fold line) : c ∈ line ∨ c = ' ' := by
  unfold fit at h
  dsimp only at h
  rcases List.mem_append.1 h with h | h
  · split at h
    · exact .inl h
    · exact .inl ((takeCells_sublist width line).subset h)
  · exact .inr (List.mem_replicate.1 h).2

theorem mem_centred (h : c ∈ centred width line) : c ∈ line ∨ c = ' ' := by
  rcases mem_fit h with h | h
  · rcases List.mem_append.1 h with h | h
    · exact .inr (List.mem_replicate.1 h).2
    · exact .inl ((Text.prefix_dropWhileRight isBlank line).subset h)
  · exact .inr h

theorem printable_title (h : ∀ c ∈ title.toList, PrintableAscii c)
    (hline : line ∈ (wrap width .fold title).map (centred width)) :
    ∀ c ∈ line, PrintableAscii c := by
  obtain ⟨part, hpart, rfl⟩ := List.mem_map.1 hline
  intro c hc
  have hblank : PrintableAscii ' ' := by decide
  rcases mem_centred hc with hc | rfl
  · rcases mem_of_mem_wrap hpart hc with hc | rfl
    · exact h c hc
    · exact hblank
  · exact hblank

end Title

section Tables

def front (title : String) (column : Column) (inner : Nat) : List (List Char) :=
  let width := inner + 2 * padding
  (wrap (total [width] + 2) .fold title).map (centred (total [width] + 2)) ++
    [ruleLine '┏' '━' '┳' '┓' [width]] ++ [rowLine '┃' inner column.title] ++
    [ruleLine '┡' '━' '╇' '┩' [width]]

def back (inner : Nat) : List (List Char) := [ruleLine '└' '─' '┴' '┘' [inner + 2 * padding]]

theorem lines_ofTexts (h : ∀ text ∈ column.title :: texts, Fits inner text)
    (hwidths : (ofTexts title column texts).widths = [inner + 2 * padding]) :
    (ofTexts title column texts).lines =
      front title column inner ++ texts.map (rowLine '│' inner) ++ back inner := by
  have hrow (bar : Char) {text : String} (htext : text ∈ column.title :: texts) :
      rowLines bar [inner + 2 * padding] [cellLines (inner + 2 * padding) column.overflow text] =
        [rowLine bar inner text] :=
    rowLines_singleton bar column.overflow (h text htext)
  have hrows : (texts.flatMap fun text ↦ rowLines '│' [inner + 2 * padding]
      [cellLines (inner + 2 * padding) column.overflow text]) = texts.map (rowLine '│' inner) := by
    rw [List.map_eq_flatMap]
    exact List.flatMap_congr fun text htext ↦ hrow '│' (List.mem_cons_of_mem _ htext)
  have hsingle : (ofTexts title column texts).rows = texts.map fun text ↦ [text] := rfl
  rw [front, ← hrows, ← hrow '┃' List.mem_cons_self]
  dsimp only [lines]
  rw [hwidths, hsingle, List.flatMap_map]
  rfl

theorem aside_front (htitle : ∀ c ∈ title.toList, PrintableAscii c) (h : Fits inner column.title) :
    ∀ line ∈ front title column inner, Aside line := by
  simp only [front, List.forall_mem_append, List.forall_mem_singleton]
  exact ⟨⟨⟨fun line hline ↦ .of_printable (printable_title htitle hline),
    aside_ruleLine (by decide) (by decide) _ _⟩, aside_header h⟩,
    aside_ruleLine (by decide) (by decide) _ _⟩

theorem aside_back (inner : Nat) : ∀ line ∈ back inner, Aside line := by
  rw [back, List.forall_mem_singleton]
  exact aside_ruleLine (by decide) (by decide) _ _

theorem pieces_render {grid : Grid} (h : ∀ line ∈ grid.lines, '\n' ∉ line) :
    Text.piecesChars '\n' grid.render.toList = grid.lines ++ [[]] := by
  rw [render, String.toList_join, List.flatMap_map]
  generalize grid.lines = lines at h
  induction lines with
  | nil => rfl
  | cons line rest ih =>
    obtain ⟨hline, hrest⟩ := List.forall_mem_cons.1 h
    rw [List.flatMap_cons, String.toList_ofList, List.append_assoc, List.singleton_append,
      Text.piecesChars_append hline, ih hrest, List.cons_append]

theorem rowTexts_render (htitle : ∀ c ∈ title.toList, PrintableAscii c)
    (h : ∀ text ∈ column.title :: texts, Fits roomForText text) :
    rowTexts (ofTexts title column texts).render = texts.map trimEnd := by
  obtain ⟨inner, hwidths, hfits⟩ := exists_widths_ofTexts title h
  obtain ⟨hcolumn, htexts⟩ := List.forall_mem_cons.1 hfits
  have hlines := lines_ofTexts hfits hwidths
  have hfront := aside_front htitle hcolumn
  have hback := aside_back inner
  have hfeed : ∀ line ∈ (ofTexts title column texts).lines, '\n' ∉ line := by
    rw [hlines, List.forall_mem_append, List.forall_mem_append, List.forall_mem_map]
    refine ⟨⟨fun line hline ↦ (hfront line hline).feed, fun text htext ↦ ?_⟩,
      fun line hline ↦ (hback line hline).feed⟩
    exact feed_notMem_rowLine (by decide) (htexts text htext)
  have hrows : (texts.map (rowLine '│' inner)).filterMap rowText? = texts.map trimEnd := by
    rw [List.filterMap_map, ← List.filterMap_eq_map]
    exact List.filterMap_congr fun text _ ↦ rowText?_rowLine inner text
  rw [rowTexts, pieces_render hfeed, hlines, List.filterMap_append, List.filterMap_append,
    List.filterMap_append, Aside.filterMap hfront, Aside.filterMap hback, hrows, List.nil_append,
    List.append_nil]
  simp [rowText?]

end Tables

end Grid

end Registrar.Console
