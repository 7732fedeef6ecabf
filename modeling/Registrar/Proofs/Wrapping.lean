import Registrar.Console.Grid
import Registrar.Proofs.Consoles
import Registrar.Proofs.Separators

namespace Registrar.Console

open Character (isBlank isLineBoundary)

theorem PrintableAscii.isUnseen {c : Char} (h : PrintableAscii c) : isUnseen c = false :=
  forall_of_decide (P := fun c ↦ Console.isUnseen c = false) (by decide) h

section Cells

variable {chars front back : List Char}

theorem cells_append (front back : List Char) : cells (front ++ back) = cells front + cells back :=
  List.countP_append

theorem cells_le_of_sublist (h : front.Sublist back) : cells front ≤ cells back :=
  h.countP_le

theorem cells_eq_length (h : ∀ c ∈ chars, PrintableAscii c) : cells chars = chars.length := by
  rw [cells, List.countP_eq_length]
  intro c hc
  rw [(h c hc).isUnseen]
  rfl

theorem expandTabs_eq_self (h : '\t' ∉ chars) (cell : Nat) : expandTabs cell chars = chars := by
  induction chars generalizing cell with
  | nil => rfl
  | cons c rest ih =>
    obtain ⟨hc, hrest⟩ := not_or.1 (mt List.mem_cons.2 h)
    rw [expandTabs, if_neg (Ne.symm hc), ih hrest]

theorem mem_expandTabs {c : Char} (cell : Nat) (h : c ∈ expandTabs cell chars) :
    c ∈ chars ∨ c = ' ' := by
  induction chars generalizing cell with
  | nil => exact .inl h
  | cons d rest ih =>
    rw [expandTabs] at h
    split at h
    · rcases List.mem_append.1 h with h | h
      · exact .inr (List.mem_replicate.1 h).2
      · exact (ih _ h).imp_left (List.mem_cons_of_mem d)
    · rcases List.mem_cons.1 h with rfl | h
      · exact .inl List.mem_cons_self
      · exact (ih _ h).imp_left (List.mem_cons_of_mem d)

end Cells

section Words

variable {current line : List Char}

theorem wordsFrom_of_blank (h : ∀ c ∈ current ++ line, isBlank c = true) :
    wordsFrom current line = [] := by
  fun_induction wordsFrom current line with
  | case1 current hblank => rfl
  | case2 current hblank =>
    rw [List.append_nil] at h
    exact absurd (List.all_eq_true.2 h) hblank
  | case3 current c rest hsplit ih =>
    have hc := h c (by simp)
    simp [hc] at hsplit
  | case4 current c rest hsplit ih => exact ih fun d hd ↦ h d (by simp at hd ⊢; tauto)

theorem flatten_wordsFrom (h : ∃ c ∈ current ++ line, isBlank c = false) :
    (wordsFrom current line).flatten = current.reverse ++ line := by
  fun_induction wordsFrom current line with
  | case1 current hblank =>
    obtain ⟨c, hc, hfalse⟩ := h
    rw [List.append_nil] at hc
    rw [List.all_eq_true.1 hblank c hc] at hfalse
    cases hfalse
  | case2 current hblank => simp
  | case3 current c rest hsplit ih =>
    -- The word that begins here has a character that is not blank.
    have hc : isBlank c = false := by
      simp only [Bool.and_eq_true, Bool.not_eq_true'] at hsplit
      exact hsplit.1.1
    rw [List.flatten_cons, ih ⟨c, by simp, hc⟩]
    simp
  | case4 current c rest hsplit ih =>
    obtain ⟨d, hd, hfalse⟩ := h
    rw [ih ⟨d, by simp at hd ⊢; tauto, hfalse⟩]
    simp

theorem wordsFrom_cases (line : List Char) :
    wordsFrom [] line = [] ∨ (wordsFrom [] line).flatten = line := by
  by_cases h : ∃ c ∈ line, isBlank c = false
  · exact .inr (flatten_wordsFrom h)
  · refine .inl (wordsFrom_of_blank fun c hc ↦ ?_)
    rw [← Bool.not_eq_false]
    exact fun hfalse ↦ h ⟨c, hc, hfalse⟩

theorem flatten_chop (width : Nat) (current word : List Char) :
    (chop width current word).flatten = current.reverse ++ word := by
  fun_induction chop width current word with
  | case1 current => simp
  | case2 current c rest hwide ih => simp [ih]
  | case3 current c rest hfits ih => simp [ih]

end Words

namespace Filling

variable {filling : Filling} {word : List Char} {words : List (List Char)} {width : Nat}
  {overflow : Overflow}

def content (filling : Filling) : List Char := filling.complete.flatten ++ filling.line

theorem content_start (filling : Filling) (word : List Char) :
    (filling.start word).content = filling.content ++ word := by
  unfold start content
  split
  · rename_i hline
    simp [hline]
  · simp

theorem content_foldl {f : Filling → List Char → Filling}
    (hf : ∀ filling word, (f filling word).content = filling.content ++ word) (filling : Filling)
    (words : List (List Char)) :
    (words.foldl f filling).content = filling.content ++ words.flatten := by
  induction words generalizing filling with
  | nil => simp
  | cons word rest ih => rw [List.foldl_cons, ih, hf, List.flatten_cons, List.append_assoc]

theorem content_add (width : Nat) (overflow : Overflow) (filling : Filling) (word : List Char) :
    (filling.add width overflow word).content = filling.content ++ word := by
  unfold add
  dsimp only
  split
  · simp [content]
  · split
    · exact content_start filling word
    · rw [content_foldl content_start, flatten_chop]
      rfl

theorem foldl_add_of_fits (h : cells (filling.line ++ words.flatten) ≤ width) :
    words.foldl (add width overflow) filling =
      { filling with line := filling.line ++ words.flatten } := by
  induction words generalizing filling with
  | nil => simp
  | cons word rest ih =>
    have hword : cells (Text.dropWhileRight isBlank word) ≤ cells word :=
      cells_le_of_sublist (Text.prefix_dropWhileRight isBlank word).sublist
    have hadd :
        filling.add width overflow word = { filling with line := filling.line ++ word } := by
      rw [List.flatten_cons, cells_append, cells_append] at h
      exact if_pos (by omega)
    rw [List.foldl_cons, hadd, ih (by simpa using h)]
    simp

end Filling

section Lines

variable {width : Nat} {overflow : Overflow} {line : List Char} {text : String}

theorem cutBlanks_sublist (width : Nat) (line : List Char) : (cutBlanks width line).Sublist line :=
  List.take_sublist _ _

theorem cutBlanks_eq_self (h : line.length ≤ width) : cutBlanks width line = line := by
  rw [cutBlanks, Nat.sub_eq_zero_of_le h, Nat.min_zero, Nat.sub_zero, List.take_length]

theorem mem_of_mem_wrapLine {part : List Char} (hpart : part ∈ wrapLine width overflow line)
    {c : Char} (hc : c ∈ part) : c ∈ line ∨ c = ' ' := by
  refine mem_expandTabs 0 ?_
  unfold wrapLine at hpart
  dsimp only at hpart
  generalize expandTabs 0 line = line at hpart
  split at hpart
  · rw [List.mem_singleton.1 hpart] at hc
    exact (cutBlanks_sublist width line).subset hc
  · rename_i hwords
    rcases wordsFrom_cases line with hnil | hflatten
    · exact absurd hnil hwords
    · obtain ⟨whole, hwhole, rfl⟩ := List.mem_map.1 hpart
      have hcontent := Filling.content_foldl (Filling.content_add width overflow) ⟨[], []⟩
        (wordsFrom [] line)
      rw [hflatten, Filling.content] at hcontent
      have hmem : c ∈ whole := (cutBlanks_sublist width whole).subset hc
      change _ = line at hcontent
      rw [← hcontent]
      rcases List.mem_append.1 hwhole with h | h
      · exact List.mem_append_left _ (List.mem_flatten.2 ⟨whole, h, hmem⟩)
      · exact List.mem_append_right _ (List.mem_singleton.1 h ▸ hmem)

theorem wrapLine_eq_singleton (htab : '\t' ∉ line) (hcells : cells line ≤ width)
    (hlength : line.length ≤ width) : wrapLine width overflow line = [line] := by
  unfold wrapLine
  rw [expandTabs_eq_self htab]
  dsimp only
  rcases wordsFrom_cases line with hnil | hflatten
  · rw [hnil]
    dsimp only
    rw [cutBlanks_eq_self hlength]
  · cases hwords : wordsFrom [] line with
    | nil =>
      dsimp only
      rw [cutBlanks_eq_self hlength]
    | cons word rest =>
      rw [hwords] at hflatten
      dsimp only
      rw [Filling.foldl_add_of_fits (by rw [hflatten]; exact hcells), hflatten, List.nil_append,
        List.nil_append, List.map_singleton, cutBlanks_eq_self hlength]

theorem mem_of_mem_wrap (hpart : line ∈ wrap width overflow text) {c : Char} (hc : c ∈ line) :
    c ∈ text.toList ∨ c = ' ' := by
  obtain ⟨piece, hpiece, hline⟩ := List.mem_flatMap.1 hpart
  exact (mem_of_mem_wrapLine hline hc).imp_left fun hmem ↦ Text.mem_of_mem_piecesChars hpiece hmem

theorem wrap_eq_singleton (htext : ∀ c ∈ text.toList, PrintableAscii c)
    (hlength : text.length ≤ width) : wrap width overflow text = [text.toList] := by
  rw [← String.length_toList] at hlength
  have hpieces : Text.piecesChars '\n' text.toList = [text.toList] :=
    Text.piecesChars_of_notMem fun h ↦ (htext _ h).ne_feed rfl
  rw [wrap, hpieces, List.flatMap_singleton]
  refine wrapLine_eq_singleton (fun h ↦ (htext _ h).ne_tab rfl) ?_ hlength
  rwa [cells_eq_length htext]

end Lines

end Registrar.Console
