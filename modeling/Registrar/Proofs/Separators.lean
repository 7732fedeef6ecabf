import Registrar.Proofs.Trimming

namespace Registrar.Text

open Registrar.Character

section Pieces

variable {separator : Char} {chars piece : List Char} {texts : List String}

theorem piecesChars_eq_splitOn (separator : Char) (chars : List Char) :
    piecesChars separator chars = chars.splitOn separator := by
  induction chars with
  | nil => rw [piecesChars, List.splitOn_nil]
  | cons c rest ih =>
    rw [piecesChars, List.splitOn_cons_eq_if_modifyHead, ih]
    by_cases hc : c = separator
    · simp [hc]
    · cases hsplit : rest.splitOn separator with
      | nil => exact absurd hsplit (List.splitOn_ne_nil separator rest)
      | cons first more => simp [hc]

theorem notMem_of_mem_piecesChars (h : piece ∈ piecesChars separator chars) :
    separator ∉ piece := by
  induction chars generalizing piece with
  | nil =>
    rw [piecesChars, List.mem_singleton] at h
    simp [h]
  | cons c rest ih =>
    rw [piecesChars] at h
    split at h
    · rcases List.mem_cons.1 h with rfl | hmem
      · exact List.not_mem_nil
      · exact ih hmem
    · rename_i hc
      have hne : separator ≠ c := fun heq ↦ hc heq.symm
      cases hpieces : piecesChars separator rest with
      | nil =>
        rw [hpieces, List.mem_singleton] at h
        simp [h, hne]
      | cons first more =>
        rw [hpieces] at h ih
        rcases List.mem_cons.1 h with rfl | hmem
        · simpa [hne] using ih List.mem_cons_self
        · exact ih (List.mem_cons_of_mem first hmem)

theorem mem_of_mem_piecesChars (h : piece ∈ piecesChars separator chars) : piece ⊆ chars := by
  induction chars generalizing piece with
  | nil =>
    rw [piecesChars, List.mem_singleton] at h
    rw [h]
    exact List.Subset.refl []
  | cons c rest ih =>
    rw [piecesChars] at h
    split at h
    · rcases List.mem_cons.1 h with rfl | hmem
      · exact List.nil_subset _
      · exact List.Subset.trans (ih hmem) (List.subset_cons_self c rest)
    · cases hpieces : piecesChars separator rest with
      | nil =>
        rw [hpieces, List.mem_singleton] at h
        simp [h]
      | cons first more =>
        rw [hpieces] at h ih
        rcases List.mem_cons.1 h with rfl | hmem
        · exact List.cons_subset_cons c (ih List.mem_cons_self)
        · exact List.Subset.trans (ih (List.mem_cons_of_mem first hmem))
            (List.subset_cons_self c rest)

theorem piecesChars_of_notMem (h : separator ∉ chars) : piecesChars separator chars = [chars] := by
  induction chars with
  | nil => rfl
  | cons c rest ih =>
    obtain ⟨hc, hrest⟩ := not_or.1 (mt List.mem_cons.2 h)
    rw [piecesChars, if_neg (Ne.symm hc), ih hrest]

theorem piecesChars_append (h : separator ∉ piece) (chars : List Char) :
    piecesChars separator (piece ++ separator :: chars) = piece :: piecesChars separator chars := by
  induction piece with
  | nil => rw [List.nil_append, piecesChars, if_pos rfl]
  | cons c rest ih =>
    obtain ⟨hc, hrest⟩ := not_or.1 (mt List.mem_cons.2 h)
    rw [List.cons_append, piecesChars, if_neg (Ne.symm hc), ih hrest]

theorem notMem_of_mem_pieces {text piece : String} (h : piece ∈ pieces separator text) :
    separator ∉ piece.toList := by
  obtain ⟨chars, hchars, rfl⟩ := List.mem_map.1 h
  rw [String.toList_ofList]
  exact notMem_of_mem_piecesChars hchars

theorem pieces_join {sign : String} (hsign : sign.toList = [separator]) (hne : texts ≠ [])
    (h : ∀ text ∈ texts, separator ∉ text.toList) : pieces separator (join sign texts) = texts := by
  have hchars : ∀ chars ∈ texts.map String.toList, separator ∉ chars := by simpa using h
  rw [pieces, join, String.toList_intercalate, hsign, piecesChars_eq_splitOn,
    List.splitOn_intercalate separator hchars (by simpa using hne), List.map_map]
  simp

end Pieces

section Blanks

variable {separator c : Char} {chars : List Char}

theorem trimChars_dropWhile (chars : List Char) :
    trimChars (chars.dropWhile isBlank) = trimChars chars := by
  rw [trimChars, trimChars, List.dropWhile_idempotent]

theorem trimChars_dropWhileRight (chars : List Char) :
    trimChars (dropWhileRight isBlank chars) = trimChars chars := by
  obtain ⟨dropped, hdropped, hchars⟩ := exists_dropped isBlank chars
  generalize dropWhileRight isBlank chars = front at hchars ⊢
  have hnil : dropWhileRight isBlank dropped = [] := dropWhileRight_eq_nil_iff.2 hdropped
  rw [hchars, trimChars, trimChars, List.dropWhile_append]
  -- If nothing is left of the front, then nothing is left of the whole.
  by_cases hfront : front.dropWhile isBlank = []
  · have hback : dropped.dropWhile isBlank = [] := List.dropWhile_eq_nil_iff.2 hdropped
    simp [hfront, hback]
  · simp [hfront, dropWhileRight_append, hnil]

theorem trimChars_append_cons (h : isBlank separator = false) (left right : List Char) :
    trimChars (left ++ separator :: right) =
      left.dropWhile isBlank ++ separator :: dropWhileRight isBlank right := by
  have hfront : (left ++ separator :: right).dropWhile isBlank =
      left.dropWhile isBlank ++ [separator] ++ right := by
    rw [List.dropWhile_append]
    by_cases hleft : left.dropWhile isBlank = []
    · simp [hleft, h]
    · simp [hleft]
  have hstop : dropWhileRight isBlank (left.dropWhile isBlank ++ [separator]) =
      left.dropWhile isBlank ++ [separator] := by
    rw [dropWhileRight_eq_self_iff]
    simp [h]
  rw [trimChars, hfront, dropWhileRight_append, hstop]
  split
  · rename_i hright
    rw [hright]
  · rw [List.append_assoc, List.singleton_append]

theorem mem_trimChars_iff (h : isBlank c = false) : c ∈ trimChars chars ↔ c ∈ chars := by
  constructor
  · intro hc
    exact (trimChars_sublist chars).subset hc
  · intro hc
    obtain ⟨front, back, rfl⟩ := List.append_of_mem hc
    rw [trimChars_append_cons h]
    simp

theorem trim_trim (text : String) : trim (trim text) = trim text :=
  trimmed_iff.1 (trimmed_trim text)

end Blanks

section Assignments

variable {separator : Char} {text : String} {entry other : String × String}

/-- A text gives a value to a key: they stand before and behind its first separator, without the
blanks around them. -/
def Assigns (separator : Char) (text : String) (entry : String × String) : Prop :=
  ∃ left right : String, text.toList = left.toList ++ separator :: right.toList ∧
    separator ∉ left.toList ∧ entry = (trim left, trim right)

theorem assigns_iff_cut : Assigns separator text entry ↔
    ∃ left right, cut? separator text = some (left, right) ∧ entry = (trim left, trim right) := by
  simp only [Assigns, cut?_eq_some_iff, and_assoc]

theorem Assigns.unique (h : Assigns separator text entry) (h' : Assigns separator text other) :
    entry = other := by
  obtain ⟨left, right, hcut, rfl⟩ := assigns_iff_cut.1 h
  obtain ⟨left', right', hcut', rfl⟩ := assigns_iff_cut.1 h'
  rw [hcut] at hcut'
  obtain ⟨rfl, rfl⟩ := Prod.mk.inj (Option.some.inj hcut')
  rfl

theorem exists_assigns_iff : (∃ entry, Assigns separator text entry) ↔ separator ∈ text.toList := by
  constructor
  · rintro ⟨entry, left, right, hchars, -⟩
    rw [hchars]
    simp
  · intro hmem
    obtain ⟨front, back, hchars, hfront⟩ := List.eq_append_cons_of_mem hmem
    refine ⟨_, String.ofList front, String.ofList back, ?_, ?_, rfl⟩
    · rw [hchars, String.toList_ofList, String.toList_ofList]
    · rwa [String.toList_ofList]

theorem Assigns.mem {c : Char} (h : Assigns separator text entry)
    (hc : c ∈ entry.1.toList ++ separator :: entry.2.toList) : c ∈ text.toList := by
  obtain ⟨left, right, hchars, -, rfl⟩ := h
  rw [hchars]
  simp only [toList_trim, List.mem_append, List.mem_cons] at hc ⊢
  exact hc.imp (fun hleft ↦ (trimChars_sublist _).subset hleft)
    (Or.imp_right fun hright ↦ (trimChars_sublist _).subset hright)

theorem Assigns.key_notMem (h : Assigns separator text entry) : separator ∉ entry.1.toList := by
  obtain ⟨left, right, -, hleft, rfl⟩ := h
  rw [toList_trim]
  exact fun hmem ↦ hleft ((trimChars_sublist _).subset hmem)

theorem Assigns.trim_key (h : Assigns separator text entry) : trim entry.1 = entry.1 := by
  obtain ⟨left, right, -, -, rfl⟩ := h
  exact trim_trim left

theorem Assigns.trim_value (h : Assigns separator text entry) : trim entry.2 = entry.2 := by
  obtain ⟨left, right, -, -, rfl⟩ := h
  exact trim_trim right

theorem Assigns.trim_ne_empty (hentry : Assigns separator text entry)
    (h : isBlank separator = false) : trim text ≠ "" := by
  intro hempty
  have hmem : separator ∈ trimChars text.toList :=
    (mem_trimChars_iff h).2 (exists_assigns_iff.1 ⟨entry, hentry⟩)
  rw [← toList_trim, hempty] at hmem
  exact List.not_mem_nil hmem

theorem assigns_trim_iff (h : isBlank separator = false) :
    Assigns separator (trim text) entry ↔ Assigns separator text entry := by
  have htrim {entry : String × String} (hentry : Assigns separator text entry) :
      Assigns separator (trim text) entry := by
    obtain ⟨left, right, hchars, hleft, rfl⟩ := hentry
    refine ⟨String.ofList (left.toList.dropWhile isBlank),
      String.ofList (dropWhileRight isBlank right.toList), ?_, ?_, ?_⟩
    · simp only [toList_trim, hchars, trimChars_append_cons h, String.toList_ofList]
    · rw [String.toList_ofList]
      exact fun hmem ↦ hleft ((List.dropWhile_sublist isBlank).subset hmem)
    · simp only [trim, String.toList_ofList, trimChars_dropWhile, trimChars_dropWhileRight]
  refine ⟨fun hentry ↦ ?_, htrim⟩
  have hmem : separator ∈ (trim text).toList := exists_assigns_iff.1 ⟨entry, hentry⟩
  rw [toList_trim, mem_trimChars_iff h] at hmem
  obtain ⟨other, hother⟩ := exists_assigns_iff.2 hmem
  rwa [hentry.unique (htrim hother)]

end Assignments

section Writing

variable {sign : String} {separator c : Char} {entry : String × String}

def assignment (sign : String) (entry : String × String) : String := entry.1 ++ sign ++ entry.2

theorem toList_assignment (hsign : sign.toList = [separator]) (entry : String × String) :
    (assignment sign entry).toList = entry.1.toList ++ separator :: entry.2.toList := by
  rw [assignment, String.toList_append, String.toList_append, hsign, List.append_assoc,
    List.singleton_append]

theorem mem_assignment_iff (hsign : sign.toList = [separator]) (hc : c ≠ separator) :
    c ∈ (assignment sign entry).toList ↔ c ∈ entry.1.toList ∨ c ∈ entry.2.toList := by
  rw [toList_assignment hsign, List.mem_append, List.mem_cons, or_iff_right hc]

theorem cut?_assignment (hsign : sign.toList = [separator]) (hkey : separator ∉ entry.1.toList) :
    cut? separator (assignment sign entry) = some entry :=
  cut?_eq_some_iff.2 ⟨toList_assignment hsign entry, hkey⟩

theorem assigns_assignment (hsign : sign.toList = [separator]) (hkey : separator ∉ entry.1.toList)
    (hkeyTrim : trim entry.1 = entry.1) (hvalueTrim : trim entry.2 = entry.2) :
    Assigns separator (assignment sign entry) entry :=
  ⟨entry.1, entry.2, toList_assignment hsign entry, hkey, Prod.ext hkeyTrim.symm hvalueTrim.symm⟩

theorem trim_assignment (hsign : sign.toList = [separator]) (hblank : isBlank separator = false)
    (hkey : trim entry.1 = entry.1) (hvalue : trim entry.2 = entry.2) :
    trim (assignment sign entry) = assignment sign entry := by
  rw [trim, toList_assignment hsign, trimChars_append_cons hblank,
    dropWhile_isBlank_eq_self (trimmed_iff.2 hkey).head,
    dropWhileRight_isBlank_eq_self (trimmed_iff.2 hvalue).last,
    ← toList_assignment hsign, String.ofList_toList]

end Writing

end Registrar.Text
