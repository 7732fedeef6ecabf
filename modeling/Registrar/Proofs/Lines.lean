import Registrar.Text.Basic

namespace Registrar.Text

open Registrar.Character

section Ends

variable {front back : List Char}

def lineEnds : List (List Char) := [['\n'], ['\r'], ['\r', '\n']]

theorem unifyBreaks_append (h : '\r' ∉ front) (back : List Char) :
    unifyBreaks (front ++ back) = front ++ unifyBreaks back := by
  induction front with
  | nil => rfl
  | cons c front ih =>
    obtain ⟨hc, hfront⟩ := not_or.1 (mt List.mem_cons.2 h)
    have hstep (chars : List Char) : unifyBreaks (c :: chars) = c :: unifyBreaks chars := by
      rw [unifyBreaks] <;> intros <;> simp_all
    rw [List.cons_append, hstep, ih hfront, List.cons_append]

theorem unifyBreaks_lineEnd {lineEnd : List Char} (h : lineEnd ∈ lineEnds)
    (hback : back.head? ≠ some '\n') :
    unifyBreaks (lineEnd ++ back) = '\n' :: unifyBreaks back := by
  simp only [lineEnds, List.mem_cons, List.not_mem_nil, or_false] at h
  rcases h with rfl | rfl | rfl
  · simp [unifyBreaks]
  · cases back with
    | nil => rfl
    | cons c back =>
      have hc : c ≠ '\n' := fun heq ↦ hback (heq ▸ rfl)
      simp [unifyBreaks, hc]
  · simp [unifyBreaks]

end Ends

section Boundaries

variable {chars front line : List Char}

/-- All characters stand on one line. -/
def OnOneLine (chars : List Char) : Prop := ∀ c ∈ chars, isLineBoundary c = false

instance : DecidablePred OnOneLine := fun chars ↦ List.decidableBAll _ chars

theorem linesChars_cons {c : Char} (h : isLineBoundary c = false) (chars : List Char) :
    linesChars (c :: chars) = extendFirst c (linesChars chars) := by
  have hc : c ≠ '\r' := by
    rintro rfl
    exact absurd h (by decide)
  rw [linesChars]
  · simp [h]
  · intro rest heq
    simp_all

theorem linesChars_append (h : OnOneLine front) (back : List Char) :
    linesChars (front ++ '\n' :: back) = front :: linesChars back := by
  induction front with
  | nil =>
    have hend : isLineBoundary '\n' = true := by decide
    simp [linesChars, hend]
  | cons c front ih =>
    obtain ⟨hc, hfront⟩ := List.forall_mem_cons.1 h
    rw [List.cons_append, linesChars_cons hc, ih hfront, extendFirst]

theorem linesChars_eq_singleton (hne : front ≠ []) (h : OnOneLine front) :
    linesChars front = [front] := by
  induction front with
  | nil => exact absurd rfl hne
  | cons c front ih =>
    obtain ⟨hc, hfront⟩ := List.forall_mem_cons.1 h
    rw [linesChars_cons hc]
    cases front with
    | nil => rfl
    | cons d front => rw [ih (List.cons_ne_nil d front) hfront, extendFirst]

theorem linesChars_intercalate {texts : List (List Char)} (h : ∀ line ∈ texts, OnOneLine line)
    (hne : [] ∉ texts) : linesChars (['\n'].intercalate texts) = texts := by
  induction texts with
  | nil => rfl
  | cons front rest ih =>
    obtain ⟨hfront, hrest⟩ := List.forall_mem_cons.1 h
    obtain ⟨hfrontNe, hrestNe⟩ := not_or.1 (mt List.mem_cons.2 hne)
    cases rest with
    | nil =>
      rw [List.intercalate_singleton]
      exact linesChars_eq_singleton (Ne.symm hfrontNe) hfront
    | cons second more =>
      rw [List.intercalate_cons_cons, List.append_assoc, List.singleton_append,
        linesChars_append hfront, ih hrest hrestNe]

theorem lines_join {texts : List String} (h : ∀ text ∈ texts, OnOneLine text.toList)
    (hne : "" ∉ texts) : lines (join "\n" texts) = texts := by
  have hchars : [] ∉ texts.map String.toList := by
    simpa only [List.mem_map, String.toList_eq_nil_iff, exists_eq_right] using hne
  have hfeed : "\n".toList = ['\n'] := rfl
  rw [lines, join, String.toList_intercalate, hfeed,
    linesChars_intercalate (List.forall_mem_map.2 h) hchars, List.map_map]
  simp

theorem onOneLine_of_mem (h : line ∈ linesChars chars) : OnOneLine line := by
  induction chars using linesChars.induct generalizing line with
  | case1 => simp [linesChars] at h
  | case2 rest ih =>
    rw [linesChars] at h
    rcases List.mem_cons.1 h with rfl | h
    · exact nofun
    · exact ih h
  | case3 c rest hnext hend ih =>
    rw [linesChars, if_pos hend] at h
    · rcases List.mem_cons.1 h with rfl | h
      · exact nofun
      · exact ih h
    · exact hnext
  | case4 c rest hnext hend ih =>
    rw [Bool.not_eq_true] at hend
    rw [linesChars_cons hend] at h
    intro d hd
    cases hlines : linesChars rest with
    | nil =>
      rw [hlines, extendFirst, List.mem_singleton] at h
      subst h
      rw [List.mem_singleton.1 hd]
      exact hend
    | cons first more =>
      rw [hlines] at h ih
      rcases List.mem_cons.1 h with rfl | h
      · rcases List.mem_cons.1 hd with rfl | hd
        · exact hend
        · exact ih List.mem_cons_self d hd
      · exact ih (List.mem_cons_of_mem first h) d hd

end Boundaries

end Registrar.Text
