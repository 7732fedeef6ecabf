import Mathlib.Data.List.DropRight
import Registrar.Text.Basic

namespace Registrar.Text

open Registrar.Character

section Right

variable {p : Char → Bool} {chars front back : List Char}

theorem prefix_dropWhileRight (p : Char → Bool) (chars : List Char) :
    dropWhileRight p chars <+: chars :=
  List.rdropWhile_prefix p chars

theorem dropWhileRight_eq_self_iff :
    dropWhileRight p chars = chars ↔ ∀ h : chars ≠ [], ¬p (chars.getLast h) :=
  List.rdropWhile_eq_self_iff

theorem dropWhileRight_eq_nil_iff : dropWhileRight p chars = [] ↔ ∀ c ∈ chars, p c = true :=
  List.rdropWhile_eq_nil_iff

theorem getLast?_dropWhileRight {c : Char} (h : (dropWhileRight p chars).getLast? = some c) :
    p c = false := by
  rw [dropWhileRight, List.getLast?_reverse] at h
  have hstop := List.head?_dropWhile_not p chars.reverse
  rw [h] at hstop
  exact hstop

theorem exists_dropped (p : Char → Bool) (chars : List Char) :
    ∃ dropped, (∀ c ∈ dropped, p c = true) ∧ chars = dropWhileRight p chars ++ dropped :=
  ⟨chars.rtakeWhile p, fun _ hc ↦ List.mem_rtakeWhile_imp hc,
    List.rdropWhile_append_rtakeWhile.symm⟩

theorem dropWhileRight_append (p : Char → Bool) (front back : List Char) :
    dropWhileRight p (front ++ back) =
      if dropWhileRight p back = [] then dropWhileRight p front
      else front ++ dropWhileRight p back := by
  unfold dropWhileRight
  rw [List.reverse_append, List.dropWhile_append]
  by_cases h : back.reverse.dropWhile p = []
  · simp [h]
  · simp [h]

theorem prefix_dropWhileRight_append_iff (hfront : front ≠ []) :
    front <+: dropWhileRight p (front ++ back) ↔
      p (front.getLast hfront) = false ∨ ∃ c ∈ back, p c = false := by
  rw [dropWhileRight_append]
  by_cases hback : ∀ c ∈ back, p c = true
  · have hnone : ¬∃ c ∈ back, p c = false := by
      rintro ⟨c, hc, hp⟩
      rw [hback c hc] at hp
      cases hp
    rw [if_pos (dropWhileRight_eq_nil_iff.2 hback), or_iff_left hnone]
    constructor
    · intro h
      have hself := (prefix_dropWhileRight p front).eq_of_length_le h.length_le
      simpa using dropWhileRight_eq_self_iff.1 hself hfront
    · intro h
      have hself : dropWhileRight p front = front :=
        dropWhileRight_eq_self_iff.2 fun _ ↦ by simp [h]
      exact hself.symm ▸ List.prefix_rfl
  · rw [if_neg fun h ↦ hback (dropWhileRight_eq_nil_iff.1 h)]
    refine iff_of_true (List.prefix_append _ _) (.inr ?_)
    simpa using hback

theorem takeWhile_append_eq (hfront : ∀ c ∈ front, p c = true)
    (hback : ∀ c ∈ back.head?, p c = false) : (front ++ back).takeWhile p = front := by
  rw [List.takeWhile_append_of_pos hfront]
  cases back with
  | nil => simp
  | cons c back => simp [hback c rfl]

theorem takeWhile_append_of_stop (p : Char → Bool) {c : Char} (hc : c ∈ front) (hp : p c = false)
    (more : List Char) :
    (front ++ more).takeWhile p = front.takeWhile p ∧
      (front ++ more).dropWhile p = front.dropWhile p ++ more := by
  induction front with
  | nil => cases hc
  | cons d front ih =>
    cases hd : p d with
    | false => simp [hd]
    | true =>
      have hmem : c ∈ front := by
        rcases List.mem_cons.1 hc with rfl | h
        · rw [hd] at hp
          cases hp
        · exact h
      simpa [hd] using ih hmem

theorem getLast?_dropWhile {c : Char} (hlast : front.getLast? = some c)
    (hp : p c = false) : (front.dropWhile p).getLast? = some c := by
  have hne : front.dropWhile p ≠ [] := by
    intro hnil
    have hall := List.dropWhile_eq_nil_iff.1 hnil c (List.mem_of_getLast? hlast)
    rw [hp] at hall
    cases hall
  rw [← hlast, ← List.takeWhile_append_dropWhile (p := p) (l := front),
    List.getLast?_append_of_ne_nil _ hne, List.takeWhile_append_dropWhile]

theorem drop_length_takeWhile (p : Char → Bool) (chars : List Char) :
    chars.drop (chars.takeWhile p).length = chars.dropWhile p :=
  calc
    chars.drop (chars.takeWhile p).length =
        (chars.takeWhile p ++ chars.dropWhile p).drop (chars.takeWhile p).length := by
      rw [List.takeWhile_append_dropWhile]
    _ = chars.dropWhile p := List.drop_left

theorem toList_trimRight (c : Char) (text : String) :
    (trimRight c text).toList = dropWhileRight (· == c) text.toList := by
  rw [trimRight, String.toList_ofList]

end Right

section Both

variable {chars : List Char} {text : String}

theorem toList_trim (text : String) : (trim text).toList = trimChars text.toList := by
  rw [trim, String.toList_ofList]

theorem trimChars_sublist (chars : List Char) : (trimChars chars).Sublist chars :=
  (prefix_dropWhileRight isBlank _).sublist.trans (List.dropWhile_sublist isBlank)

theorem dropWhile_isBlank_eq_self (h : ∀ c ∈ chars.head?, isBlank c = false) :
    chars.dropWhile isBlank = chars := by
  cases chars with
  | nil => rfl
  | cons c rest => simp [h c rfl]

theorem dropWhileRight_isBlank_eq_self (h : ∀ c ∈ chars.getLast?, isBlank c = false) :
    dropWhileRight isBlank chars = chars := by
  rw [dropWhileRight_eq_self_iff]
  intro hne
  simp [h _ (List.getLast?_eq_some_getLast hne)]

theorem trimChars_eq_self_iff :
    trimChars chars = chars ↔
      (∀ c ∈ chars.head?, isBlank c = false) ∧ ∀ c ∈ chars.getLast?, isBlank c = false := by
  constructor
  · intro h
    -- Both steps only drop characters, so neither has dropped any.
    have hright := (prefix_dropWhileRight isBlank (chars.dropWhile isBlank)).length_le
    have hleft : chars.dropWhile isBlank = chars := by
      apply (List.dropWhile_sublist isBlank).eq_of_length_le
      rw [trimChars] at h
      rwa [h] at hright
    constructor
    · intro c hc
      have hstop := List.head?_dropWhile_not isBlank chars
      rw [hleft, hc] at hstop
      exact hstop
    · intro c hc
      rw [trimChars, hleft] at h
      rw [← h] at hc
      exact getLast?_dropWhileRight hc
  · rintro ⟨hhead, hlast⟩
    rw [trimChars, dropWhile_isBlank_eq_self hhead, dropWhileRight_isBlank_eq_self hlast]

theorem trim_eq_self_iff : trim text = text ↔ trimChars text.toList = text.toList := by
  rw [← toList_trim, String.toList_inj]

structure Trimmed (text : String) : Prop where
  head : ∀ c ∈ text.toList.head?, isBlank c = false
  last : ∀ c ∈ text.toList.getLast?, isBlank c = false

theorem trimmed_iff : Trimmed text ↔ trim text = text := by
  rw [trim_eq_self_iff, trimChars_eq_self_iff]
  exact ⟨fun h ↦ ⟨h.head, h.last⟩, fun h ↦ ⟨h.1, h.2⟩⟩

theorem trimmed_trim (text : String) : Trimmed (trim text) := by
  constructor
  · intro c hc
    rw [toList_trim, trimChars, Option.mem_def] at hc
    -- What is dropped at the right end leaves the first character, if one remains.
    obtain ⟨dropped, hdropped⟩ := prefix_dropWhileRight isBlank (text.toList.dropWhile isBlank)
    have hhead : (text.toList.dropWhile isBlank).head? = some c := by
      rw [← hdropped, List.head?_append, hc, Option.some_or]
    have hstop := List.head?_dropWhile_not isBlank text.toList
    rw [hhead] at hstop
    exact hstop
  · intro c hc
    rw [toList_trim] at hc
    exact getLast?_dropWhileRight hc

end Both

section Cut

variable {separator : Char} {chars front back : List Char} {text key value : String}

theorem cutChars?_eq_some_iff :
    cutChars? separator chars = some (front, back) ↔
      chars = front ++ separator :: back ∧ separator ∉ front := by
  induction chars generalizing front with
  | nil => simp [cutChars?]
  | cons c rest ih =>
    rw [cutChars?]
    by_cases hc : c = separator
    · cases front with
      | nil => simp [hc]
      | cons d front => simp [hc]; tauto
    · rw [if_neg hc]
      cases front with
      | nil => simp [hc]
      | cons d front =>
        have hiff : cutChars? separator rest = some (front, back) ↔
            rest = front ++ separator :: back ∧ separator ∉ front := ih
        simp only [Option.map_eq_some_iff, Prod.exists, Prod.mk.injEq, List.cons.injEq,
          List.cons_append, List.mem_cons, not_or] at hiff ⊢
        constructor
        · rintro ⟨left, right, hcut, ⟨rfl, rfl⟩, rfl⟩
          obtain ⟨hrest, hmem⟩ := hiff.1 hcut
          exact ⟨⟨rfl, hrest⟩, Ne.symm hc, hmem⟩
        · rintro ⟨⟨rfl, hrest⟩, -, hmem⟩
          exact ⟨front, back, hiff.2 ⟨hrest, hmem⟩, ⟨rfl, rfl⟩, rfl⟩

theorem cutChars?_reverse (h : separator ∉ back) :
    cutChars? separator (front ++ separator :: back).reverse =
      some (back.reverse, front.reverse) := by
  rw [cutChars?_eq_some_iff]
  exact ⟨by simp, by simpa using h⟩

theorem append_separator_inj {front' back' : List Char} (h : separator ∉ back)
    (h' : separator ∉ back') :
    front ++ separator :: back = front' ++ separator :: back' ↔ front = front' ∧ back = back' := by
  constructor
  · intro heq
    have hcut : some (back.reverse, front.reverse) = some (back'.reverse, front'.reverse) := by
      rw [← cutChars?_reverse h, heq, cutChars?_reverse h']
    obtain ⟨hback, hfront⟩ := Prod.mk.inj (Option.some.inj hcut)
    exact ⟨List.reverse_inj.1 hfront, List.reverse_inj.1 hback⟩
  · rintro ⟨rfl, rfl⟩
    rfl

theorem cut?_eq_some_iff :
    cut? separator text = some (key, value) ↔
      text.toList = key.toList ++ separator :: value.toList ∧ separator ∉ key.toList := by
  rw [cut?, Option.map_eq_some_iff, ← cutChars?_eq_some_iff]
  constructor
  · rintro ⟨⟨front, back⟩, hcut, heq⟩
    obtain ⟨rfl, rfl⟩ := Prod.mk.inj heq
    rwa [String.toList_ofList, String.toList_ofList]
  · intro hcut
    exact ⟨_, hcut, by simp⟩

theorem cut?_eq_none_iff : cut? separator text = none ↔ separator ∉ text.toList := by
  constructor
  · intro hnone hmem
    obtain ⟨front, back, hchars, hfront⟩ := List.eq_append_cons_of_mem hmem
    have hcut : cut? separator text = some (String.ofList front, String.ofList back) := by
      rw [cut?_eq_some_iff, String.toList_ofList, String.toList_ofList]
      exact ⟨hchars, hfront⟩
    rw [hnone] at hcut
    cases hcut
  · intro habsent
    cases hcut : cut? separator text with
    | none => rfl
    | some sides =>
      apply absurd _ habsent
      rw [(cut?_eq_some_iff.1 hcut).1]
      simp

end Cut

end Registrar.Text
