import Mathlib.Data.List.Basic
import Registrar.Text.Basic

namespace Registrar

namespace Character

/-- Whether no code point to which a run leads is mapped by another run. Their intervals lie apart,
or else both take every second code point and differ in parity. -/
def CaseRun.avoids (run other : CaseRun) : Bool :=
  (run.target + (run.last - run.first)).blt other.first || other.last.blt run.target ||
    (other.stride == 2 && (run.stride == 2 || run.first == run.last) &&
      run.target % 2 != other.first % 2)

theorem CaseRun.map?_image {run other : CaseRun} (h : run.avoids other = true) {code image : Nat}
    (hi : run.map? code = some image) : other.map? image = none := by
  simp only [CaseRun.map?, Option.ite_none_right_eq_some, Option.some.injEq] at hi
  obtain ⟨⟨hfirst, hlast, hstride⟩, rfl⟩ := hi
  simp only [CaseRun.avoids, Nat.blt_eq, Bool.or_eq_true, Bool.and_eq_true, beq_iff_eq,
    bne_iff_ne] at h
  simp only [CaseRun.map?, ite_eq_right_iff]
  rintro ⟨hl, hr, hm⟩
  rcases h with (h | h) | ⟨⟨hs, h⟩, hp⟩
  · omega
  · omega
  · rw [hs] at hm
    rcases h with h | h
    · rw [h] at hstride
      omega
    · omega

theorem lowerRuns_avoid :
    (lowerRuns.all fun run ↦ lowerRuns.all fun other ↦ run.avoids other) = true := by
  decide +kernel

theorem lowerRuns_avoid_dotted :
    (lowerRuns.all fun run ↦ run.avoids ⟨dottedCapitalI, dottedCapitalI, 1, 0⟩) = true := by
  decide +kernel

theorem lowerCode_cases (code : Nat) :
    lowerCode code = code ∨ (code = dottedCapitalI ∧ lowerCode code = 'i'.toNat) ∨
      ∃ run ∈ lowerRuns, run.map? code = some (lowerCode code) := by
  unfold lowerCode
  split
  · rename_i hd
    exact .inr (.inl ⟨hd, rfl⟩)
  · cases h : lowerRuns.findSome? fun run ↦ run.map? code with
    | none => exact .inl rfl
    | some image =>
      obtain ⟨run, mem, hi⟩ := List.exists_of_findSome?_eq_some h
      exact .inr (.inr ⟨run, mem, hi⟩)

theorem lowerCode_ne_dotted (code : Nat) : lowerCode code ≠ dottedCapitalI := by
  rcases lowerCode_cases code with h | ⟨-, h⟩ | ⟨run, mem, hi⟩
  · intro hd
    have hc : code = dottedCapitalI := h.symm.trans hd
    rw [hc] at hd
    exact absurd hd (by decide)
  · rw [h]
    decide
  · intro hd
    have havoid := List.all_eq_true.1 lowerRuns_avoid_dotted run mem
    have hnone := CaseRun.map?_image havoid hi
    rw [hd] at hnone
    exact absurd hnone (by decide)

theorem lowerCode_lowerCode (code : Nat) : lowerCode (lowerCode code) = lowerCode code := by
  rcases lowerCode_cases code with h | ⟨-, h⟩ | ⟨run, mem, hi⟩
  · rw [h, h]
  · rw [h]
    decide +kernel
  · have hnone : (lowerRuns.findSome? fun other ↦ other.map? (lowerCode code)) = none := by
      refine List.findSome?_eq_none_iff.2 fun other hother ↦ ?_
      have havoid := List.all_eq_true.1 lowerRuns_avoid run mem
      exact CaseRun.map?_image (List.all_eq_true.1 havoid other hother) hi
    rw [lowerCode, if_neg (lowerCode_ne_dotted code), hnone]
    rfl

theorem lowerAlone_ofNat {code : Nat} (h : lowerCode code = code) (hd : code ≠ dottedCapitalI) :
    lowerAlone (Char.ofNat code) = [Char.ofNat code] := by
  by_cases hv : code.isValidChar
  · have ht : (Char.ofNat code).toNat = code := by
      rw [Char.ofNat, dif_pos hv]
      rfl
    rw [lowerAlone, ht, if_neg hd, h]
  · rw [Char.ofNat, dif_neg hv]
    decide +kernel

theorem lowerRuns_beyond_ascii :
    (lowerRuns.tail.all fun run ↦ Nat.ble 128 run.first) = true := by
  decide +kernel

theorem lowerCode_ascii {code : Nat} (h : code < 128) :
    lowerCode code = if 65 ≤ code ∧ code ≤ 90 then code + 32 else code := by
  have htail : (lowerRuns.tail.findSome? fun run ↦ run.map? code) = none := by
    refine List.findSome?_eq_none_iff.2 fun run mem ↦ ?_
    have hfirst := Nat.le_of_ble_eq_true (List.all_eq_true.1 lowerRuns_beyond_ascii run mem)
    simp only [CaseRun.map?, ite_eq_right_iff]
    omega
  have hruns : lowerRuns = ⟨65, 90, 1, 97⟩ :: lowerRuns.tail := rfl
  have hd : code ≠ dottedCapitalI := by
    rw [dottedCapitalI]
    omega
  rw [lowerCode, if_neg hd, hruns, List.findSome?_cons, htail, CaseRun.map?]
  by_cases hc : 65 ≤ code ∧ code ≤ 90
  · simp [hc, Nat.mod_one]
    omega
  · simp [hc, Nat.mod_one]

theorem forall_ascii {P : Char → Prop} (h : ∀ code < 128, P (Char.ofNat code)) {c : Char}
    (hc : c.toNat < 128) : P c := by
  have hP := h c.toNat hc
  rwa [Char.ofNat_toNat] at hP

theorem lowerAlone_ascii {c : Char} (h : c.toNat < 128) : lowerAlone c = [c.toLower] := by
  have hd : c.toNat ≠ dottedCapitalI := by
    rw [dottedCapitalI]
    omega
  rw [lowerAlone, if_neg hd, lowerCode_ascii h]
  exact forall_ascii (P := fun c ↦
    [Char.ofNat (if 65 ≤ c.toNat ∧ c.toNat ≤ 90 then c.toNat + 32 else c.toNat)] = [c.toLower])
    (by decide) h

theorem lowerAlone_of_mem {c d : Char} (h : d ∈ lowerAlone c) : lowerAlone d = [d] := by
  unfold lowerAlone at h
  split at h
  · simp only [List.mem_cons, List.not_mem_nil, or_false] at h
    rcases h with rfl | rfl <;> decide +kernel
  · rw [List.mem_singleton.1 h]
    exact lowerAlone_ofNat (lowerCode_lowerCode _) (lowerCode_ne_dotted _)

end Character

namespace Text

open Registrar.Character

theorem lowerAlone_sigma : lowerAlone 'Σ' = ['σ'] := by decide +kernel

theorem lowerFrom_append {front : List Char} (h : 'Σ' ∉ front) (before back : List Char) :
    lowerFrom before (front ++ back) =
      front.flatMap lowerAlone ++ lowerFrom (front.reverse ++ before) back := by
  induction front generalizing before with
  | nil => rfl
  | cons c front ih =>
    rw [List.mem_cons, not_or] at h
    rw [List.cons_append, lowerFrom, if_neg (Ne.symm h.1), ih h.2]
    simp

theorem lowerFrom_eq_flatMap {chars : List Char} (h : 'Σ' ∉ chars) (before : List Char) :
    lowerFrom before chars = chars.flatMap lowerAlone := by
  have happend := lowerFrom_append h before []
  rwa [List.append_nil, lowerFrom, List.append_nil] at happend

theorem sigma_notMem {chars : List Char} (h : ∀ c ∈ chars, lowerAlone c = [c]) :
    'Σ' ∉ chars := by
  intro hmem
  have hself := h 'Σ' hmem
  rw [lowerAlone_sigma] at hself
  exact absurd hself (by decide)

theorem flatMap_lowerAlone_eq_self {chars : List Char} (h : ∀ c ∈ chars, lowerAlone c = [c]) :
    chars.flatMap lowerAlone = chars := by
  rw [List.flatMap_congr h, List.flatMap_singleton']

theorem lowerFrom_eq_self {chars : List Char} (h : ∀ c ∈ chars, lowerAlone c = [c])
    (before : List Char) : lowerFrom before chars = chars := by
  rw [lowerFrom_eq_flatMap (sigma_notMem h), flatMap_lowerAlone_eq_self h]

/-- What stands around a text has no influence on how long its lower case is, for either of the
small forms of a capital sigma is one character. -/
theorem exists_lowerFrom_append (before front back : List Char) :
    ∃ first, first.length = (front.flatMap lowerAlone).length ∧
      lowerFrom before (front ++ back) = first ++ lowerFrom (front.reverse ++ before) back := by
  induction front generalizing before with
  | nil => exact ⟨[], rfl, rfl⟩
  | cons c front ih =>
    obtain ⟨first, hlength, happend⟩ := ih (c :: before)
    refine ⟨(if c = 'Σ' then [if endsWord before (front ++ back) then 'ς' else 'σ']
      else lowerAlone c) ++ first, ?_, ?_⟩
    · by_cases hc : c = 'Σ'
      · simp [hc, hlength, lowerAlone_sigma]
      · simp [hc, hlength]
    · rw [List.cons_append, lowerFrom, happend]
      simp

theorem length_lowerFrom (before chars : List Char) :
    (lowerFrom before chars).length = (chars.flatMap lowerAlone).length := by
  obtain ⟨first, hlength, happend⟩ := exists_lowerFrom_append before chars []
  rw [List.append_nil, lowerFrom, List.append_nil] at happend
  rw [happend, hlength]

theorem sigma_notMem_of_ascii {before chars : List Char}
    (h : ∀ d ∈ lowerFrom before chars, d.toNat < 128) : 'Σ' ∉ chars := by
  intro hmem
  obtain ⟨front, back, rfl⟩ := List.append_of_mem hmem
  obtain ⟨first, -, happend⟩ := exists_lowerFrom_append before front ('Σ' :: back)
  simp only [happend, lowerFrom, if_true, List.mem_append, List.mem_singleton] at h
  have hform := h _ (.inr (.inl rfl))
  split at hform <;> exact absurd hform (by decide)

theorem lowerAlone_of_mem_lowerFrom {c : Char} {before chars : List Char}
    (h : c ∈ lowerFrom before chars) : lowerAlone c = [c] := by
  induction chars generalizing before with
  | nil => simp [lowerFrom] at h
  | cons d rest ih =>
    rw [lowerFrom, List.mem_append] at h
    rcases h with h | h
    · split at h
      · split at h <;> rw [List.mem_singleton.1 h] <;> decide +kernel
      · exact lowerAlone_of_mem h
    · exact ih h

theorem lowerAlone_of_mem_lower {c : Char} {text : String} (h : c ∈ (lower text).toList) :
    lowerAlone c = [c] := by
  rw [lower, String.toList_ofList] at h
  exact lowerAlone_of_mem_lowerFrom h

theorem lower_eq_self {text : String} (h : ∀ c ∈ text.toList, lowerAlone c = [c]) :
    lower text = text := by
  rw [lower, lowerChars, lowerFrom_eq_self h, String.ofList_toList]

theorem lower_lower (text : String) : lower (lower text) = lower text :=
  lower_eq_self fun _ h ↦ lowerAlone_of_mem_lower h

end Text

end Registrar
