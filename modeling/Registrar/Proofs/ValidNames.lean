import Registrar.Proofs.Identifiers

namespace Registrar

namespace Character

def kelvinSign : Char := '\u212a'

theorem lowerRuns_ascii :
    (lowerRuns.all fun run ↦ Nat.ble 65 run.first && Nat.ble run.last 90 ||
      Nat.ble 128 run.target ||
        run.first == kelvinSign.toNat && run.last == kelvinSign.toNat) = true := by
  decide +kernel

theorem lowerCode_lt {code : Nat} (h : lowerCode code < 128) :
    lowerCode code = code ∨ code = dottedCapitalI ∨ (65 ≤ code ∧ code ≤ 90) ∨
      code = kelvinSign.toNat := by
  rcases lowerCode_cases code with heq | ⟨hd, -⟩ | ⟨run, mem, hi⟩
  · exact .inl heq
  · exact .inr (.inl hd)
  · have hrun := List.all_eq_true.1 lowerRuns_ascii run mem
    simp only [CaseRun.map?, Option.ite_none_right_eq_some, Option.some.injEq] at hi
    simp only [Bool.or_eq_true, Bool.and_eq_true, Nat.ble_eq, beq_iff_eq] at hrun
    omega

theorem toNat_ofNat_of_pos {code : Nat} (h : 0 < (Char.ofNat code).toNat) :
    (Char.ofNat code).toNat = code := by
  by_cases hv : code.isValidChar
  · rw [Char.ofNat, dif_pos hv]
    rfl
  · rw [Char.ofNat, dif_neg hv] at h
    exact absurd h (by decide)

abbrev LowersToAscii (c : Char) : Prop := c.toNat < 128 ∨ c = kelvinSign

theorem lowersToAscii_of_lowerAlone {c : Char}
    (h : ∀ d ∈ lowerAlone c, 0 < d.toNat ∧ d.toNat < 128) : LowersToAscii c := by
  unfold lowerAlone at h
  split at h
  · have hdot := h '\u0307' (by simp)
    exact absurd hdot.2 (by decide)
  · rename_i hi
    obtain ⟨hpos, hlt⟩ := h _ (List.mem_singleton_self _)
    rw [toNat_ofNat_of_pos hpos] at hlt
    rcases lowerCode_lt hlt with hself | hi' | hcapital | hkelvin
    · exact .inl (hself ▸ hlt)
    · exact absurd hi' hi
    · exact .inl (by omega)
    · exact .inr (Char.toNat_inj.1 hkelvin)

def smallForm (c : Char) : Char := if c = kelvinSign then 'k' else c.toLower

theorem lowerAlone_eq_smallForm {c : Char} (h : LowersToAscii c) :
    lowerAlone c = [smallForm c] := by
  rcases h with h | rfl
  · have hne : c ≠ kelvinSign := by
      rintro rfl
      exact absurd h (by decide)
    rw [smallForm, if_neg hne, lowerAlone_ascii h]
  · decide +kernel

end Character

namespace Text

open Character

theorem lowersToAscii_of_lower {name : String}
    (h : ∀ d ∈ (lower name).toList, 0 < d.toNat ∧ d.toNat < 128) :
    ∀ c ∈ name.toList, LowersToAscii c := by
  intro c hc
  rw [lower, String.toList_ofList, lowerChars] at h
  rw [lowerFrom_eq_flatMap (sigma_notMem_of_ascii fun d hd ↦ (h d hd).2)] at h
  exact lowersToAscii_of_lowerAlone fun d hd ↦ h d (List.mem_flatMap.2 ⟨c, hc, hd⟩)

theorem toList_lower_eq_map {name : String} (h : ∀ c ∈ name.toList, LowersToAscii c) :
    (lower name).toList = name.toList.map smallForm := by
  have hsigma : 'Σ' ∉ name.toList := by
    intro hmem
    exact absurd (h _ hmem) (by decide)
  have hforms : name.toList.flatMap lowerAlone = name.toList.flatMap fun c ↦ [smallForm c] :=
    List.flatMap_congr fun c hc ↦ lowerAlone_eq_smallForm (h c hc)
  rw [lower, String.toList_ofList, lowerChars, lowerFrom_eq_flatMap hsigma, hforms,
    ← List.map_eq_flatMap]

end Text

namespace Identifier

open Character

abbrev CapitalLetter (c : Char) : Prop := 'A' ≤ c ∧ c ≤ 'Z'

abbrev Letter (c : Char) : Prop := SmallLetter c ∨ CapitalLetter c ∨ c = kelvinSign

/-- What is asked of a name in any case, said of the text as it is written. -/
structure Spelled (name : String) : Prop where
  nonempty : name ≠ ""
  starts : ∀ c ∈ name.toList.head?, Letter c ∨ Digit c
  consists : ∀ c ∈ name.toList, Letter c ∨ Digit c ∨ c = '_'
  names : ∃ c ∈ name.toList, Letter c ∨ c = '_'

theorem smallForm_class {c : Char} (h : LowersToAscii c) :
    (SmallLetter (smallForm c) ↔ Letter c) ∧ (Digit (smallForm c) ↔ Digit c) ∧
      (smallForm c = '_' ↔ c = '_') := by
  rcases h with h | rfl
  · exact forall_ascii (P := fun c ↦ (SmallLetter (smallForm c) ↔ Letter c) ∧
      (Digit (smallForm c) ↔ Digit c) ∧ (smallForm c = '_' ↔ c = '_')) (by decide +kernel) h
  · decide +kernel

theorem lowersToAscii_of_spelled {c : Char} (h : Letter c ∨ Digit c ∨ c = '_') :
    LowersToAscii c := by
  rcases h with (h | ⟨hl, hr⟩ | h) | h | h
  · exact .inl (toNat_of_part (.inl h)).2
  · simp only [Char.le_def, UInt32.le_iff_toNat_le] at hl hr
    exact .inl (Nat.lt_of_le_of_lt hr (by decide))
  · exact .inr h
  · exact .inl (toNat_of_part (.inr (.inl h))).2
  · exact .inl (toNat_of_part (.inr (.inr h))).2

theorem wellFormed_lower_iff_of_ascii {name : String} (h : ∀ c ∈ name.toList, LowersToAscii c) :
    WellFormed (Text.lower name) ↔ Spelled name := by
  have hstarts : (∀ c ∈ name.toList.head?, SmallLetter (smallForm c) ∨ Digit (smallForm c)) ↔
      ∀ c ∈ name.toList.head?, Letter c ∨ Digit c := by
    refine forall₂_congr fun c hc ↦ ?_
    obtain ⟨hletter, hdigit, -⟩ := smallForm_class (h c (List.mem_of_mem_head? hc))
    rw [hletter, hdigit]
  have hconsists : (∀ c ∈ name.toList,
      SmallLetter (smallForm c) ∨ Digit (smallForm c) ∨ smallForm c = '_') ↔
        ∀ c ∈ name.toList, Letter c ∨ Digit c ∨ c = '_' := by
    refine forall₂_congr fun c hc ↦ ?_
    obtain ⟨hletter, hdigit, hmark⟩ := smallForm_class (h c hc)
    rw [hletter, hdigit, hmark]
  have hnames : (∃ c ∈ name.toList, SmallLetter (smallForm c) ∨ smallForm c = '_') ↔
      ∃ c ∈ name.toList, Letter c ∨ c = '_' := by
    refine exists_congr fun c ↦ and_congr_right fun hc ↦ ?_
    obtain ⟨hletter, -, hmark⟩ := smallForm_class (h c hc)
    rw [hletter, hmark]
  rw [wellFormed_iff_of_map (Text.toList_lower_eq_map h), hstarts, hconsists, hnames]
  exact ⟨fun ⟨h₁, h₂, h₃, h₄⟩ ↦ ⟨h₁, h₂, h₃, h₄⟩, fun ⟨h₁, h₂, h₃, h₄⟩ ↦ ⟨h₁, h₂, h₃, h₄⟩⟩

theorem wellFormed_lower_iff {name : String} : WellFormed (Text.lower name) ↔ Spelled name := by
  constructor
  · intro h
    have hascii := Text.lowersToAscii_of_lower fun d hd ↦ toNat_of_part (h.consists d hd)
    exact (wellFormed_lower_iff_of_ascii hascii).1 h
  · intro h
    have hascii := fun c hc ↦ lowersToAscii_of_spelled (h.consists c hc)
    exact (wellFormed_lower_iff_of_ascii hascii).2 h

theorem isValid_iff {name : String} : isValid name = true ↔ Spelled name := by
  rw [isValid, isIdentifier_iff, wellFormed_lower_iff]

theorem isKept_iff_of_spelled {c : Char} (h : Letter c ∨ Digit c ∨ c = '_') :
    isKept c = true ↔ c ≠ kelvinSign := by
  have hkept : isKept c = true ↔ (SmallLetter c ∨ Digit c ∨ c = '_') ∨ CapitalLetter c := by
    simp [isKept, isPart_iff]
  rw [hkept]
  constructor
  · rintro h rfl
    exact absurd h (by decide)
  · intro hne
    rcases h with (h | h | h) | h
    · exact .inl (.inl h)
    · exact .inr h
    · exact absurd h hne
    · exact .inl (.inr h)

theorem sanitize_eq_of_spelled {name : String} (h : Spelled name) :
    (sanitize name).toList = name.toList.map fun c ↦ if c = kelvinSign then '_' else c := by
  rw [toList_sanitize]
  refine List.map_congr_left fun c hc ↦ ?_
  have hkept := isKept_iff_of_spelled (h.consists c hc)
  by_cases hkelvin : c = kelvinSign
  · rw [if_pos hkelvin, if_neg fun hk ↦ hkept.1 hk hkelvin]
  · rw [if_neg hkelvin, if_pos (hkept.2 hkelvin)]

theorem spelled_sanitize_iff {name : String} (h : Spelled name) :
    Spelled (sanitize name) ↔ name.toList.head? ≠ some kelvinSign := by
  have hchars := sanitize_eq_of_spelled h
  constructor
  · intro hs hhead
    have hstart := hs.starts '_' (by simp [hchars, hhead])
    exact absurd hstart (by decide)
  · intro hhead
    constructor
    · rw [ne_eq, ← String.toList_eq_nil_iff, hchars, List.map_eq_nil_iff, String.toList_eq_nil_iff]
      exact h.nonempty
    · rw [hchars, List.head?_map, Option.forall_mem_map]
      intro c hc
      have hne : c ≠ kelvinSign := fun heq ↦ hhead (heq ▸ hc)
      rw [if_neg hne]
      exact h.starts c hc
    · rw [hchars, List.forall_mem_map]
      intro c hc
      by_cases hkelvin : c = kelvinSign
      · exact .inr (.inr (if_pos hkelvin))
      · rw [if_neg hkelvin]
        exact h.consists c hc
    · obtain ⟨c, hc, hname⟩ := h.names
      rw [hchars]
      refine ⟨_, List.mem_map_of_mem hc, ?_⟩
      by_cases hkelvin : c = kelvinSign
      · exact .inr (if_pos hkelvin)
      · rw [if_neg hkelvin]
        exact hname

/-- Sanitizing a valid name puts an underscore for each Kelvin sign, which counts as a letter when
names are tested and not when they are sanitized, and changes nothing else. So it leaves the name
alone exactly if there is none, and makes it invalid exactly if it starts with one. -/
theorem sanitize_of_isValid {name : String} (h : isValid name = true) :
    (sanitize name).toList = (name.toList.map fun c ↦ if c = kelvinSign then '_' else c) ∧
      (sanitize name = name ↔ kelvinSign ∉ name.toList) ∧
        (isValid (sanitize name) = true ↔ name.toList.head? ≠ some kelvinSign) := by
  have hs := isValid_iff.1 h
  have hchars := sanitize_eq_of_spelled hs
  refine ⟨hchars, ?_, ?_⟩
  · have hfixed : (name.toList.map fun c ↦ if c = kelvinSign then '_' else c) = name.toList ↔
        ∀ c ∈ name.toList, (if c = kelvinSign then '_' else c) = c := by
      rw [← List.map_inj_left, List.map_id']
    rw [← String.toList_inj, hchars, hfixed]
    constructor
    · intro hself hmem
      have hmark := hself kelvinSign hmem
      exact absurd hmark (by decide)
    · intro hnone c hc
      have hne : c ≠ kelvinSign := fun heq ↦ hnone (heq ▸ hc)
      exact if_neg hne
  · rw [isValid_iff, spelled_sanitize_iff hs]

theorem sanitize_of_isValid_kelvin :
    isValid "A\u212a9" = true ∧ sanitize "A\u212a9" ≠ "A\u212a9" ∧
      isValid (sanitize "A\u212a9") = true ∧ sanitize "A9" = "A9" := by
  have hkelvin : isValid "A\u212a9" = true := by decide +kernel
  have hplain : isValid "A9" = true := by decide +kernel
  obtain ⟨-, hself, hvalid⟩ := sanitize_of_isValid hkelvin
  obtain ⟨-, hplain, -⟩ := sanitize_of_isValid hplain
  refine ⟨hkelvin, fun heq ↦ hself.1 heq (by decide), hvalid.2 (by decide), hplain.2 (by decide)⟩

/-- The Kelvin sign alone is a valid name, and sanitizing turns it into an underscore, which is
none. -/
theorem sanitize_spoils_kelvinSign :
    isValid "\u212a" = true ∧ sanitize "\u212a" = "_" ∧ isValid "_" = false ∧
      ¬∀ name : String, isValid name = true → sanitize name = name := by
  have hkelvin : isValid "\u212a" = true := by decide +kernel
  refine ⟨hkelvin, by decide, by decide +kernel, fun h ↦ ?_⟩
  exact absurd (h "\u212a" hkelvin) (by decide)

end Identifier

end Registrar
