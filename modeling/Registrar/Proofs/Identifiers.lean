import Mathlib.Data.Option.Basic
import Registrar.Naming
import Registrar.Proofs.LowerCase

namespace Registrar.Identifier

open Registrar.Character

abbrev SmallLetter (c : Char) : Prop := 'a' ≤ c ∧ c ≤ 'z'

abbrev Digit (c : Char) : Prop := '0' ≤ c ∧ c ≤ '9'

/-- What is asked of an identifier, said of the text as it is written. -/
structure WellFormed (text : String) : Prop where
  nonempty : text ≠ ""
  starts : ∀ c ∈ text.toList.head?, SmallLetter c ∨ Digit c
  consists : ∀ c ∈ text.toList, SmallLetter c ∨ Digit c ∨ c = '_'
  names : ∃ c ∈ text.toList, SmallLetter c ∨ c = '_'

theorem isDigit_iff {c : Char} : isDigit c = true ↔ Digit c := by
  simp [isDigit]

theorem isLead_iff {c : Char} : isLead c = true ↔ SmallLetter c ∨ Digit c := by
  simp [isLead, isDigit]

theorem isPart_iff {c : Char} : isPart c = true ↔ SmallLetter c ∨ Digit c ∨ c = '_' := by
  simp [isPart, isLead_iff, or_assoc]

theorem not_digit_of_name {c : Char} (h : SmallLetter c ∨ c = '_') : ¬ Digit c := by
  simp only [SmallLetter, Digit, Char.le_def, UInt32.le_iff_toNat_le] at h ⊢
  rintro ⟨hl, hr⟩
  change 48 ≤ c.val.toNat at hl
  change c.val.toNat ≤ 57 at hr
  rcases h with ⟨h, -⟩ | rfl
  · change 97 ≤ c.val.toNat at h
    omega
  · exact absurd hr (by decide)

theorem part_of_lead {c : Char} (h : SmallLetter c ∨ Digit c) :
    SmallLetter c ∨ Digit c ∨ c = '_' :=
  h.imp_right .inl

theorem part_of_name {c : Char} (h : SmallLetter c ∨ c = '_') :
    SmallLetter c ∨ Digit c ∨ c = '_' :=
  h.imp_right .inr

theorem toNat_of_part {c : Char} (h : SmallLetter c ∨ Digit c ∨ c = '_') :
    0 < c.toNat ∧ c.toNat < 128 := by
  rcases h with ⟨hl, hr⟩ | ⟨hl, hr⟩ | rfl
  · simp only [Char.le_def, UInt32.le_iff_toNat_le] at hl hr
    exact ⟨Nat.lt_of_lt_of_le (by decide) hl, Nat.lt_of_le_of_lt hr (by decide)⟩
  · simp only [Char.le_def, UInt32.le_iff_toNat_le] at hl hr
    exact ⟨Nat.lt_of_lt_of_le (by decide) hl, Nat.lt_of_le_of_lt hr (by decide)⟩
  · decide

theorem lowerAlone_of_part {c : Char} (h : SmallLetter c ∨ Digit c ∨ c = '_') :
    lowerAlone c = [c] := by
  have hlower : c.toLower = c :=
    forall_ascii (P := fun c ↦ SmallLetter c ∨ Digit c ∨ c = '_' → c.toLower = c) (by decide)
      (toNat_of_part h).2 h
  rw [lowerAlone_ascii (toNat_of_part h).2, hlower]

theorem isDigit_eq_false_iff {c : Char} (h : SmallLetter c ∨ Digit c ∨ c = '_') :
    isDigit c = false ↔ SmallLetter c ∨ c = '_' := by
  rw [← Bool.not_eq_true, isDigit_iff]
  constructor
  · intro hn
    rcases h with h | h | h
    · exact .inl h
    · exact absurd h hn
    · exact .inr h
  · exact not_digit_of_name

theorem isIdentifierChars_iff {chars : List Char} :
    isIdentifierChars chars = true ↔
      chars ≠ [] ∧ (∀ c ∈ chars.head?, SmallLetter c ∨ Digit c) ∧
        (∀ c ∈ chars, SmallLetter c ∨ Digit c ∨ c = '_') ∧
          ∃ c ∈ chars, SmallLetter c ∨ c = '_' := by
  cases chars with
  | nil => simp [isIdentifierChars]
  | cons c rest =>
    simp only [isIdentifierChars, Bool.and_eq_true, List.all_eq_true, List.any_eq_true,
      Bool.not_eq_true', isLead_iff, isPart_iff, ne_eq, reduceCtorEq, not_false_eq_true, true_and,
      List.head?_cons, Option.mem_some_iff, forall_eq', List.mem_cons, forall_eq_or_imp]
    constructor
    · rintro ⟨⟨hc, hrest⟩, d, hd, hn⟩
      have hpart : SmallLetter d ∨ Digit d ∨ d = '_' := by
        rcases hd with rfl | hd
        · exact part_of_lead hc
        · exact hrest d hd
      exact ⟨hc, ⟨part_of_lead hc, hrest⟩, d, hd, (isDigit_eq_false_iff hpart).1 hn⟩
    · rintro ⟨hc, ⟨-, hrest⟩, d, hd, hn⟩
      exact ⟨⟨hc, hrest⟩, d, hd, (isDigit_eq_false_iff (part_of_name hn)).2 hn⟩

theorem isIdentifier_iff {text : String} : isIdentifier text = true ↔ WellFormed text := by
  rw [isIdentifier, isIdentifierChars_iff, ne_eq, String.toList_eq_nil_iff]
  exact ⟨fun ⟨h₁, h₂, h₃, h₄⟩ ↦ ⟨h₁, h₂, h₃, h₄⟩, fun ⟨h₁, h₂, h₃, h₄⟩ ↦ ⟨h₁, h₂, h₃, h₄⟩⟩

instance (text : String) : Decidable (WellFormed text) := decidable_of_iff _ isIdentifier_iff

theorem wellFormed_iff_of_map {text source : String} {f : Char → Char}
    (h : text.toList = source.toList.map f) :
    WellFormed text ↔
      source ≠ "" ∧ (∀ c ∈ source.toList.head?, SmallLetter (f c) ∨ Digit (f c)) ∧
        (∀ c ∈ source.toList, SmallLetter (f c) ∨ Digit (f c) ∨ f c = '_') ∧
          ∃ c ∈ source.toList, SmallLetter (f c) ∨ f c = '_' := by
  rw [← isIdentifier_iff, isIdentifier, isIdentifierChars_iff, h, List.head?_map,
    Option.forall_mem_map, List.forall_mem_map, ne_eq, List.map_eq_nil_iff,
    String.toList_eq_nil_iff]
  simp only [List.mem_map, exists_exists_and_eq_and]

theorem WellFormed.lowerAlone_eq {text : String} (h : WellFormed text) :
    ∀ c ∈ text.toList, lowerAlone c = [c] :=
  fun c hc ↦ lowerAlone_of_part (h.consists c hc)

theorem WellFormed.lower_eq_self {text : String} (h : WellFormed text) : Text.lower text = text :=
  Text.lower_eq_self h.lowerAlone_eq

theorem isValid_lower (name : String) :
    isValid (Text.lower name) = isIdentifier (Text.lower name) := by
  rw [isValid, Text.lower_lower]

theorem toList_sanitize (name : String) :
    (sanitize name).toList = name.toList.map fun c ↦ if isKept c then c else '_' := by
  rw [sanitize, String.toList_ofList]

/-- Sanitizing brings no capital letters into a text in lower case. -/
theorem lower_sanitize_lower (name : String) :
    Text.lower (sanitize (Text.lower name)) = sanitize (Text.lower name) := by
  refine Text.lower_eq_self fun c hc ↦ ?_
  rw [toList_sanitize] at hc
  obtain ⟨d, hd, rfl⟩ := List.mem_map.1 hc
  split
  · exact Text.lowerAlone_of_mem_lower hd
  · exact lowerAlone_ascii (by decide)

theorem isValid_sanitize_lower (name : String) :
    isValid (sanitize (Text.lower name)) = isIdentifier (sanitize (Text.lower name)) := by
  rw [isValid, lower_sanitize_lower]

theorem sanitize_eq_self {name : String} (h : WellFormed name) : sanitize name = name := by
  rw [sanitize, List.map_congr_left (g := id), List.map_id, String.ofList_toList]
  intro c hc
  have hpart : isPart c = true := isPart_iff.2 (h.consists c hc)
  simp [isKept, hpart]

end Registrar.Identifier
