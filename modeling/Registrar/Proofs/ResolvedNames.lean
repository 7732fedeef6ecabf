import Registrar.Proofs.Resolution

namespace Registrar

namespace Identifier

open Registrar.Character

/-- What is asked of a text so that it is an identifier once its other characters are replaced. -/
structure Sanitizable (text : String) : Prop where
  nonempty : text ≠ ""
  starts : ∀ c ∈ text.toList.head?, SmallLetter c ∨ Digit c
  names : ∃ c ∈ text.toList, ¬Digit c

instance (text : String) : Decidable (Sanitizable text) :=
  haveI : Decidable (∀ c ∈ text.toList.head?, SmallLetter c ∨ Digit c) :=
    Option.decidableForallMem _
  haveI : Decidable (∃ c ∈ text.toList, ¬Digit c) := List.decidableBEx _ _
  decidable_of_iff (text ≠ "" ∧ (∀ c ∈ text.toList.head?, SmallLetter c ∨ Digit c) ∧
    ∃ c ∈ text.toList, ¬Digit c) ⟨fun h ↦ ⟨h.1, h.2.1, h.2.2⟩, fun h ↦ ⟨h.1, h.2, h.3⟩⟩

def replacedChar (c : Char) : Char := if SmallLetter c ∨ Digit c ∨ c = '_' then c else '_'

def replaced (text : String) : String := String.ofList (text.toList.map replacedChar)

theorem toList_replaced (text : String) :
    (replaced text).toList = text.toList.map replacedChar := by
  rw [replaced, String.toList_ofList]

theorem length_replaced (text : String) : (replaced text).length = text.length := by
  simp only [← String.length_toList, toList_replaced, List.length_map]

theorem lead_replacedChar_iff {c : Char} :
    SmallLetter (replacedChar c) ∨ Digit (replacedChar c) ↔ SmallLetter c ∨ Digit c := by
  unfold replacedChar
  split
  · rfl
  · rename_i hc
    refine iff_of_false (by decide) fun h ↦ hc (part_of_lead h)

theorem part_replacedChar (c : Char) :
    SmallLetter (replacedChar c) ∨ Digit (replacedChar c) ∨ replacedChar c = '_' := by
  unfold replacedChar
  split
  · assumption
  · exact .inr (.inr rfl)

theorem name_replacedChar_iff {c : Char} :
    SmallLetter (replacedChar c) ∨ replacedChar c = '_' ↔ ¬Digit c := by
  unfold replacedChar
  split
  · rename_i hc
    rw [← isDigit_eq_false_iff hc, ← isDigit_iff, Bool.not_eq_true]
  · rename_i hc
    exact iff_of_true (.inr rfl) fun h ↦ hc (.inr (.inl h))

theorem wellFormed_replaced_iff {text : String} : WellFormed
    (replaced text) ↔ Sanitizable text := by
  rw [wellFormed_iff_of_map (toList_replaced text)]
  simp only [lead_replacedChar_iff, name_replacedChar_iff, part_replacedChar, implies_true,
    true_and]
  exact ⟨fun ⟨h₁, h₂, h₃⟩ ↦ ⟨h₁, h₂, h₃⟩, fun ⟨h₁, h₂, h₃⟩ ↦ ⟨h₁, h₂, h₃⟩⟩

theorem toLower_ne_self {c : Char} (hl : 'A' ≤ c) (hr : c ≤ 'Z') : c.toLower ≠ c :=
  forall_ascii (P := fun c ↦ 'A' ≤ c → c ≤ 'Z' → c.toLower ≠ c) (by decide)
    (Nat.lt_of_le_of_lt hr (by decide)) hl hr

theorem sanitize_lower (text : String) :
    sanitize (Text.lower text) = replaced (Text.lower text) := by
  rw [← String.toList_inj, toList_sanitize, toList_replaced]
  refine List.map_congr_left fun c hc ↦ ?_
  have hcapital : ¬('A' ≤ c ∧ c ≤ 'Z') := by
    rintro ⟨hl, hr⟩
    have hself := Text.lowerAlone_of_mem_lower hc
    rw [lowerAlone_ascii (Nat.lt_of_le_of_lt hr (by decide)), List.singleton_inj] at hself
    exact toLower_ne_self hl hr hself
  have hkept : isKept c = true ↔ SmallLetter c ∨ Digit c ∨ c = '_' := by
    simp [isKept, isPart_iff, hcapital]
  simp only [hkept, replacedChar]

theorem replaced_eq_self {text : String} (h : WellFormed text) : replaced text = text := by
  have hself : text.toList.map replacedChar = text.toList.map id :=
    List.map_congr_left fun c hc ↦ if_pos (h.consists c hc)
  rw [← String.toList_inj, toList_replaced, hself, List.map_id]

end Identifier

namespace Naming

open Identifier

variable {config : Configuration} {keys : NameKeys} {pattern : Option Pattern}
variable {path : StoragePath} {text : String}

/-- The text from which the name for a path is made: a literal of the configuration, or else what
the first group of a pattern captures. -/
inductive Given (config : Configuration) (keys : NameKeys) (pattern : Option Pattern)
    (path : StoragePath) : String → Prop
  | literal {text : String} (h : config.get? keys.name = some text) :
      Given config keys pattern path text
  | captured {p : Pattern} {location text : String} {found : Pattern.Match}
      (hunset : config.get? keys.name = none) (hpattern : pattern = some p)
      (hgroup : p.groupCount ≠ 0) (hpath : path.location = .ok location)
      (hfound : p.search location = some found) (htext : found.group? 1 = some text) :
      Given config keys pattern path text

theorem rawName_of_given (h : Given config keys pattern path text) :
    rawName config keys pattern path = .ok (Text.lower text) := by
  unfold rawName
  cases h with
  | literal h =>
    rw [h]
    rfl
  | captured hunset hpattern hgroup hpath hfound htext =>
    simp only [hunset, hpattern, hpath, ok_bind, captured, hfound, hgroup, if_false, htext]
    rfl

theorem tested_eq {name : String} (h : Text.lower name = name) :
    tested name = if WellFormed name then .ok name else .error (.invalidIdentifier name) := by
  have hvalid : isValid name = true ↔ WellFormed name := by
    rw [isValid, h, isIdentifier_iff]
  simp only [tested, hvalid]

theorem settled_lower (text : String) :
    settled true (Text.lower text) = replaced (Text.lower text) := by
  unfold settled
  by_cases h : isValid (Text.lower text) = true
  · rw [isValid_lower, isIdentifier_iff] at h
    simp [replaced_eq_self h, isValid_lower, isIdentifier_iff.2 h]
  · simp [h, sanitize_lower]

/-- A text is resolved to its lower case if that is an identifier. Where names are sanitized, the
other characters of the lower case are replaced first, which is enough exactly if the first
character is in order and not all of them are digits. The fault names what was put to the test. -/
theorem resolve_of_given (h : Given config keys pattern path text) :
    (resolve config true keys pattern path).outcome =
        (if Sanitizable (Text.lower text) then .ok (replaced (Text.lower text))
          else .error (.invalidIdentifier (replaced (Text.lower text)))) ∧
      (replaced (Text.lower text)).length = (Text.lower text).length ∧
      (resolve config false keys pattern path).outcome =
        if WellFormed (Text.lower text) then .ok (Text.lower text)
          else .error (.invalidIdentifier (Text.lower text)) := by
  have hreplaced : Text.lower (replaced (Text.lower text)) = replaced (Text.lower text) := by
    rw [← sanitize_lower, lower_sanitize_lower]
  have hstrict : settled false (Text.lower text) = Text.lower text := rfl
  rw [outcome_resolve, outcome_resolve, rawName_of_given h, ok_bind, ok_bind, settled_lower,
    hstrict, tested_eq hreplaced, tested_eq (Text.lower_lower text)]
  simp only [wellFormed_replaced_iff, length_replaced, and_self]

section

attribute [local instance] Host.bare

theorem resolve_of_given_dotted :
    ∃ p, Pattern.compile "/([^/]+)" = .ok p ∧
      Given .empty ⟨Key.tableName, Key.tableRegex⟩ (some p) (.text "/İX-7/y") "İX-7" ∧
      (resolve .empty true ⟨Key.tableName, Key.tableRegex⟩ (some p) (.text "/İX-7/y")).outcome =
        .ok "i_x_7" ∧
      (resolve .empty false ⟨Key.tableName, Key.tableRegex⟩ (some p) (.text "/İX-7/y")).outcome =
        .error (.invalidIdentifier "i\u0307x-7") := by
  have hlower : Text.lower "İX-7" = "i\u0307x-7" := by decide +kernel
  have hrun : (do
      let p ← (Pattern.compile "/([^/]+)").toOption
      let found ← p.search "/İX-7/y"
      let text ← found.group? 1
      return (p.groupCount, text)) = some (1, "İX-7") := by
    decide +kernel
  simp only [Option.bind_eq_bind, Option.bind_eq_some_iff, toOption_eq_some_iff] at hrun
  obtain ⟨p, hcompile, found, hfound, text, htext, hrun⟩ := hrun
  obtain ⟨hcount, rfl⟩ := Prod.mk.inj (Option.some.inj hrun)
  have hgiven : Given .empty ⟨Key.tableName, Key.tableRegex⟩ (some p) (.text "/İX-7/y") "İX-7" :=
    .captured rfl rfl (by omega) rfl hfound htext
  obtain ⟨hlenient, -, hstrict⟩ := resolve_of_given hgiven
  have hsanitizable : Sanitizable "i\u0307x-7" := by decide
  have hreplaced : replaced "i\u0307x-7" = "i_x_7" := by decide
  have hinvalid : ¬WellFormed "i\u0307x-7" := by decide
  rw [hlower, if_pos hsanitizable, hreplaced] at hlenient
  rw [hlower, if_neg hinvalid] at hstrict
  exact ⟨p, hcompile, hgiven, hlenient, hstrict⟩

end

end Naming

end Registrar
