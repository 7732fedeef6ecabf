import Registrar.Configuration.Basic
import Registrar.Proofs.Lines
import Registrar.Proofs.OrderedMaps
import Registrar.Proofs.Outcomes
import Registrar.Proofs.Separators

namespace Registrar.PropertyText

open Text

def trimmedLines (text : String) : List String := (lines text).map trim

def IsComment (line : String) : Prop := ∃ c ∈ line.toList.head?, c = '#' ∨ c = '!'

instance : DecidablePred IsComment := fun _ ↦ Option.decidableExistsMem _

def Skipped (line : String) : Prop := line = "" ∨ IsComment line

instance : DecidablePred Skipped := fun line ↦
  inferInstanceAs (Decidable (line = "" ∨ IsComment line))

/-- A trimmed line that should hold a property and holds none. -/
def Offends (line : String) : Prop := ¬Skipped line ∧ '=' ∉ line.toList

section Lines

variable {number index : Nat} {line found : String} {lines : List String}
  {entry : String × String} {entries : List (String × String)} {e : ConfigurationError}

theorem isIgnored_iff : isIgnored line = true ↔ Skipped line := by
  rw [isIgnored, Skipped, IsComment, ← String.toList_eq_nil_iff]
  cases line.toList <;> simp

def remaining (lines : List String) : List String := lines.filter (¬Skipped ·)

theorem remaining_eq_self (h : ∀ line ∈ lines, ¬Skipped line) : remaining lines = lines :=
  List.filter_eq_self.2 fun line hmem ↦ decide_eq_true (h line hmem)

theorem property_eq_ok_iff : property number line = .ok entry ↔ Assigns '=' line entry := by
  rw [property, assigns_iff_cut]
  cases cut? '=' line with
  | none => simp
  | some sides => simp [Prod.ext_iff, eq_comm]

theorem property_eq_error_iff :
    property number line = .error e ↔ '=' ∉ line.toList ∧ e = .propertyLine number line := by
  rw [property, ← cut?_eq_none_iff]
  cases cut? '=' line <;> simp [eq_comm]

theorem properties_cons_of_skipped (h : Skipped (trim line)) :
    properties number (line :: lines) = properties (number + 1) lines := by
  rw [properties, isIgnored_iff.2 h, if_pos rfl]

theorem properties_cons_of_not_skipped (h : ¬Skipped (trim line)) :
    properties number (line :: lines) = do
      let entry ← property number (trim line)
      let entries ← properties (number + 1) lines
      return entry :: entries := by
  rw [← isIgnored_iff, Bool.not_eq_true] at h
  rw [properties, h, if_neg Bool.false_ne_true]

theorem properties_eq_ok_iff :
    properties number lines = .ok entries ↔
      List.Forall₂ (Assigns '=') (remaining (lines.map trim)) entries := by
  induction lines generalizing number entries with
  | nil =>
    rw [properties, remaining, List.map_nil, List.filter_nil, List.forall₂_nil_left_iff]
    exact ⟨fun h ↦ (Except.ok.inj h).symm, fun h ↦ congrArg Except.ok h.symm⟩
  | cons line rest ih =>
    rw [List.map_cons, remaining]
    by_cases hskip : Skipped (trim line)
    · rw [properties_cons_of_skipped hskip, List.filter_cons_of_neg (by simpa using hskip)]
      exact ih
    · rw [properties_cons_of_not_skipped hskip, List.filter_cons_of_pos (by simpa using hskip)]
      simp only [bind_eq_ok_iff, pure_eq_ok_iff, property_eq_ok_iff, ih,
        List.forall₂_cons_left_iff]
      constructor
      · rintro ⟨entry, hentry, more, hmore, rfl⟩
        exact ⟨entry, more, hentry, hmore, rfl⟩
      · rintro ⟨entry, more, hentry, hmore, rfl⟩
        exact ⟨entry, hentry, more, hmore, rfl⟩

/-- The first line that offends, lines being counted from 0. -/
structure FirstOffence (lines : List String) (index : Nat) (line : String) : Prop where
  line_eq : lines[index]? = some line
  offends : Offends line
  first : ∀ earlier ∈ lines.take index, ¬Offends earlier

theorem firstOffence_cons_zero :
    FirstOffence (line :: lines) 0 found ↔ line = found ∧ Offends line := by
  constructor
  · rintro ⟨hline, hoffends, -⟩
    obtain rfl : line = found := by simpa using hline
    exact ⟨rfl, hoffends⟩
  · rintro ⟨rfl, hoffends⟩
    exact ⟨rfl, hoffends, by simp⟩

theorem firstOffence_cons_succ :
    FirstOffence (line :: lines) (index + 1) found ↔
      ¬Offends line ∧ FirstOffence lines index found := by
  constructor
  · rintro ⟨hline, hoffends, hfirst⟩
    rw [List.take_succ_cons, List.forall_mem_cons] at hfirst
    exact ⟨hfirst.1, by simpa using hline, hoffends, hfirst.2⟩
  · rintro ⟨hline, h⟩
    refine ⟨by simpa using h.line_eq, h.offends, ?_⟩
    rw [List.take_succ_cons, List.forall_mem_cons]
    exact ⟨hline, h.first⟩

theorem properties_cons_of_offends (h : Offends (trim line)) :
    properties number (line :: lines) = .error (.propertyLine number (trim line)) := by
  have hproperty : property number (trim line) = .error (.propertyLine number (trim line)) :=
    property_eq_error_iff.2 ⟨h.2, rfl⟩
  rw [properties_cons_of_not_skipped h.1, hproperty]
  rfl

theorem properties_cons_eq_error_iff (h : ¬Offends (trim line)) :
    properties number (line :: lines) = .error e ↔ properties (number + 1) lines = .error e := by
  by_cases hskip : Skipped (trim line)
  · rw [properties_cons_of_skipped hskip]
  · have hsign : '=' ∈ (trim line).toList := by
      by_contra habsent
      exact h ⟨hskip, habsent⟩
    obtain ⟨entry, hentry⟩ := exists_assigns_iff.2 hsign
    rw [properties_cons_of_not_skipped hskip, property_eq_ok_iff.2 hentry, ok_bind,
      bind_eq_error_iff]
    exact or_iff_left fun ⟨_, _, h⟩ ↦ nomatch h

theorem properties_eq_error_iff :
    properties number lines = .error e ↔
      ∃ index line, FirstOffence (lines.map trim) index line ∧
        e = .propertyLine (number + index) line := by
  induction lines generalizing number with
  | nil =>
    refine iff_of_false nofun ?_
    rintro ⟨index, line, ⟨hline, -⟩, -⟩
    simp at hline
  | cons line rest ih =>
    rw [List.map_cons]
    by_cases hoffends : Offends (trim line)
    · rw [properties_cons_of_offends hoffends]
      constructor
      · intro h
        exact ⟨0, trim line, firstOffence_cons_zero.2 ⟨rfl, hoffends⟩, (Except.error.inj h).symm⟩
      · rintro ⟨index, found, hfound, rfl⟩
        cases index with
        | zero => rw [(firstOffence_cons_zero.1 hfound).1, Nat.add_zero]
        | succ index => exact absurd hoffends (firstOffence_cons_succ.1 hfound).1
    · rw [properties_cons_eq_error_iff hoffends, ih]
      constructor
      · rintro ⟨index, found, hfound, rfl⟩
        refine ⟨index + 1, found, firstOffence_cons_succ.2 ⟨hoffends, hfound⟩, ?_⟩
        rw [Nat.add_right_comm, Nat.add_assoc]
      · rintro ⟨index, found, hfound, rfl⟩
        cases index with
        | zero => exact absurd (firstOffence_cons_zero.1 hfound).2 hoffends
        | succ index =>
          refine ⟨index, found, (firstOffence_cons_succ.1 hfound).2, ?_⟩
          rw [Nat.add_right_comm, Nat.add_assoc]

end Lines

section Text

variable {text : String} {bag : Bag} {e : ConfigurationError}

theorem parse_eq_ok_iff :
    parse text = .ok bag ↔
      ∃ entries, List.Forall₂ (Assigns '=') (remaining (trimmedLines text)) entries ∧
        bag.Collects entries := by
  simp only [parse, map_eq_ok_iff, properties_eq_ok_iff, OrderedMap.collects_iff, trimmedLines]

theorem parse_eq_error_iff :
    parse text = .error e ↔
      ∃ index line, FirstOffence (trimmedLines text) index line ∧
        e = .propertyLine (index + 1) line := by
  simp only [parse, map_eq_error_iff, properties_eq_error_iff, trimmedLines, Nat.add_comm 1]

theorem exists_parse_iff :
    (∃ bag, parse text = .ok bag) ↔
      ∀ line ∈ trimmedLines text, Skipped line ∨ '=' ∈ line.toList := by
  simp only [parse_eq_ok_iff, OrderedMap.collects_iff]
  rw [exists_comm]
  simp only [exists_and_left, exists_eq', and_true, exists_forall₂_iff, exists_assigns_iff]
  simp only [remaining, List.mem_filter, decide_eq_true_eq, and_imp, or_iff_not_imp_left]

/-- A text is read exactly if every line of it is blank, a comment or a property; what is read are
the properties, the last one with a key counting. Otherwise the first line that is none of these is
reported, with its number among all lines. -/
theorem parse_follows_grammar (text : String) :
    ((∃ bag, parse text = .ok bag) ↔
        ∀ line ∈ trimmedLines text, Skipped line ∨ '=' ∈ line.toList) ∧
      (∀ bag, parse text = .ok bag ↔
        ∃ entries, List.Forall₂ (Assigns '=') (remaining (trimmedLines text)) entries ∧
          bag.Collects entries) ∧
      ∀ e, parse text = .error e ↔
        ∃ index line, FirstOffence (trimmedLines text) index line ∧
          e = .propertyLine (index + 1) line ∧
            e.message = s!"Line {index + 1}: expected key=value, got '{line}'" := by
  refine ⟨exists_parse_iff, fun bag ↦ parse_eq_ok_iff, fun e ↦ ?_⟩
  rw [parse_eq_error_iff]
  constructor
  · rintro ⟨index, line, hfirst, rfl⟩
    exact ⟨index, line, hfirst, rfl, rfl⟩
  · rintro ⟨index, line, hfirst, he, -⟩
    exact ⟨index, line, hfirst, he⟩

example : parse "# a

 b = c=d
b=
 e " = .error (.propertyLine 5 "e") := by rfl

end Text

end Registrar.PropertyText
