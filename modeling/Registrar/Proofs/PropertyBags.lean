import Registrar.Configuration.Basic
import Registrar.Proofs.OrderedMaps
import Registrar.Proofs.Outcomes
import Registrar.Proofs.Separators

namespace Registrar

namespace Bag

open Text

def written (bag : Bag) : String := join "," (bag.entries.map (assignment ":"))

/-- No sign of the notation stands where it would be taken for one, and no blank where it would be
dropped. -/
structure Spellable (entry : String × String) : Prop where
  key_comma : ',' ∉ entry.1.toList
  key_colon : ':' ∉ entry.1.toList
  value_comma : ',' ∉ entry.2.toList
  key_trim : trim entry.1 = entry.1
  value_trim : trim entry.2 = entry.2

def Expressible (bag : Bag) : Prop := ∀ entry ∈ bag.entries, Spellable entry

section Entries

variable {entry : String × String} {item : String}

theorem Spellable.comma_notMem (h : Spellable entry) : ',' ∉ (assignment ":" entry).toList := by
  rw [mem_assignment_iff rfl (by decide), not_or]
  exact ⟨h.key_comma, h.value_comma⟩

theorem Spellable.assigns (h : Spellable entry) : Assigns ':' (assignment ":" entry) entry :=
  assigns_assignment rfl h.key_colon h.key_trim h.value_trim

theorem spellable_of_assigns (h : Assigns ':' item entry) (hitem : ',' ∉ item.toList) :
    Spellable entry where
  key_comma hkey := hitem (h.mem (List.mem_append_left _ hkey))
  key_colon := h.key_notMem
  value_comma hvalue := hitem (h.mem (List.mem_append_right _ (List.mem_cons_of_mem _ hvalue)))
  key_trim := h.trim_key
  value_trim := h.trim_value

end Entries

end Bag

namespace Configuration

open Text Bag

def bagItems (text : String) : List String := (pieces ',' text).filter (trim · ≠ "")

variable {key item text : String} {entry : String × String} {bag : Bag}

theorem bagEntry_eq_ok_iff : bagEntry key item = .ok entry ↔ Assigns ':' item entry := by
  rw [bagEntry, assigns_iff_cut]
  cases cut? ':' item with
  | none => simp
  | some sides => simp [Prod.ext_iff, eq_comm]

theorem bagOfText_eq_ok_iff : bagOfText key text = .ok bag ↔
    ∃ entries, List.Forall₂ (Assigns ':') (bagItems text) entries ∧ .ofList entries = bag := by
  have hitems : ((pieces ',' text).map trim).filter (· ≠ "") = (bagItems text).map trim := by
    simp only [bagItems, List.filter_map, Function.comp_def]
  rw [bagOfText, hitems]
  simp only [bind_eq_ok_iff, pure_eq_ok_iff, mapM_eq_ok_iff, bagEntry_eq_ok_iff,
    List.forall₂_map_left_iff, assigns_trim_iff (show Character.isBlank ':' = false by decide)]

theorem bagItems_written (h : bag.Expressible) :
    bagItems bag.written = bag.entries.map (assignment ":") := by
  rcases eq_or_ne bag.entries [] with hnil | hne
  · rw [written, hnil]
    decide +kernel
  · have hcomma : ∀ item ∈ bag.entries.map (assignment ":"), ',' ∉ item.toList :=
      List.forall_mem_map.2 fun entry hentry ↦ (h entry hentry).comma_notMem
    rw [bagItems, written, pieces_join rfl (List.map_eq_nil_iff.not.2 hne) hcomma,
      List.filter_eq_self, List.forall_mem_map]
    intro entry hentry
    simpa using (h entry hentry).assigns.trim_ne_empty (by decide)

theorem bagOfText_written (key : String) (h : bag.Expressible) :
    bagOfText key bag.written = .ok bag := by
  refine bagOfText_eq_ok_iff.2 ⟨bag.entries, ?_, OrderedMap.ofList_entries bag⟩
  rw [bagItems_written h, List.forall₂_map_left_iff, List.forall₂_same]
  exact fun entry hentry ↦ (h entry hentry).assigns

theorem expressible_of_bagOfText (h : bagOfText key text = .ok bag) : bag.Expressible := by
  obtain ⟨entries, hentries, rfl⟩ := bagOfText_eq_ok_iff.1 h
  intro entry hentry
  obtain ⟨item, hitem, hassigns⟩ := forall₂_mem_right hentries entry
    (OrderedMap.mem_of_mem_ofList hentry)
  exact spellable_of_assigns hassigns (notMem_of_mem_pieces (List.mem_filter.1 hitem).1)

theorem exists_bagOfText_iff : (∃ bag, bagOfText key text = .ok bag) ↔
    ∀ piece ∈ pieces ',' text, trim piece ≠ "" → ':' ∈ piece.toList := by
  simp only [bagOfText_eq_ok_iff]
  rw [exists_comm]
  simp only [exists_and_left, exists_eq', and_true, exists_forall₂_iff, exists_assigns_iff]
  simp only [bagItems, List.mem_filter, decide_eq_true_eq, and_imp]

/-- A bag that is written under a key is the bag that is read there exactly if it can be expressed.
Whatever is read can be expressed, and nothing is read exactly if some piece that is not blank has
no colon. -/
theorem getBag_roundTrip (config : Configuration) (key : String) :
    (∀ bag : Bag, config.get? key = some bag.written →
        (config.getBag key = .ok bag ↔ bag.Expressible)) ∧
      (∀ bag : Bag, config.getBag key = .ok bag → bag.Expressible ∧
        ∀ (other : Configuration) (name : String), other.get? name = some bag.written →
          other.getBag name = .ok bag) ∧
      ((∃ e, config.getBag key = .error e) ↔
        ∃ piece ∈ pieces ',' (config.getD key ""), trim piece ≠ "" ∧ ':' ∉ piece.toList) := by
  have hwritten {config : Configuration} {key : String} {bag : Bag}
      (h : config.get? key = some bag.written) :
      config.getBag key = bagOfText key bag.written := by
    rw [getBag, getD, h, Option.getD_some]
  refine ⟨fun bag h ↦ ⟨fun hread ↦ expressible_of_bagOfText hread, fun hbag ↦ ?_⟩,
    fun bag hread ↦ ?_, ?_⟩
  · rw [hwritten h, bagOfText_written key hbag]
  · have hbag : bag.Expressible := expressible_of_bagOfText hread
    refine ⟨hbag, fun other name h ↦ ?_⟩
    rw [hwritten h, bagOfText_written name hbag]
  · rw [exists_error_iff, getBag, exists_bagOfText_iff]
    push Not
    exact Iff.rfl

theorem getBag_roundTrip_corners :
    let bag : Bag := .ofList [("a", "c:d"), ("", "")]
    bag.Expressible ∧ bag.written = "a:c:d,:" ∧
      (⟨.ofList [("tags", " a : b ,, a:c:d ,:")]⟩ : Configuration).getBag "tags" = .ok bag ∧
      (⟨.ofList [("tags", "a:c:d,:")]⟩ : Configuration).getBag "tags" = .ok bag := by
  have hread : (⟨.ofList [("tags", " a : b ,, a:c:d ,:")]⟩ : Configuration).getBag "tags" =
      .ok (.ofList [("a", "c:d"), ("", "")]) := by decide +kernel
  have hwritten : Bag.written (.ofList [("a", "c:d"), ("", "")]) = "a:c:d,:" := by decide +kernel
  obtain ⟨hbag, hother⟩ := (getBag_roundTrip _ _).2.1 _ hread
  have hheld : (⟨.ofList [("tags", "a:c:d,:")]⟩ : Configuration).get? "tags" = some "a:c:d,:" := rfl
  exact ⟨hbag, hwritten, hread, hother _ _ (hheld.trans (congrArg some hwritten.symm))⟩

end Configuration

end Registrar
