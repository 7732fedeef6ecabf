import Registrar.Proofs.Layers
import Registrar.Proofs.PropertyLines

namespace Registrar.PropertyText

open Text

section Items

variable {item key value : String} {entry : String × String}

theorem override_eq_ok_iff :
    override item = .ok (key, value) ↔ Gives item key value ∧ key ≠ "" := by
  rw [override, gives_iff]
  cases cut? '=' item with
  | none => simp
  | some sides =>
    obtain ⟨name, text⟩ := sides
    by_cases hname : trim name = ""
    · simp only [hname, if_true, reduceCtorEq, false_iff]
      rintro ⟨⟨other, hother, rfl⟩, hkey⟩
      obtain ⟨rfl, -⟩ := Prod.mk.inj (Option.some.inj hother)
      exact hkey hname
    · simp only [hname, if_false, Except.ok.injEq, Prod.mk.injEq, Option.some.injEq]
      constructor
      · rintro ⟨rfl, rfl⟩
        exact ⟨⟨name, ⟨rfl, rfl⟩, rfl⟩, hname⟩
      · rintro ⟨⟨other, ⟨rfl, rfl⟩, rfl⟩, -⟩
        exact ⟨rfl, rfl⟩

theorem assigns_iff_gives :
    Assigns '=' item entry ↔ ∃ value, Gives item entry.1 value ∧ trim value = entry.2 := by
  simp only [assigns_iff_cut, gives_iff]
  constructor
  · rintro ⟨left, right, hcut, rfl⟩
    exact ⟨right, ⟨left, hcut, rfl⟩, rfl⟩
  · rintro ⟨value, ⟨left, hcut, hkey⟩, hvalue⟩
    exact ⟨left, value, hcut, Prod.ext hkey.symm hvalue.symm⟩

theorem assigns_of_override (h : override item = .ok entry) :
    Assigns '=' item (entry.1, trim entry.2) :=
  assigns_iff_gives.2 ⟨entry.2, (override_eq_ok_iff.1 h).1, rfl⟩

theorem exists_override_of_assigns (h : Assigns '=' item entry) (hkey : entry.1 ≠ "") :
    ∃ given, override item = .ok given := by
  obtain ⟨value, hgives, -⟩ := assigns_iff_gives.1 h
  exact ⟨(entry.1, value), override_eq_ok_iff.2 ⟨hgives, hkey⟩⟩

end Items

section Lists

variable {items : List String} {bag : Bag}

theorem parse_join_eq_ok_iff (hline : ∀ item ∈ items, OnOneLine item.toList)
    (hcomment : ∀ item ∈ items, ¬IsComment (trim item)) (hblank : ∀ item ∈ items, trim item ≠ "") :
    parse (join "\n" items) = .ok bag ↔
      ∃ entries, List.Forall₂ (Assigns '=') items entries ∧ bag.Collects entries := by
  have hlines : trimmedLines (join "\n" items) = items.map trim := by
    rw [trimmedLines, lines_join hline fun hempty ↦ hblank "" hempty rfl]
  have hremaining : remaining (items.map trim) = items.map trim := by
    refine remaining_eq_self (List.forall_mem_map.2 fun item hitem ↦ ?_)
    exact not_or.2 ⟨hblank item hitem, hcomment item hitem⟩
  simp only [parse_eq_ok_iff, hlines, hremaining, List.forall₂_map_left_iff,
    assigns_trim_iff (show Character.isBlank '=' = false by decide)]

theorem parseOverrides_eq_ok_iff_forall₂ : parseOverrides items = .ok bag ↔
    ∃ entries, List.Forall₂ (fun item entry ↦ override item = .ok entry) items entries ∧
      .ofList entries = bag := by
  simp only [parseOverrides_eq_ok_iff, mapM_eq_ok_iff]

theorem trim_ne_empty_of_parseOverrides (h : parseOverrides items = .ok bag) :
    ∀ item ∈ items, trim item ≠ "" := by
  obtain ⟨entries, hentries, -⟩ := parseOverrides_eq_ok_iff_forall₂.1 h
  intro item hitem
  obtain ⟨entry, -, hentry⟩ := forall₂_mem_left hentries item hitem
  exact (assigns_of_override hentry).trim_ne_empty (by decide)

theorem notMem_keys_of_parseOverrides (h : parseOverrides items = .ok bag) : "" ∉ bag.keys := by
  obtain ⟨entries, hentries, rfl⟩ := parseOverrides_eq_ok_iff_forall₂.1 h
  intro hkey
  rw [OrderedMap.keys_ofList, List.mem_eraseDups] at hkey
  obtain ⟨entry, hentry, hempty⟩ := List.mem_map.1 hkey
  obtain ⟨item, -, hitem⟩ := forall₂_mem_right hentries entry hentry
  exact (override_eq_ok_iff.1 hitem).2 hempty

theorem parse_join_of_parseOverrides (hline : ∀ item ∈ items, OnOneLine item.toList)
    (hcomment : ∀ item ∈ items, ¬IsComment (trim item)) (h : parseOverrides items = .ok bag) :
    parse (join "\n" items) = .ok (bag.map trim) := by
  rw [parse_join_eq_ok_iff hline hcomment (trim_ne_empty_of_parseOverrides h)]
  obtain ⟨entries, hentries, rfl⟩ := parseOverrides_eq_ok_iff_forall₂.1 h
  -- Values are trimmed one by one, and keys stay as they are: it does not matter which comes first.
  refine ⟨entries.map fun entry ↦ (entry.1, trim entry.2), ?_, ?_⟩
  · rw [List.forall₂_map_right_iff]
    exact hentries.imp fun _ _ hentry ↦ assigns_of_override hentry
  · rw [OrderedMap.collects_iff, OrderedMap.map_ofList]

theorem exists_parseOverrides_of_parse_join {read : Bag}
    (hline : ∀ item ∈ items, OnOneLine item.toList)
    (hcomment : ∀ item ∈ items, ¬IsComment (trim item)) (hblank : ∀ item ∈ items, trim item ≠ "")
    (h : parse (join "\n" items) = .ok read) (hkeys : "" ∉ read.keys) :
    ∃ bag, parseOverrides items = .ok bag := by
  obtain ⟨entries, hentries, hcollects⟩ := (parse_join_eq_ok_iff hline hcomment hblank).1 h
  have hgiven : ∀ item ∈ items, ∃ given, override item = .ok given := by
    -- An empty key of a line would be among the keys that are read.
    intro item hitem
    obtain ⟨entry, hmem, hentry⟩ := forall₂_mem_left hentries item hitem
    refine exists_override_of_assigns hentry fun hempty ↦ hkeys ?_
    rw [hcollects.keys_eq, List.mem_eraseDups, ← hempty]
    exact List.mem_map_of_mem hmem
  obtain ⟨given, hforall⟩ := exists_forall₂_iff.2 hgiven
  exact ⟨.ofList given, parseOverrides_eq_ok_iff_forall₂.2 ⟨given, hforall, rfl⟩⟩

/-- A list of overrides and the lines of a text say the same, but for the blanks around values. A
blank line and a line with an empty key are no overrides. -/
theorem overrides_as_lines (hline : ∀ item ∈ items, OnOneLine item.toList)
    (hcomment : ∀ item ∈ items, ¬IsComment (trim item)) :
    (∀ bag, parseOverrides items = .ok bag →
        ∃ read, parse (join "\n" items) = .ok read ∧
          read.entries = bag.entries.map fun entry ↦ (entry.1, trim entry.2)) ∧
      ((∃ bag, parseOverrides items = .ok bag) ↔
        (∃ read, parse (join "\n" items) = .ok read ∧ "" ∉ read.keys) ∧
          ∀ item ∈ items, trim item ≠ "") := by
  refine ⟨fun bag h ↦ ⟨bag.map trim, parse_join_of_parseOverrides hline hcomment h,
    OrderedMap.entries_map trim bag⟩, ?_⟩
  constructor
  · rintro ⟨bag, h⟩
    refine ⟨⟨bag.map trim, parse_join_of_parseOverrides hline hcomment h, ?_⟩,
      trim_ne_empty_of_parseOverrides h⟩
    rw [OrderedMap.keys_map]
    exact notMem_keys_of_parseOverrides h
  · rintro ⟨⟨read, h, hkeys⟩, hblank⟩
    exact exists_parseOverrides_of_parse_join hline hcomment hblank h hkeys

theorem overrides_as_lines_blanks :
    let items := [" a = b ", "c==", "a=\u00a0"]
    ((∀ item ∈ items, OnOneLine item.toList) ∧ ∀ item ∈ items, ¬IsComment (trim item)) ∧
      ∃ read, parse (join "\n" items) = .ok read ∧ read.entries = [("a", ""), ("c", "=")] := by
  have hline : ∀ item ∈ [" a = b ", "c==", "a=\u00a0"], OnOneLine item.toList := by decide
  have hcomment : ∀ item ∈ [" a = b ", "c==", "a=\u00a0"], ¬IsComment (trim item) := by decide
  obtain ⟨read, hread, hentries⟩ := (overrides_as_lines hline hcomment).1
    (.ofList [("a", "\u00a0"), ("c", "=")]) (by decide +kernel)
  exact ⟨⟨hline, hcomment⟩, read, hread, hentries⟩

end Lists

end Registrar.PropertyText
