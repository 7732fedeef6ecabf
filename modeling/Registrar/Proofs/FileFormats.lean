import Registrar.Proofs.Loading
import Registrar.Proofs.PropertyLines

namespace Registrar

namespace PropertyText

open Text

def lineOf (entry : String × String) : List Char := entry.1.toList ++ '=' :: entry.2.toList

/-- A text lists entries, one on each line. The last line need not have an end. -/
inductive Lists : List Char → List (String × String) → Prop
  | nil : Lists [] []
  | last (entry : String × String) : Lists (lineOf entry) [entry]
  | cons (entry : String × String) {lineEnd text : List Char} {rest : List (String × String)} :
      lineEnd ∈ lineEnds → Lists text rest → Lists (lineOf entry ++ lineEnd ++ text) (entry :: rest)

/-- An entry that can be written on a line, as far as the line ends of files are concerned. -/
structure Writable (entry : String × String) : Prop where
  key_ne : entry.1 ≠ ""
  key_trim : trim entry.1 = entry.1
  value_trim : trim entry.2 = entry.2
  no_sign : '=' ∉ entry.1.toList
  no_comment : ∀ c ∈ entry.1.toList.head?, c ≠ '#' ∧ c ≠ '!'
  no_break : ∀ c ∈ lineOf entry, c ≠ '\n' ∧ c ≠ '\r'

instance (entry : String × String) : Decidable (Writable entry) :=
  haveI : Decidable (∀ c ∈ entry.1.toList.head?, c ≠ '#' ∧ c ≠ '!') := Option.decidableForallMem _
  haveI : Decidable (∀ c ∈ lineOf entry, c ≠ '\n' ∧ c ≠ '\r') := List.decidableBAll _ _
  decidable_of_iff
    (entry.1 ≠ "" ∧ trim entry.1 = entry.1 ∧ trim entry.2 = entry.2 ∧ '=' ∉ entry.1.toList ∧
      (∀ c ∈ entry.1.toList.head?, c ≠ '#' ∧ c ≠ '!') ∧ ∀ c ∈ lineOf entry, c ≠ '\n' ∧ c ≠ '\r')
    ⟨fun ⟨hkey, hkt, hvt, hsign, hcomment, hbreak⟩ ↦ ⟨hkey, hkt, hvt, hsign, hcomment, hbreak⟩,
      fun h ↦ ⟨h.key_ne, h.key_trim, h.value_trim, h.no_sign, h.no_comment, h.no_break⟩⟩

section Reading

variable {entry : String × String} {entries : List (String × String)} {text : List Char}

theorem Writable.head?_lineOf (h : Writable entry) (back : List Char) :
    (lineOf entry ++ back).head? = entry.1.toList.head? := by
  have hkey : entry.1.toList ≠ [] := String.toList_eq_nil_iff.not.2 h.key_ne
  rw [lineOf, List.append_assoc, List.head?_append_of_ne_nil _ hkey]

theorem ofList_lineOf (entry : String × String) :
    String.ofList (lineOf entry) = assignment "=" entry := by
  have hchars : (assignment "=" entry).toList = lineOf entry := toList_assignment rfl entry
  rw [← hchars, String.ofList_toList]

theorem Writable.not_skipped (h : Writable entry) : ¬Skipped (assignment "=" entry) := by
  have hhead : (assignment "=" entry).toList.head? = entry.1.toList.head? := by
    rw [← ofList_lineOf, String.toList_ofList, ← h.head?_lineOf [], List.append_nil]
  rintro (hempty | ⟨c, hc, hsign⟩)
  · rw [hempty] at hhead
    exact h.key_ne (String.toList_eq_nil_iff.1 (List.head?_eq_none_iff.1 hhead.symm))
  · rw [hhead] at hc
    exact hsign.elim (h.no_comment c hc).1 (h.no_comment c hc).2

theorem Lists.head?_ne (h : Lists text entries) (hwritable : ∀ entry ∈ entries, Writable entry) :
    text.head? ≠ some '\n' := by
  have hstart (entry : String × String) (back : List Char) (hentry : Writable entry) :
      (lineOf entry ++ back).head? ≠ some '\n' := by
    intro hhead
    exact (hentry.no_break '\n' (by
      rw [hentry.head?_lineOf] at hhead
      exact List.mem_append_left _ (List.mem_of_head? hhead))).1 rfl
  cases h with
  | nil => simp
  | last entry =>
    have hentry := hstart entry [] (hwritable entry List.mem_cons_self)
    rwa [List.append_nil] at hentry
  | cons entry hend hrest =>
    rw [List.append_assoc]
    exact hstart entry _ (hwritable entry List.mem_cons_self)

theorem Lists.linesChars_unifyBreaks (h : Lists text entries)
    (hwritable : ∀ entry ∈ entries, Writable entry)
    (hline : ∀ entry ∈ entries, OnOneLine (lineOf entry)) :
    linesChars (unifyBreaks text) = entries.map lineOf := by
  have hreturn (entry : String × String) (hentry : Writable entry) : '\r' ∉ lineOf entry :=
    fun hmem ↦ (hentry.no_break '\r' hmem).2 rfl
  induction h with
  | nil => rfl
  | last entry =>
    have hbreaks := unifyBreaks_append (hreturn entry (hwritable entry List.mem_cons_self)) []
    rw [unifyBreaks, List.append_nil] at hbreaks
    have hne : lineOf entry ≠ [] := by simp [lineOf]
    rw [hbreaks, linesChars_eq_singleton hne (hline entry List.mem_cons_self)]
    rfl
  | cons entry hend hrest ih =>
    obtain ⟨hentry, hwrest⟩ := List.forall_mem_cons.1 hwritable
    obtain ⟨hone, hlrest⟩ := List.forall_mem_cons.1 hline
    rw [List.append_assoc, unifyBreaks_append (hreturn entry hentry),
      unifyBreaks_lineEnd hend (hrest.head?_ne hwrest), linesChars_append hone,
      ih hwrest hlrest, List.map_cons]

theorem Lists.parse_eq {text : String} {bag : Bag} (h : Lists text.toList bag.entries)
    (hwritable : ∀ entry ∈ bag.entries, Writable entry)
    (hline : ∀ entry ∈ bag.entries, OnOneLine (lineOf entry)) :
    parse (unified text) = .ok bag := by
  have hlines : trimmedLines (unified text) = bag.entries.map (assignment "=") := by
    rw [trimmedLines, lines, unified, String.toList_ofList,
      h.linesChars_unifyBreaks hwritable hline, List.map_map, List.map_map]
    refine List.map_congr_left fun entry hentry ↦ ?_
    rw [Function.comp_apply, Function.comp_apply, ofList_lineOf]
    exact trim_assignment rfl (by decide) (hwritable entry hentry).key_trim
      (hwritable entry hentry).value_trim
  have hremaining : remaining (bag.entries.map (assignment "=")) =
      bag.entries.map (assignment "=") := by
    refine remaining_eq_self (List.forall_mem_map.2 fun entry hentry ↦ ?_)
    exact (hwritable entry hentry).not_skipped
  have hcollects : bag.Collects bag.entries :=
    OrderedMap.collects_iff.2 (OrderedMap.ofList_entries bag)
  refine parse_eq_ok_iff.2 ⟨bag.entries, ?_, hcollects⟩
  rw [hlines, hremaining, List.forall₂_map_left_iff, List.forall₂_same]
  intro entry hentry
  have hentry := hwritable entry hentry
  exact assigns_assignment rfl hentry.no_sign hentry.key_trim hentry.value_trim

theorem onOneLine_of_parse {text : String} {bag : Bag} (h : parse text = .ok bag) :
    ∀ entry ∈ bag.entries, OnOneLine (lineOf entry) := by
  obtain ⟨entries, hentries, hcollects⟩ := parse_eq_ok_iff.1 h
  obtain rfl := OrderedMap.collects_iff.1 hcollects
  intro entry hentry c hc
  -- An entry comes from a line, which is what is left of a line of the text.
  obtain ⟨line, hline, hassigns⟩ := forall₂_mem_right hentries entry
    (OrderedMap.mem_of_mem_ofList hentry)
  obtain ⟨whole, hwhole, rfl⟩ := List.mem_map.1 (List.mem_filter.1 hline).1
  obtain ⟨chars, hchars, rfl⟩ := List.mem_map.1 hwhole
  have hmem : c ∈ (trim (String.ofList chars)).toList := hassigns.mem hc
  rw [toList_trim, String.toList_ofList] at hmem
  exact onOneLine_of_mem hchars c ((trimChars_sublist _).subset hmem)

end Reading

end PropertyText

namespace Configuration

open PropertyText Text

theorem spelling_text (bag : Bag) :
    spelling (bag.entries.map fun entry ↦ (entry.1, .text entry.2)) = ⟨bag⟩ := by
  have hmap : (bag.map Json.Value.text).map jsonText = bag := by
    apply OrderedMap.ext_entries
    simp only [OrderedMap.entries_map, List.map_map]
    exact List.map_id _
  rw [spelling, ← OrderedMap.entries_map, OrderedMap.ofList_entries, hmap]

section Formats

variable [Host] {files files' : Files.Source} {path path' : Files.Path} {bag : Bag}
  {text json : String}

theorem load_object_text (h : Files.Holds files path (encodeUtf8 json))
    (hname : lower path.suffix = ".json")
    (hjson : Json.read (unified json) =
      .ok (.object (bag.entries.map fun entry ↦ (entry.1, .text entry.2)))) :
    (load files path).outcome = .ok ⟨bag⟩ := by
  have hflat : IsFlat (bag.entries.map fun entry ↦ (entry.1, Json.Value.text entry.2)) := by
    apply isFlat_of_forall
    intro member hmember
    obtain ⟨entry, -, rfl⟩ := List.mem_map.1 hmember
    rfl
  rw [load_eq_spelling h hname hjson hflat, spelling_text]

theorem outcome_load_lines (h : Files.Holds files path (encodeUtf8 text))
    (hname : lower path.suffix ≠ ".json") :
    (load files path).outcome =
      (parse (unified text)).mapError .configuration >>= fun properties ↦ .ok ⟨properties⟩ := by
  rw [load_eq_of_decode h (decodeUtf8_eq_ok_iff.2 rfl), propertiesIn, if_neg hname]

theorem onOneLine_of_load {config : Configuration} (h : Files.Holds files path (encodeUtf8 text))
    (hname : lower path.suffix ≠ ".json") (hload : (load files path).outcome = .ok config) :
    ∀ entry ∈ config.properties.entries, OnOneLine (lineOf entry) := by
  rw [outcome_load_lines h hname] at hload
  obtain ⟨properties, hparse, hload⟩ := bind_eq_ok_iff.1 hload
  obtain rfl := Except.ok.inj hload
  exact onOneLine_of_parse (mapError_eq_ok_iff.1 hparse)

/-- The entries of a JSON object are loaded as they are. Lines with the same entries give the same
configuration, in the same order, exactly if no entry holds a line boundary; whatever is loaded from
lines holds none. -/
theorem load_formats_agree_iff (hwritable : ∀ entry ∈ bag.entries, Writable entry)
    (hlines : Files.Holds files path (encodeUtf8 text)) (hname : lower path.suffix ≠ ".json")
    (htext : Lists text.toList bag.entries)
    (hobject : Files.Holds files' path' (encodeUtf8 json)) (hname' : lower path'.suffix = ".json")
    (hjson : Json.read (unified json) =
      .ok (.object (bag.entries.map fun entry ↦ (entry.1, .text entry.2)))) :
    (load files' path').outcome = .ok ⟨bag⟩ ∧
      ((load files path).outcome = (load files' path').outcome ↔
        ∀ entry ∈ bag.entries, OnOneLine (lineOf entry)) ∧
      ∀ config, (load files path).outcome = .ok config →
        ∀ entry ∈ config.properties.entries, OnOneLine (lineOf entry) := by
  have hloaded := load_object_text hobject hname' hjson
  refine ⟨hloaded, ⟨?_, ?_⟩, fun config ↦ onOneLine_of_load hlines hname⟩
  · intro heq
    rw [hloaded] at heq
    exact onOneLine_of_load hlines hname heq
  · intro hline
    rw [hloaded, outcome_load_lines hlines hname, htext.parse_eq hwritable hline]
    rfl

end Formats

def signsBag : Bag := .ofList [("table.regex", "x=(.)#"), ("é", "")]

def signsLines : String := "table.regex=x=(.)#\r\né="

def signsObject : String := "\x7b\"table.regex\": \"x=(.)#\", \"\\u00e9\": \"\"\x7d"

section

attribute [local instance] Host.bare

theorem load_formats_agree_iff_signs :
    (load (fun _ ↦ .ok (encodeUtf8 signsLines)) ⟨"", ["c.properties"]⟩).outcome =
        (load (fun _ ↦ .ok (encodeUtf8 signsObject)) ⟨"", ["c.json"]⟩).outcome ∧
      (load (fun _ ↦ .ok (encodeUtf8 signsObject)) ⟨"", ["c.json"]⟩).outcome = .ok ⟨signsBag⟩ := by
  have hwritable : ∀ entry ∈ signsBag.entries, Writable entry := by decide +kernel
  have hend : ['\r', '\n'] ∈ lineEnds := by decide
  have htext : Lists signsLines.toList signsBag.entries :=
    .cons ("table.regex", "x=(.)#") hend (.last ("é", ""))
  have hjson : Json.read (unified signsObject) =
      .ok (.object (signsBag.entries.map fun entry ↦ (entry.1, .text entry.2))) := by rfl
  have hone : ∀ entry ∈ signsBag.entries, OnOneLine (lineOf entry) := by decide +kernel
  have hname : lower (Files.Path.mk "" ["c.properties"]).suffix ≠ ".json" := by decide +kernel
  obtain ⟨hobject, hagree, -⟩ := load_formats_agree_iff hwritable
    (Files.holds_everywhere (by decide +kernel)) hname htext
    (Files.holds_everywhere (by decide +kernel)) lower_suffix_json hjson
  exact ⟨hagree.2 hone, hobject⟩

end

def separatorBag : Bag := .ofList [("a", "b\u2028c")]

def separatorLines : String := "a=b\u2028c"

def separatorObject : String := "\x7b\"a\": \"b\u2028c\"\x7d"

section

attribute [local instance] Host.bare

theorem load_lineSeparator :
    (∀ entry ∈ separatorBag.entries, Writable entry) ∧
      Lists separatorLines.toList separatorBag.entries ∧
      Json.read (unified separatorObject) =
        .ok (.object (separatorBag.entries.map fun entry ↦ (entry.1, .text entry.2))) ∧
      (load (fun _ ↦ .ok (encodeUtf8 separatorLines)) ⟨"", ["c.properties"]⟩).outcome =
        .error (.configuration (.propertyLine 2 "c")) ∧
      (load (fun _ ↦ .ok (encodeUtf8 separatorObject)) ⟨"", ["c.json"]⟩).outcome =
        .ok ⟨separatorBag⟩ := by
  have hwritable : ∀ entry ∈ separatorBag.entries, Writable entry := by decide +kernel
  have hjson : Json.read (unified separatorObject) =
      .ok (.object (separatorBag.entries.map fun entry ↦ (entry.1, .text entry.2))) := by rfl
  have hparse : parse (unified separatorLines) = .error (.propertyLine 2 "c") := by rfl
  refine ⟨hwritable, .last ("a", "b\u2028c"), hjson, ?_, ?_⟩
  · rw [outcome_load_lines (Files.holds_everywhere (by decide +kernel)) (by decide +kernel),
      hparse]
    rfl
  · exact load_object_text (Files.holds_everywhere (by decide +kernel)) lower_suffix_json hjson

end

end Configuration

end Registrar
