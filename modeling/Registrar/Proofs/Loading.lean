import Registrar.CommandLine.Standard
import Registrar.Proofs.Construction
import Registrar.Proofs.Encoding
import Registrar.Proofs.JsonReading
import Registrar.Proofs.Lines
import Registrar.Proofs.OrderedMaps

namespace Registrar

structure Files.Holds (files : Files.Source) (path : Files.Path) (bytes : List UInt8) : Prop where
  noNul : path.render.toList.contains '\x00' = false
  bytes : files path.render = .ok bytes

theorem Files.holds_everywhere {path : Files.Path} {bytes : List UInt8}
    (h : path.render.toList.contains '\x00' = false) :
    Files.Holds (fun _ ↦ .ok bytes) path bytes :=
  ⟨h, rfl⟩

def Text.unified (text : String) : String := String.ofList (unifyBreaks text.toList)

theorem Text.unified_eq_self {text : String} (h : '\r' ∉ text.toList) : unified text = text := by
  have hbreaks := unifyBreaks_append h []
  rw [unifyBreaks, List.append_nil] at hbreaks
  rw [unified, hbreaks, String.ofList_toList]

namespace Configuration

section Loading

variable {files : Files.Source} {path : Files.Path} {bytes : List UInt8} {fault : Fault}

theorem readText_eq (h : Files.Holds files path bytes) :
    readText files path.render =
      ((Text.decodeUtf8 bytes).map Text.unified).mapError .undecodable := by
  rw [readText, h.noNul, h.bytes, if_neg Bool.false_ne_true]
  dsimp only
  cases Text.decodeUtf8 bytes <;> rfl

def jsonFault (name : String) : Json.Error → Fault
  | .integerTooLong digits => .integerTooLong digits
  | .malformed cause => .configuration (.malformedJson name cause)

def ofJson (name : String) : Json.Value → Except ConfigurationError Bag
  | .object members =>
    if (OrderedMap.ofList members).entries.any (·.2.isContainer) then .error (.notFlat name)
    else .ok ((OrderedMap.ofList members).map jsonText)
  | _ => .error (.notAnObject name)

theorem ofJson_object {members : List (String × Json.Value)}
    (h : ∀ entry ∈ (OrderedMap.ofList members).entries, entry.2.isContainer = false)
    (name : String) :
    ofJson name (.object members) = .ok ((OrderedMap.ofList members).map jsonText) := by
  have hany : (OrderedMap.ofList members).entries.any (·.2.isContainer) = false := by
    rw [List.any_eq_false]
    intro entry hentry
    rw [h entry hentry]
    exact Bool.false_ne_true
  rw [ofJson, hany, if_neg Bool.false_ne_true]

variable [Host]

def propertiesIn (path : Files.Path) (text : String) : Except Fault Bag :=
  if Text.lower path.suffix = ".json" then parseJson path.render text
  else (PropertyText.parse text).mapError .configuration

theorem outcome_load (files : Files.Source) (path : Files.Path) :
    (load files path).outcome =
      readText files path.render >>= fun text ↦
        propertiesIn path text >>= fun properties ↦ .ok ⟨properties⟩ := by
  unfold load propertiesIn
  rw [Trace.outcome_bind]
  refine bind_congr fun text ↦ ?_
  split <;> exact Trace.outcome_bind _ _

theorem parseJson_eq (name text : String) :
    parseJson name text =
      (Json.read text).mapError (jsonFault name) >>= fun value ↦
        (ofJson name value).mapError .configuration := by
  unfold parseJson
  rcases Json.read text with e | value
  · cases e <;> rfl
  · cases value with
    | object members =>
      change (if _ then _ else _) = _
      rw [mapError_ok, ok_bind, ofJson]
      split <;> rfl
    | _ => rfl

theorem parseJson_eq_error_iff {name text : String} (hf : fault.isConfiguration = false) :
    parseJson name text = .error fault ↔
      ∃ count, Json.read text = .error (.integerTooLong count) ∧
        fault = .integerTooLong count := by
  rw [parseJson_eq, bind_eq_error_iff, mapError_eq_error_iff]
  constructor
  · rintro (⟨e, he, rfl⟩ | ⟨value, -, hvalue⟩)
    · cases e with
      | malformed => cases hf
      | integerTooLong count => exact ⟨count, he, rfl⟩
    · exact absurd hvalue (mapError_configuration_ne hf)
  · rintro ⟨count, hcount, rfl⟩
    exact .inl ⟨_, hcount, rfl⟩

/-- How loading stops at the bytes of a file although the configuration in it is not at fault. -/
inductive Unloadable (path : Files.Path) (bytes : List UInt8) : Fault → Prop
  | undecodable {e : Text.Utf8Error} (h : Text.decodeUtf8 bytes = .error e) :
      Unloadable path bytes (.undecodable e)
  | integerTooLong {text : String} {count : Nat} (hname : Text.lower path.suffix = ".json")
      (hbytes : bytes = Text.encodeUtf8 text)
      (hread : Json.read (Text.unified text) = .error (.integerTooLong count)) :
      Unloadable path bytes (.integerTooLong count)

theorem propertiesIn_eq_error_iff {text : String} (hf : fault.isConfiguration = false) :
    propertiesIn path text = .error fault ↔
      Text.lower path.suffix = ".json" ∧ ∃ count,
        Json.read text = .error (.integerTooLong count) ∧ fault = .integerTooLong count := by
  unfold propertiesIn
  split
  · rename_i hname
    rw [parseJson_eq_error_iff hf, and_iff_right hname]
  · rename_i hname
    exact iff_of_false (mapError_configuration_ne hf) fun h ↦ hname h.1

theorem load_eq_of_decode {text : String} (h : Files.Holds files path bytes)
    (htext : Text.decodeUtf8 bytes = .ok text) :
    (load files path).outcome =
      propertiesIn path (Text.unified text) >>= fun properties ↦ .ok ⟨properties⟩ := by
  simp only [outcome_load, readText_eq h, htext, Except.map, mapError_ok, ok_bind]

theorem load_eq_of_refused {e : Text.Utf8Error} (h : Files.Holds files path bytes)
    (he : Text.decodeUtf8 bytes = .error e) :
    (load files path).outcome = .error (.undecodable e) := by
  simp only [outcome_load, readText_eq h, he, Except.map, mapError_error, error_bind]

theorem load_eq_error_iff (h : Files.Holds files path bytes) (hf : fault.isConfiguration = false) :
    (load files path).outcome = .error fault ↔ Unloadable path bytes fault := by
  constructor
  · intro hload
    -- Bytes that are a text leave the fault to the reader of the text.
    cases hdecoded : Text.decodeUtf8 bytes with
    | error e =>
      rw [load_eq_of_refused h hdecoded] at hload
      cases hload
      exact .undecodable hdecoded
    | ok text =>
      rw [load_eq_of_decode h hdecoded, bind_eq_error_iff, propertiesIn_eq_error_iff hf] at hload
      rcases hload with ⟨hname, count, hread, rfl⟩ | ⟨properties, -, hok⟩
      · exact .integerTooLong hname (Text.decodeUtf8_eq_ok_iff.1 hdecoded) hread
      · cases hok
  · rintro (hdecoded | ⟨hname, hbytes, hread⟩)
    · exact load_eq_of_refused h hdecoded
    · rw [load_eq_of_decode h (Text.decodeUtf8_eq_ok_iff.2 hbytes),
        (propertiesIn_eq_error_iff hf).2 ⟨hname, _, hread, rfl⟩]
      rfl

theorem Unloadable.isRegistration (h : Unloadable path bytes fault) :
    fault.isRegistration = false := by
  cases h <;> rfl

theorem Unloadable.isConfiguration (h : Unloadable path bytes fault) :
    fault.isConfiguration = false := by
  cases h <;> rfl

theorem crash_run [CommandLine.Libraries] {request : CommandLine.PlanRequest}
    {surroundings : CommandLine.Surroundings}
    (hfile : request.configFile = some path)
    (hload : (load surroundings.files path).outcome = .error fault) :
    (request.run surroundings).crash =
      if fault.isRegistration then none else some (.fault fault) := by
  have hconfig : (request.configuration surroundings.files).outcome = .error fault := by
    rw [CommandLine.PlanRequest.configuration, hfile, Trace.outcome_bind]
    dsimp only
    rw [hload]
    rfl
  rw [CommandLine.PlanRequest.run, CommandLine.Outcome.ofTrace, hconfig]
  dsimp only
  rw [CommandLine.Outcome.ofFault]
  split <;> rfl

theorem unloadable_of_digits {rest : List Char} (hname : Text.lower path.suffix = ".json")
    (hdigits : ∀ c ∈ rest, Json.isDigit c = true)
    (hlimit : Text.integerDigitLimit ≤ rest.length) :
    Unloadable path (Text.encodeUtf8 (String.ofList ('1' :: rest)))
      (.integerTooLong (rest.length + 1)) := by
  have hunified : Text.unified (String.ofList ('1' :: rest)) = String.ofList ('1' :: rest) := by
    refine Text.unified_eq_self fun hmem ↦ ?_
    rw [String.toList_ofList] at hmem
    rcases List.mem_cons.1 hmem with h | h
    · cases h
    · cases hdigits _ h
  refine .integerTooLong hname rfl ?_
  rw [hunified]
  exact Json.read_digits hdigits hlimit

/-- A file is loaded or its configuration is at fault, unless its bytes encode no text or it is read
as JSON and holds an integer of too many digits. Such a file crashes a plan. -/
theorem load_fault_iff [CommandLine.Libraries] (h : Files.Holds files path bytes)
    (fault : Fault) :
    ((load files path).outcome = .error fault ∧ fault.isConfiguration = false ↔
        Unloadable path bytes fault) ∧
      ((∃ e, Unloadable path bytes (.undecodable e)) ↔ ∀ text, bytes ≠ Text.encodeUtf8 text) ∧
      (∀ count, Unloadable path bytes (.integerTooLong count) →
        Text.lower path.suffix = ".json" ∧ ∃ text, bytes = Text.encodeUtf8 text ∧
          Json.HoldsDigits count (Text.unified text).toList) ∧
      (Unloadable path bytes fault →
        ∀ (request : CommandLine.PlanRequest) (surroundings : CommandLine.Surroundings),
          surroundings.files = files → request.configFile = some path →
            (request.run surroundings).crash = some (.fault fault)) := by
  refine ⟨⟨?_, ?_⟩, ?_, ?_, ?_⟩
  · rintro ⟨hload, hf⟩
    exact (load_eq_error_iff h hf).1 hload
  · intro hfault
    have hf := hfault.isConfiguration
    exact ⟨(load_eq_error_iff h hf).2 hfault, hf⟩
  · rw [← Text.exists_decodeUtf8_eq_error_iff]
    refine exists_congr fun e ↦ ⟨?_, .undecodable⟩
    rintro ⟨he⟩
    exact he
  · rintro count ⟨⟩
    rename_i text hname hbytes hread
    exact ⟨hname, text, hbytes, Json.holdsDigits_of_read hread⟩
  · rintro hfault request surroundings rfl hfile
    rw [crash_run hfile ((load_eq_error_iff h hfault.isConfiguration).2 hfault),
      hfault.isRegistration, if_neg Bool.false_ne_true]

end Loading

theorem lower_suffix_json : Text.lower (⟨"", ["c.json"]⟩ : Files.Path).suffix = ".json" := by
  decide +kernel

section

attribute [local instance] Host.bare CommandLine.Libraries.standard

theorem load_fault_iff_hugeInteger :
    let text := String.ofList ('1' :: List.replicate 4300 '1')
    Files.Holds (fun _ ↦ .ok (Text.encodeUtf8 text)) ⟨"", ["c.json"]⟩ (Text.encodeUtf8 text) ∧
      (load (fun _ ↦ .ok (Text.encodeUtf8 text)) ⟨"", ["c.json"]⟩).outcome =
        .error (.integerTooLong 4301) := by
  intro text
  have hholds : Files.Holds (fun _ ↦ .ok (Text.encodeUtf8 text)) ⟨"", ["c.json"]⟩
      (Text.encodeUtf8 text) := Files.holds_everywhere (by decide +kernel)
  have hdigits : ∀ c ∈ List.replicate 4300 '1', Json.isDigit c = true := by
    intro c hc
    rw [List.eq_of_mem_replicate hc]
    rfl
  have hlimit : Text.integerDigitLimit ≤ (List.replicate 4300 '1').length := by
    rw [List.length_replicate]
    decide
  have hunloadable := unloadable_of_digits lower_suffix_json hdigits hlimit
  rw [List.length_replicate] at hunloadable
  exact ⟨hholds, ((load_fault_iff hholds _).1.2 hunloadable).1⟩

theorem load_strayByte :
    ¬((∃ config, (load (fun _ ↦ .ok [0xFF]) ⟨"", ["c.properties"]⟩).outcome = .ok config) ∨
      ∃ e, (load (fun _ ↦ .ok [0xFF]) ⟨"", ["c.properties"]⟩).outcome =
        .error (.configuration e)) := by
  have hholds : Files.Holds (fun _ ↦ .ok [0xFF]) ⟨"", ["c.properties"]⟩ [0xFF] :=
    Files.holds_everywhere (by decide +kernel)
  have hdecoded : Text.decodeUtf8 [0xFF] = .error ⟨.invalidStart, 0, 1, 0xFF⟩ := by
    rw [Text.decodeUtf8, Text.decodeFrom]
    rfl
  rw [load_eq_of_refused hholds hdecoded]
  rintro (⟨config, h⟩ | ⟨e, h⟩) <;> cases h

end

section Objects

/-- The setting that a member of a flat object is; a null leaves its key unset. -/
def setting? : Json.Value → Option Scalar
  | .null => none
  | .boolean value => some (.text (if value then "true" else "false"))
  | .integer value => some (.integer value)
  | .number value => some (.float value)
  | .text value => some (.text value)
  | .array _ | .object _ => none

def ofMembers (members : List (String × Json.Value)) : Configuration :=
  ofSettings ((OrderedMap.ofList members).map setting?)

theorem render_setting? {value : Json.Value} (hflat : value.isContainer = false)
    (hnull : value ≠ .null) : (setting? value).map Scalar.render = some (jsonText value) := by
  cases value with
  | null => exact absurd rfl hnull
  | array => cases hflat
  | object => cases hflat
  | _ => rfl

theorem get?_ofMembers (members : List (String × Json.Value)) (key : String) :
    (ofMembers members).get? key =
      (members.reverse.lookup key).bind fun value ↦ (setting? value).map Scalar.render := by
  rw [get?, ofMembers, ofSettings, OrderedMap.get?_filterMap, OrderedMap.get?_map,
    OrderedMap.get?_ofList, Option.bind_map]
  rfl

/-- The configuration that holds the texts of all members of an object. -/
def spelling (members : List (String × Json.Value)) : Configuration :=
  ⟨(OrderedMap.ofList members).map jsonText⟩

theorem get?_spelling (members : List (String × Json.Value)) (key : String) :
    (spelling members).get? key = (members.reverse.lookup key).map jsonText := by
  rw [get?, spelling, OrderedMap.get?_map, OrderedMap.get?_ofList]

/-- The members whose values count hold no arrays and no objects. -/
def IsFlat (members : List (String × Json.Value)) : Prop :=
  ∀ key value, members.reverse.lookup key = some value → value.isContainer = false

variable {files : Files.Source} {path : Files.Path} {text : String}
  {members : List (String × Json.Value)}

theorem isFlat_of_forall (h : ∀ member ∈ members, member.2.isContainer = false) :
    IsFlat members := by
  intro key value hvalue
  have hmem : (key, value) ∈ members.reverse := OrderedMap.mem_of_lookup hvalue
  exact h (key, value) (List.mem_reverse.1 hmem)

theorem lookup_of_mem_ofList {entry : String × Json.Value}
    (h : entry ∈ (OrderedMap.ofList members).entries) :
    members.reverse.lookup entry.1 = some entry.2 := by
  rw [← OrderedMap.get?_ofList, OrderedMap.get?_of_mem h]

theorem spelling_eq_ofMembers_iff (hflat : IsFlat members) :
    spelling members = ofMembers members ↔
      ∀ key, members.reverse.lookup key ≠ some .null := by
  constructor
  · intro heq key hnull
    have hget : (spelling members).get? key = (ofMembers members).get? key := by rw [heq]
    rw [get?_spelling, get?_ofMembers, hnull] at hget
    cases hget
  · intro hnull
    -- Without nulls both maps keep every entry, so they are compared value by value.
    have hmap : (OrderedMap.ofList members).map jsonText =
        ((OrderedMap.ofList members).map setting?).filterMap fun value ↦
          value.map Scalar.render := by
      rw [OrderedMap.filterMap_map]
      refine OrderedMap.filterMap_congr fun entry hentry ↦ ?_
      have hlookup := lookup_of_mem_ofList hentry
      have hne : entry.2 ≠ .null := fun heq ↦ hnull entry.1 (heq ▸ hlookup)
      exact (render_setting? (hflat entry.1 entry.2 hlookup) hne).symm
    exact congrArg Configuration.mk hmap

theorem load_eq_spelling [Host] (h : Files.Holds files path (Text.encodeUtf8 text))
    (hname : Text.lower path.suffix = ".json")
    (hread : Json.read (Text.unified text) = .ok (.object members)) (hflat : IsFlat members) :
    (load files path).outcome = .ok (spelling members) := by
  have hentries : ∀ entry ∈ (OrderedMap.ofList members).entries, entry.2.isContainer = false :=
    fun entry hentry ↦ hflat entry.1 entry.2 (lookup_of_mem_ofList hentry)
  rw [load_eq_of_decode h (Text.decodeUtf8_eq_ok_iff.2 rfl), propertiesIn, if_pos hname,
    parseJson_eq, hread, mapError_ok, ok_bind, ofJson_object hentries, mapError_ok, ok_bind]
  rfl

theorem rawName_of_literal {config : Configuration} {keys : NameKeys} {name : String}
    (h : config.get? keys.name = some name) :
    Naming.source? config keys = none ∧
      ∀ pattern place, Naming.rawName config keys pattern place = .ok (Text.lower name) := by
  have hcontains : config.contains keys.name = true := congrArg Option.isSome h
  refine ⟨if_pos hcontains, fun pattern place ↦ ?_⟩
  unfold Naming.rawName
  rw [h]
  rfl

theorem source?_of_unset {config : Configuration} {keys : NameKeys}
    (h : config.get? keys.name = none) : Naming.source? config keys = config.get? keys.regex := by
  have hcontains : config.contains keys.name = false := congrArg Option.isSome h
  rw [Naming.source?, hcontains, if_neg Bool.false_ne_true]

/-- A flat object in JSON is loaded with the text of every value, a null having the text `None`. So
it is the configuration in which a null unsets its key exactly if no value is null, and a null for
a name is a literal name that masks the pattern. -/
theorem load_object [Host] (h : Files.Holds files path (Text.encodeUtf8 text))
    (hname : Text.lower path.suffix = ".json")
    (hread : Json.read (Text.unified text) = .ok (.object members)) (hflat : IsFlat members) :
    ∃ config, (load files path).outcome = .ok config ∧
      config.properties.keys = (members.map Prod.fst).eraseDups ∧
      (∀ key scalar, (members.reverse.lookup key).bind setting? = some scalar →
        config.get? key = some scalar.render) ∧
      (∀ key, members.reverse.lookup key = some .null → config.get? key = some "None") ∧
      (config = ofMembers members ↔ ∀ key, members.reverse.lookup key ≠ some .null) ∧
      ∀ keys : NameKeys, members.reverse.lookup keys.name = some .null →
        Naming.source? config keys = none ∧
          (∀ pattern place, Naming.rawName config keys pattern place = .ok "none") ∧
            Naming.source? (ofMembers members) keys = (ofMembers members).get? keys.regex := by
  refine ⟨spelling members, load_eq_spelling h hname hread hflat, ?_, ?_, ?_,
    spelling_eq_ofMembers_iff hflat, ?_⟩
  · rw [spelling, OrderedMap.keys_map, OrderedMap.keys_ofList]
  · intro key scalar hscalar
    obtain ⟨value, hvalue, hsetting⟩ := Option.bind_eq_some_iff.1 hscalar
    have hnull : value ≠ .null := by
      rintro rfl
      cases hsetting
    rw [get?_spelling, hvalue, Option.map_some,
      ← render_setting? (hflat key value hvalue) hnull, hsetting, Option.map_some]
  · intro key hnull
    rw [get?_spelling, hnull]
    rfl
  · intro keys hnull
    have hliteral : (spelling members).get? keys.name = some "None" := by
      rw [get?_spelling, hnull]
      rfl
    have hunset : (ofMembers members).get? keys.name = none := by
      rw [get?_ofMembers, hnull]
      rfl
    have hlower : Text.lower "None" = "none" := by decide +kernel
    obtain ⟨hmasked, hraw⟩ := rawName_of_literal hliteral
    exact ⟨hmasked, hlower ▸ hraw, source?_of_unset hunset⟩

def mixedObject : String :=
  "\x7b\"table.name\": \"t\", \"n\": 1, \"table.name\": null,\r\n\"b\": true, \"n\": -5\x7d"

def ofObject? {α : Type} (view : List (String × Json.Value) → α) : Json.Value → Option α
  | .object members => some (view members)
  | _ => none

theorem ofObject?_eq_some {α : Type} {view : List (String × Json.Value) → α}
    {value : Json.Value} {a : α} (h : ofObject? view value = some a) :
    ∃ members, value = .object members ∧ view members = a := by
  cases value with
  | object members => exact ⟨members, rfl, Option.some.inj h⟩
  | _ => cases h

section

attribute [local instance] Host.bare

theorem load_object_mixed :
    ∃ config, (load (fun _ ↦ .ok (Text.encodeUtf8 mixedObject)) ⟨"", ["c.json"]⟩).outcome =
        .ok config ∧
      config.properties.keys = ["table.name", "n", "b"] ∧ config.get? "n" = some "-5" ∧
        config.get? "b" = some "true" := by
  have hholds : Files.Holds (fun _ ↦ .ok (Text.encodeUtf8 mixedObject)) ⟨"", ["c.json"]⟩
      (Text.encodeUtf8 mixedObject) := Files.holds_everywhere (by decide +kernel)
  -- Values have no decidable equality, so the members are told by what is asked of them.
  have hrun : (Json.read (Text.unified mixedObject)).toOption.bind (ofObject? fun members ↦
      (members.map Prod.fst, members.all (!·.2.isContainer),
        (members.reverse.lookup "n").bind setting?, (members.reverse.lookup "b").bind setting?)) =
      some (["table.name", "n", "table.name", "b", "n"], true, some (.integer (-5)),
        some (.text "true")) := by
    decide +kernel
  obtain ⟨value, hread, hobject⟩ := Option.bind_eq_some_iff.1 hrun
  obtain ⟨members, rfl, hview⟩ := ofObject?_eq_some hobject
  simp only [Prod.mk.injEq] at hview
  obtain ⟨hkeys, hflat, hn, hb⟩ := hview
  have hscalars : ∀ member ∈ members, member.2.isContainer = false := fun member hmember ↦
    Bool.not_eq_true' _ ▸ List.all_eq_true.1 hflat member hmember
  obtain ⟨config, hload, hnames, hvalues, -⟩ := load_object hholds lower_suffix_json
    (toOption_eq_some_iff.1 hread) (isFlat_of_forall hscalars)
  refine ⟨config, hload, ?_, ?_, ?_⟩
  · rw [hnames, hkeys]
    decide
  · rw [hvalues "n" _ hn]
    decide
  · exact hvalues "b" _ hb

end

def nullObject : String := "\x7b\"database.name\": null\x7d"

section

attribute [local instance] Host.bare

theorem load_nullObject :
    ∃ config, (load (fun _ ↦ .ok (Text.encodeUtf8 nullObject)) ⟨"", ["c.json"]⟩).outcome =
        .ok config ∧ config ≠ ofMembers [("database.name", .null)] := by
  have hholds : Files.Holds (fun _ ↦ .ok (Text.encodeUtf8 nullObject)) ⟨"", ["c.json"]⟩
      (Text.encodeUtf8 nullObject) := Files.holds_everywhere (by decide +kernel)
  have hrun : (propertiesIn ⟨"", ["c.json"]⟩ (Text.unified nullObject)).toOption =
      some (.ofList [("database.name", "None")]) := by
    decide +kernel
  refine ⟨⟨.ofList [("database.name", "None")]⟩, ?_, by decide +kernel⟩
  rw [load_eq_of_decode hholds (Text.decodeUtf8_eq_ok_iff.2 rfl), toOption_eq_some_iff.1 hrun]
  rfl

end

end Objects

end Configuration

end Registrar
