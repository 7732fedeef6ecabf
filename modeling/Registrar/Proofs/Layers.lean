import Registrar.CommandLine.Program
import Registrar.Proofs.OrderedMaps
import Registrar.Proofs.Outcomes
import Registrar.Proofs.Trimming

namespace Registrar

namespace Configuration

theorem get?_toSettings (config : Configuration) (key : String) :
    config.toSettings.get? key = (config.get? key).map fun text ↦ some (.text text) := by
  rw [toSettings, OrderedMap.get?_map]
  rfl

theorem get?_withOverrides (config : Configuration) (overrides : Settings) (key : String) :
    (config.withOverrides overrides).get? key =
      match overrides.get? key with
      | some setting => setting.map Scalar.render
      | none => config.get? key := by
  rw [withOverrides, ofSettings, get?, OrderedMap.get?_filterMap,
    OrderedMap.get?_insertAll_entries, get?_toSettings]
  cases overrides.get? key with
  | some setting => rfl
  | none => cases config.get? key <;> rfl

theorem get?_withTexts (config overrides : Configuration) (key : String) :
    (config.withOverrides overrides.toSettings).get? key =
      (overrides.get? key).or (config.get? key) := by
  rw [get?_withOverrides, get?_toSettings]
  cases overrides.get? key <;> rfl

def withPolicy (config : Configuration) (name : String) : Configuration :=
  config.withOverrides (.ofList [(Key.policy, some (.text name))])

theorem get?_withPolicy (config : Configuration) (name key : String) :
    (config.withPolicy name).get? key =
      if key = Key.policy then some name else config.get? key := by
  rw [withPolicy, get?_withOverrides, OrderedMap.get?_ofList, List.reverse_singleton,
    OrderedMap.lookup_cons_eq]
  by_cases hkey : key = Key.policy
  · rw [if_pos hkey, if_pos hkey]
    rfl
  · rw [if_neg hkey, if_neg hkey]
    rfl

end Configuration

namespace PropertyText

variable {item key value : String} {items : List String} {entries : List (String × String)}

/-- An override says what the value of a key is: the text behind its first sign of equality. -/
def Gives (item key value : String) : Prop :=
  ∃ name : String, item.toList = name.toList ++ '=' :: value.toList ∧ '=' ∉ name.toList ∧
    Text.trim name = key

theorem gives_iff : Gives item key value ↔
    ∃ name, Text.cut? '=' item = some (name, value) ∧ Text.trim name = key := by
  simp only [Gives, Text.cut?_eq_some_iff, and_assoc]

theorem gives_of_override (h : override item = .ok (key, value)) (key' value' : String) :
    Gives item key' value' ↔ key' = key ∧ value' = value := by
  rw [gives_iff]
  unfold override at h
  split at h
  · cases h
  · rename_i name text hcut
    split at h
    · cases h
    · obtain ⟨rfl, rfl⟩ := Prod.mk.inj (Except.ok.inj h)
      rw [hcut]
      constructor
      · rintro ⟨other, hother, rfl⟩
        obtain ⟨rfl, rfl⟩ := Prod.mk.inj (Option.some.inj hother)
        exact ⟨rfl, rfl⟩
      · rintro ⟨rfl, rfl⟩
        exact ⟨name, rfl, rfl⟩

/-- The last one of some overrides that says anything of a key says what its value is. -/
def LastGives (items : List String) (key value : String) : Prop :=
  ∃ before item after, items = before ++ item :: after ∧ Gives item key value ∧
    ∀ later ∈ after, ∀ other, ¬Gives later key other

theorem lastGives_cons : LastGives (item :: items) key value ↔
    LastGives items key value ∨
      Gives item key value ∧ ∀ later ∈ items, ∀ other, ¬Gives later key other := by
  constructor
  · rintro ⟨before, found, after, hitems, hgives, hlast⟩
    cases before with
    | nil =>
      obtain ⟨rfl, rfl⟩ := List.cons.inj hitems
      exact .inr ⟨hgives, hlast⟩
    | cons first before =>
      obtain ⟨-, rfl⟩ := List.cons.inj hitems
      exact .inl ⟨before, found, after, rfl, hgives, hlast⟩
  · rintro (⟨before, found, after, rfl, hgives, hlast⟩ | ⟨hgives, hlast⟩)
    · exact ⟨item :: before, found, after, rfl, hgives, hlast⟩
    · exact ⟨[], item, items, rfl, hgives, hlast⟩

theorem not_lastGives_nil : ¬LastGives [] key value := by
  rintro ⟨before, found, after, hitems, -⟩
  cases before <;> cases hitems

theorem exists_lastGives_iff :
    (∃ value, LastGives items key value) ↔ ∃ item ∈ items, ∃ value, Gives item key value := by
  induction items with
  | nil => simp [not_lastGives_nil]
  | cons item items ih =>
    simp only [lastGives_cons, exists_or, ih, List.mem_cons, or_and_right, exists_eq_left]
    by_cases hlater : ∃ later ∈ items, ∃ value, Gives later key value
    · simp [hlater]
    · have hnone : ∀ later ∈ items, ∀ other, ¬Gives later key other := fun later hmem other h ↦
        hlater ⟨later, hmem, other, h⟩
      simp only [hlater, false_or, or_false]
      exact ⟨fun ⟨value, h, _⟩ ↦ ⟨value, h⟩, fun ⟨value, h⟩ ↦ ⟨value, h, hnone⟩⟩

theorem lastGives_iff (h : items.mapM override = .ok entries) :
    LastGives items key value ↔ entries.reverse.lookup key = some value := by
  induction items generalizing entries value with
  | nil =>
    obtain rfl := Except.ok.inj h
    exact iff_of_false not_lastGives_nil nofun
  | cons item items ih =>
    rw [List.mapM_cons, bind_eq_ok_iff] at h
    obtain ⟨⟨name, text⟩, hitem, h⟩ := h
    obtain ⟨rest, hrest, h⟩ := bind_eq_ok_iff.1 h
    obtain rfl := Except.ok.inj h
    have hlater : (∃ later ∈ items, ∃ other, Gives later key other) ↔
        ∃ other, rest.reverse.lookup key = some other := by
      rw [← exists_lastGives_iff]
      exact exists_congr fun other ↦ ih hrest
    rw [lastGives_cons, ih hrest, List.reverse_cons, List.lookup_append]
    cases hlookup : rest.reverse.lookup key with
    | some found =>
      obtain ⟨later, hmem, other, hgives⟩ := hlater.2 ⟨found, hlookup⟩
      rw [Option.some_or]
      exact or_iff_left fun h ↦ h.2 later hmem other hgives
    | none =>
      have hnone : ∀ later ∈ items, ∀ other, ¬Gives later key other := by
        intro later hmem other hgives
        obtain ⟨found, hfound⟩ := hlater.1 ⟨later, hmem, other, hgives⟩
        rw [hlookup] at hfound
        cases hfound
      rw [Option.none_or, OrderedMap.lookup_cons_eq, gives_of_override hitem]
      by_cases hkey : key = name
      · simp only [hkey, true_and, if_true, reduceCtorEq, false_or, Option.some.injEq]
        exact ⟨fun h ↦ h.1.symm, fun h ↦ ⟨h.symm, hkey ▸ hnone⟩⟩
      · simp [hkey]

theorem parseOverrides_eq_ok_iff {bag : Bag} :
    parseOverrides items = .ok bag ↔
      ∃ entries, items.mapM override = .ok entries ∧ .ofList entries = bag := by
  rw [parseOverrides, map_eq_ok_iff]

theorem get?_parseOverrides {bag : Bag} (h : parseOverrides items = .ok bag) :
    bag.get? key = some value ↔ LastGives items key value := by
  obtain ⟨entries, hentries, rfl⟩ := parseOverrides_eq_ok_iff.1 h
  rw [OrderedMap.get?_ofList, lastGives_iff hentries]

end PropertyText

namespace CommandLine.PlanRequest

variable {request : PlanRequest} {files : Files.Source} {config : Configuration}

def loaded [Host] (request : PlanRequest) (files : Files.Source) :
    Except Fault Configuration :=
  match request.configFile with
  | some path => (Configuration.load files path).outcome
  | none => .ok .empty

theorem outcome_configuration [Host] (request : PlanRequest) (files : Files.Source) :
    (request.configuration files).outcome =
      request.loaded files >>= fun file ↦
        (PropertyText.parseOverrides request.overrides).mapError .configuration >>= fun bag ↦
          .ok (file.withOverrides (Configuration.toSettings ⟨bag⟩)) := by
  unfold configuration loaded
  cases request.configFile <;> simp only [Trace.outcome_bind] <;> rfl

/-- A key has the value that the last override of it gives, or else the one it has in the file. -/
structure Layered (request : PlanRequest) (file config : Configuration) : Prop where
  overridden : ∀ key value, PropertyText.LastGives request.overrides key value →
    config.get? key = some value
  kept : ∀ key, (∀ value, ¬PropertyText.LastGives request.overrides key value) →
    config.get? key = file.get? key

theorem outcome_configuration_eq_ok_iff [Host] :
    (request.configuration files).outcome = .ok config ↔
      ∃ file bag, request.loaded files = .ok file ∧
        PropertyText.parseOverrides request.overrides = .ok bag ∧
          config = file.withOverrides (Configuration.toSettings ⟨bag⟩) := by
  rw [outcome_configuration, bind_eq_ok_iff]
  simp only [bind_eq_ok_iff, mapError_eq_ok_iff, Except.ok.injEq]
  constructor
  · rintro ⟨file, hfile, bag, hbag, rfl⟩
    exact ⟨file, bag, hfile, hbag, rfl⟩
  · rintro ⟨file, bag, hfile, hbag, rfl⟩
    exact ⟨file, hfile, bag, hbag, rfl⟩

theorem layered_withOverrides {bag : Bag} (file : Configuration)
    (h : PropertyText.parseOverrides request.overrides = .ok bag) :
    request.Layered file (file.withOverrides (Configuration.toSettings ⟨bag⟩)) := by
  constructor
  · intro key value hgives
    have hget : (⟨bag⟩ : Configuration).get? key = some value :=
      (PropertyText.get?_parseOverrides h).2 hgives
    rw [Configuration.get?_withTexts, hget, Option.some_or]
  · intro key hnone
    have hget : (⟨bag⟩ : Configuration).get? key = none := by
      rw [Option.eq_none_iff_forall_ne_some]
      exact fun value hvalue ↦ hnone value ((PropertyText.get?_parseOverrides h).1 hvalue)
    rw [Configuration.get?_withTexts, hget, Option.none_or]

theorem outcome_configuration_eq_error_iff [Host] {fault : Fault} :
    (request.configuration files).outcome = .error fault ↔
      request.loaded files = .error fault ∨ ∃ file e, request.loaded files = .ok file ∧
        PropertyText.parseOverrides request.overrides = .error e ∧ fault = .configuration e := by
  rw [outcome_configuration, bind_eq_error_iff]
  refine or_congr_right ?_
  simp only [bind_eq_error_iff, mapError_eq_error_iff, reduceCtorEq, and_false, exists_false,
    or_false]
  constructor
  · rintro ⟨file, hfile, e, he, rfl⟩
    exact ⟨file, e, hfile, he, rfl⟩
  · rintro ⟨file, e, hfile, he, rfl⟩
    exact ⟨file, hfile, e, he, rfl⟩

end CommandLine.PlanRequest

end Registrar
