import Registrar.Proofs.Planning
import Registrar.Proofs.ResolvedNames

namespace Registrar

def Event.isResolved : Event → Bool
  | resolved .. => true
  | _ => false

namespace Naming

variable {config : Configuration} {sanitizing : Bool} {keys : NameKeys} {pattern : Option Pattern}
variable {path : StoragePath}

theorem captured_eq_ok {key location text : String} {p : Pattern}
    (h : captured key p location = .ok text) :
    ∃ found, p.groupCount ≠ 0 ∧ p.search location = some found ∧ found.group? 1 = some text := by
  unfold captured at h
  dsimp only at h
  split at h
  · cases h
  · rename_i found hfound
    split at h
    · cases h
    · rename_i hgroup
      split at h
      · rename_i htext
        exact ⟨found, hgroup, hfound, htext.trans (congrArg some (Except.ok.inj h))⟩
      · cases h

theorem rawName_eq_ok_iff {name : String} : rawName config keys pattern path = .ok name ↔
    ∃ text, Given config keys pattern path text ∧ Text.lower text = name := by
  refine ⟨fun h ↦ ?_, ?_⟩
  · unfold rawName at h
    split at h
    · rename_i text htext
      exact ⟨text, .literal htext, Except.ok.inj h⟩
    · rename_i p hunset
      obtain ⟨location, hpath, h⟩ := bind_eq_ok_iff.1 h
      obtain ⟨text, hcaptured, h⟩ := bind_eq_ok_iff.1 h
      obtain ⟨found, hgroup, hfound, htext⟩ := captured_eq_ok hcaptured
      exact ⟨text, .captured hunset rfl hgroup hpath hfound htext, Except.ok.inj h⟩
    · cases h
  · rintro ⟨text, h, rfl⟩
    exact rawName_of_given h

/-- A name is replaced: it is obtained, names are sanitized, and its lower case is not valid. The
event carries that lower case and what replaces it. -/
inductive Replaces (config : Configuration) (sanitizing : Bool) (keys : NameKeys)
    (pattern : Option Pattern) (path : StoragePath) : Event → Prop
  | intro {text : String} (hgiven : Given config keys pattern path text)
      (hsanitizing : sanitizing = true) (hinvalid : Identifier.isValid (Text.lower text) = false) :
      Replaces config sanitizing keys pattern path
        (.sanitized keys.name (Text.lower text) (Identifier.sanitize (Text.lower text)))

theorem Replaces.isResolved {event : Event}
    (h : Replaces config sanitizing keys pattern path event) :
    event.isResolved = false := by
  cases h
  rfl

def replacement (sanitizing : Bool) (key name : String) : Option Event :=
  if sanitizing && !Identifier.isValid name then
    some (.sanitized key name (Identifier.sanitize name))
  else none

theorem events_settle (sanitizing : Bool) (key name : String) :
    (settle sanitizing key name).events = (replacement sanitizing key name).toList := by
  unfold settle replacement
  split <;> rfl

def replacement? (config : Configuration) (sanitizing : Bool) (keys : NameKeys)
    (pattern : Option Pattern) (path : StoragePath) : Option Event :=
  (rawName config keys pattern path).toOption.bind (replacement sanitizing keys.name)

theorem replacement?_eq_some_iff {event : Event} :
    replacement? config sanitizing keys pattern path = some event ↔
      Replaces config sanitizing keys pattern path event := by
  simp only [replacement?, Option.bind_eq_some_iff, toOption_eq_some_iff, rawName_eq_ok_iff,
    replacement]
  constructor
  · rintro ⟨_, ⟨text, hgiven, rfl⟩, h⟩
    split at h
    · rename_i hc
      rw [Bool.and_eq_true, Bool.not_eq_true'] at hc
      cases h
      exact .intro hgiven hc.1 hc.2
    · cases h
  · rintro ⟨hgiven, hsanitizing, hinvalid⟩
    exact ⟨_, ⟨_, hgiven, rfl⟩, by simp [hsanitizing, hinvalid]⟩

theorem events_resolve : (resolve config sanitizing keys pattern path).events =
    (replacement? config sanitizing keys pattern path).toList := by
  unfold resolve replacement?
  cases rawName config keys pattern path with
  | error fault => rfl
  | ok name =>
    change ((settle sanitizing keys.name name) >>= _).events =
      (replacement sanitizing keys.name name).toList
    rw [Trace.events_bind_of_ok (outcome_settle sanitizing keys.name name), events_settle]
    split <;> exact List.append_nil _

end Naming

theorem NameRule.keys_of_ofConfiguration [Host] {config : Configuration} {keys : NameKeys}
    {headKey tailKey : String} {rule : NameRule}
    (h : ofConfiguration config keys headKey tailKey = .ok rule) : rule.keys = keys := by
  obtain ⟨pattern, -, rfl⟩ := ofConfiguration_eq_ok_iff.1 h
  rfl

theorem NameRule.events_resolve (rule : NameRule) (config : Configuration) (sanitizing : Bool)
    (path : StoragePath) : (rule.resolve config sanitizing path).events =
      (Naming.replacement? config sanitizing rule.keys rule.pattern path).toList := by
  rw [resolve, ← Naming.events_resolve]
  cases h : (Naming.resolve config sanitizing rule.keys rule.pattern path).outcome with
  | error fault => exact Trace.events_bind_of_error h
  | ok name => rw [Trace.events_bind_of_ok h, Trace.events_lift, List.append_nil]

namespace Policy

variable {policy : Policy} {location : String}

def databaseReplacement? (policy : Policy) (path : StoragePath) : Option Event :=
  Naming.replacement? policy.config policy.sanitizing policy.database.keys policy.database.pattern
    path

def tableReplacement? (policy : Policy) (path : StoragePath) : Option Event :=
  (policy.databaseName path).outcome.toOption.bind fun _ ↦
    Naming.replacement? policy.config policy.sanitizing policy.table.keys policy.table.pattern path

def resolution (spec : Spec) : Event :=
  .resolved spec.path spec.table.fullName (spec.partition.map Partition.spec)

def resolution? (policy : Policy) (path : StoragePath) : Option Event :=
  ((policy.specs path).outcome.toOption.bind List.head?).map resolution

theorem events_tableFor (policy : Policy) (path : StoragePath) :
    (policy.tableFor path).events =
      (policy.databaseReplacement? path).toList ++ (policy.tableReplacement? path).toList := by
  have hdatabase : (policy.databaseName path).events =
      (policy.databaseReplacement? path).toList := NameRule.events_resolve ..
  have htable : (policy.tableName path).events = (Naming.replacement? policy.config
      policy.sanitizing policy.table.keys policy.table.pattern path).toList :=
    NameRule.events_resolve ..
  unfold tableFor tableReplacement?
  cases hd : (policy.databaseName path).outcome with
  | error fault =>
    rw [Trace.events_bind_of_error hd, hdatabase]
    simp [Except.toOption]
  | ok database =>
    rw [Trace.events_bind_of_ok hd, hdatabase, Except.toOption, Option.bind_some, ← htable]
    congr 1
    cases ht : (policy.tableName path).outcome with
    | error fault => rw [Trace.events_bind_of_error ht]
    | ok name =>
      rw [Trace.events_bind_of_ok ht]
      cases policy.layout.tableLocation path <;> exact List.append_nil _

theorem events_specs (policy : Policy) (path : StoragePath) :
    (policy.specs path).events =
      (policy.databaseReplacement? path).toList ++ (policy.tableReplacement? path).toList ++
        (policy.resolution? path).toList := by
  unfold resolution?
  rw [outcome_specs, ← events_tableFor, specs]
  cases h : (policy.tableFor path).outcome with
  | error fault =>
    rw [Trace.events_bind_of_error h]
    exact (List.append_nil _).symm
  | ok table =>
    -- From here on the record is left at the very end, if the path comes so far.
    rw [Trace.events_bind_of_ok h, ok_bind]
    congr 1
    cases policy.layout.partition path table with
    | error fault => rfl
    | ok partition => cases path.location <;> rfl

theorem events_planPath (policy : Policy) (path : StoragePath) :
    (policy.planPath path).events = (policy.specs path).events := by
  unfold planPath
  dsimp only
  split
  · rfl
  · split <;> rfl

theorem Sound.events_plan (hs : policy.Sound) (locations : List String) :
    (policy.plan (locations.map .text)).events =
      locations.flatMap fun location ↦ (policy.specs (.text location)).events := by
  have hok : ∀ path ∈ locations.map StoragePath.text, ∃ result,
      (policy.planPath path).outcome = .ok result := by
    rw [List.forall_mem_map]
    exact fun location _ ↦ ⟨_, hs.outcome_planPath location⟩
  rw [plan, Trace.events_mapM hok, List.flatMap_map]
  simp only [events_planPath]

/-- The parts of what a path leaves in the record. A replaced name is there exactly if the path came
as far as that name, for the table past the name of the database with its affixes, and what the path
is resolved to exactly if its result is ok. -/
structure Block (policy : Policy) (location : String) (database table resolved : Option Event) :
    Prop where
  database_iff : ∀ event, database = some event ↔
    Naming.Replaces policy.config policy.sanitizing .database policy.database.pattern
      (.text location) event
  table_iff : ∀ event, table = some event ↔
    (∃ name, (policy.databaseName (.text location)).outcome = .ok name) ∧
      Naming.Replaces policy.config policy.sanitizing .table policy.table.pattern
        (.text location) event
  resolved_iff : ∀ event, resolved = some event ↔
    ∃ spec, (policy.entry location).specs = [spec] ∧ resolution spec = event
  isSome_resolved : resolved.isSome = (policy.entry location).ok

theorem BuiltFrom.block [Host] {config : Configuration} {layout : Layout}
    (hb : BuiltFrom config layout policy) (location : String) :
    policy.Block location (policy.databaseReplacement? (.text location))
      (policy.tableReplacement? (.text location)) (policy.resolution? (.text location)) where
  database_iff event := by
    rw [databaseReplacement?, Naming.replacement?_eq_some_iff,
      NameRule.keys_of_ofConfiguration hb.database]
  table_iff event := by
    rw [tableReplacement?, Option.bind_eq_some_iff,
      NameRule.keys_of_ofConfiguration hb.table]
    simp only [toOption_eq_some_iff, Naming.replacement?_eq_some_iff, exists_and_right]
  resolved_iff event := by
    unfold resolution?
    rcases hb.sound.entry_cases location with ⟨spec, h, hspecs, -⟩ | ⟨fault, h, -, hspecs, -⟩
    · simp [h, hspecs, Except.toOption]
    · simp [h, hspecs, Except.toOption]
  isSome_resolved := by
    unfold resolution? PlanResult.ok
    rcases hb.sound.entry_cases location with ⟨spec, h, -, herror⟩ | ⟨fault, h, -, -, herror⟩
    · simp [h, herror, Except.toOption]
    · simp [h, herror, Except.toOption]

theorem Block.countP {database table resolved : Option Event}
    (h : policy.Block location database table resolved) :
    (database.toList ++ table.toList ++ resolved.toList).countP Event.isResolved =
      if (policy.entry location).ok then 1 else 0 := by
  have hdatabase : database.toList.countP Event.isResolved = 0 := by
    rw [List.countP_eq_zero]
    intro event hevent
    rw [((h.database_iff event).1 (Option.mem_toList.1 hevent)).isResolved]
    exact Bool.false_ne_true
  have htable : table.toList.countP Event.isResolved = 0 := by
    rw [List.countP_eq_zero]
    intro event hevent
    rw [((h.table_iff event).1 (Option.mem_toList.1 hevent)).2.isResolved]
    exact Bool.false_ne_true
  rw [List.countP_append, List.countP_append, hdatabase, htable, ← h.isSome_resolved]
  cases hresolved : resolved with
  | none => rfl
  | some event =>
    obtain ⟨spec, -, rfl⟩ := (h.resolved_iff event).1 hresolved
    rfl

theorem BuiltFrom.countP_events_plan [Host] {config : Configuration} {layout : Layout}
    (hb : BuiltFrom config layout policy) (locations : List String) :
    (policy.plan (locations.map .text)).events.countP Event.isResolved =
      (locations.map policy.entry).countP (·.ok) := by
  rw [hb.sound.events_plan]
  induction locations with
  | nil => rfl
  | cons location rest ih =>
    rw [List.flatMap_cons, List.countP_append, ih, events_specs, (hb.block location).countP,
      List.map_cons, List.countP_cons, Nat.add_comm]

/-- The record of a plan under a built-in policy is made of the blocks of its paths, in their order,
each the same as for the path alone. A block has at most one event for the name of the database,
then at most one for the name of the table, then at most one for what the path is resolved to. A
name is recorded, with its lower case and what replaces it, if and only if it is reached and
obtained, names are sanitized and the lower case is not valid, whatever becomes of the path
afterwards. So as many paths are recorded as resolved as there are results which are ok. -/
theorem events_plan_eq_flatMap [Host] {name : String} {config : Configuration}
    {policy : Policy}
    (h : Registry.default.create name config = .ok policy) :
    (∀ locations : List String, (policy.plan (locations.map .text)).events =
      locations.flatMap fun location ↦ (policy.plan [.text location]).events) ∧
    (∀ location, ∃ database table resolved,
      (policy.plan [.text location]).events =
          database.toList ++ table.toList ++ resolved.toList ∧
        policy.Block location database table resolved) ∧
    ∀ locations : List String,
      (policy.plan (locations.map .text)).outcome = .ok (locations.map policy.entry) ∧
        (policy.plan (locations.map .text)).events.countP Event.isResolved =
          (locations.map policy.entry).countP (·.ok) := by
  obtain ⟨layout, -, hb⟩ := Registry.create_default_eq_ok h
  have halone (location : String) : (policy.plan [.text location]).events =
      (policy.specs (.text location)).events := by
    have hsingle := hb.sound.events_plan [location]
    rwa [List.flatMap_singleton] at hsingle
  refine ⟨fun locations ↦ ?_, fun location ↦ ?_, fun locations ↦ ?_⟩
  · simp only [halone]
    exact hb.sound.events_plan locations
  · exact ⟨_, _, _, (halone location).trans (events_specs policy _), hb.block location⟩
  · exact ⟨hb.sound.outcome_plan locations, hb.countP_events_plan locations⟩

def endsConfiguration : Configuration :=
  ⟨.ofList [(Key.databaseRegex, "^/([^/]*)"), (Key.tableRegex, "([^/]*)$")]⟩

section

attribute [local instance] Host.bare

/-- The second path matches nothing, and the third one is given up after both its names have been
replaced. -/
theorem events_plan_eq_flatMap_ends :
    ∃ policy, Registry.default.create "base" endsConfiguration = .ok policy ∧
      (policy.plan (["/A-b/t", "t", "/c.d/_"].map .text)).events =
        [.sanitized Key.databaseName "a-b" "a_b", .resolved "/A-b/t" "a_b.t" none,
          .sanitized Key.databaseName "c.d" "c_d", .sanitized Key.tableName "_" "_"] ∧
      (["/A-b/t", "t", "/c.d/_"].map policy.entry).countP (·.ok) = 1 := by
  have hrun : (do
      let policy ← Registry.default.create "base" endsConfiguration
      return (policy.plan (["/A-b/t", "t", "/c.d/_"].map .text)).events :
        Except Fault (List Event)).toOption =
        some [.sanitized Key.databaseName "a-b" "a_b", .resolved "/A-b/t" "a_b.t" none,
          .sanitized Key.databaseName "c.d" "c_d", .sanitized Key.tableName "_" "_"] := by
    decide +kernel
  obtain ⟨policy, hpolicy, hevents⟩ := bind_eq_ok_iff.1 (toOption_eq_some_iff.1 hrun)
  have hcount := ((events_plan_eq_flatMap hpolicy).2.2 ["/A-b/t", "t", "/c.d/_"]).2
  rw [Except.ok.inj hevents] at hcount
  exact ⟨policy, hpolicy, Except.ok.inj hevents, hcount.symm⟩

end

end Policy

end Registrar
