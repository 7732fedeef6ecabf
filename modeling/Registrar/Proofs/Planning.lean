import Registrar.Policy
import Registrar.Proofs.Construction
import Registrar.Proofs.Resolution

namespace Registrar

namespace Naming

variable {config : Configuration} {sanitizing : Bool} {keys : NameKeys} {pattern : Option Pattern}
variable {location : String} {fault : Fault}

abbrev Grouped (pattern : Option Pattern) : Prop := ∀ p ∈ pattern, p.groupCount ≠ 0

theorem isRegistration_of_captured {p : Pattern} (hp : p.groupCount ≠ 0)
    (h : captured keys.regex p location = .error fault) : fault.isRegistration = true := by
  unfold captured at h
  simp only [hp, if_false] at h
  split at h
  · cases h
    rfl
  · split at h
    · cases h
    · cases h
      rfl

theorem isRegistration_of_rawName (hp : Grouped pattern)
    (h : rawName config keys pattern (.text location) = .error fault) :
    fault.isRegistration = true := by
  unfold rawName at h
  split at h
  · cases h
  · rename_i p _
    rcases bind_eq_error_iff.1 h with h | ⟨found, hfound, h⟩
    · cases h
    · rcases bind_eq_error_iff.1 h with h | ⟨text, -, h⟩
      · exact isRegistration_of_captured (hp p rfl) h
      · cases h
  · cases h
    rfl

theorem isRegistration_of_resolve (hp : Grouped pattern)
    (h : (resolve config sanitizing keys pattern (.text location)).outcome = .error fault) :
    fault.isRegistration = true := by
  rw [outcome_resolve] at h
  rcases bind_eq_error_iff.1 h with h | ⟨name, -, h⟩
  · exact isRegistration_of_rawName hp h
  · unfold tested at h
    split at h <;> cases h
    rfl

end Naming

namespace NameRule

theorem isRegistration_of_affix {rule : NameRule} {name : String} {fault : Fault}
    (h : rule.affix name = .error fault) : fault.isRegistration = true := by
  unfold affix at h
  split at h
  · cases h
  · dsimp only at h
    split at h <;> cases h
    rfl

theorem isRegistration_of_resolve {rule : NameRule} {config : Configuration} {sanitizing : Bool}
    {location : String} {fault : Fault} (hp : Naming.Grouped rule.pattern)
    (h : (rule.resolve config sanitizing (.text location)).outcome = .error fault) :
    fault.isRegistration = true := by
  rw [outcome_resolve] at h
  rcases bind_eq_error_iff.1 h with h | ⟨name, -, h⟩
  · exact Naming.isRegistration_of_resolve hp h
  · exact isRegistration_of_affix h

theorem grouped_of_ofConfiguration [Host] {config : Configuration} {keys : NameKeys}
    {headKey tailKey : String} {rule : NameRule}
    (h : ofConfiguration config keys headKey tailKey = .ok rule) :
    Naming.Grouped rule.pattern := by
  obtain ⟨pattern, hpattern, rfl⟩ := ofConfiguration_eq_ok_iff.1 h
  rintro p rfl
  exact Naming.groupCount_of_pattern? hpattern

end NameRule

namespace Layout

variable {layout : Layout} {location : String} {fault : Fault}

theorem isRegistration_of_mapError {α : Type} {x : Except ConfigurationError α}
    (h : x.mapError .configuration = .error fault) : fault.isRegistration = true := by
  obtain ⟨e, -, rfl⟩ := mapError_eq_error_iff.1 h
  rfl

theorem isRegistration_of_tableLocation
    (h : layout.tableLocation (.text location) = .error fault) : fault.isRegistration = true := by
  unfold tableLocation at h
  rw [StoragePath.location, ok_bind] at h
  split at h
  · cases h
  · split at h <;> cases h
    rfl
  · exact isRegistration_of_mapError h

theorem isRegistration_of_partition {table : Table}
    (h : layout.partition (.text location) table = .error fault) :
    fault.isRegistration = true := by
  unfold partition at h
  split at h
  · cases h
  · cases h
  · rw [StoragePath.location, ok_bind] at h
    rcases bind_eq_error_iff.1 h with h | ⟨found, -, h⟩
    · exact isRegistration_of_mapError h
    · cases h

end Layout

namespace Policy

/-- A policy both of whose patterns have a group. -/
structure Sound (policy : Policy) : Prop where
  database : Naming.Grouped policy.database.pattern
  table : Naming.Grouped policy.table.pattern

theorem BuiltFrom.sound [Host] {config : Configuration} {layout : Layout} {policy : Policy}
    (h : BuiltFrom config layout policy) : policy.Sound :=
  ⟨NameRule.grouped_of_ofConfiguration h.database, NameRule.grouped_of_ofConfiguration h.table⟩

variable {policy : Policy} {location : String} {fault : Fault}

theorem Sound.isRegistration_of_tableFor (hs : policy.Sound)
    (h : (policy.tableFor (.text location)).outcome = .error fault) :
    fault.isRegistration = true := by
  rw [outcome_tableFor] at h
  rcases bind_eq_error_iff.1 h with h | ⟨database, -, h⟩
  · exact NameRule.isRegistration_of_resolve hs.database h
  · rcases bind_eq_error_iff.1 h with h | ⟨name, -, h⟩
    · exact NameRule.isRegistration_of_resolve hs.table h
    · rcases bind_eq_error_iff.1 h with h | ⟨_, -, h⟩
      · exact Layout.isRegistration_of_tableLocation h
      · cases h

theorem Sound.isRegistration_of_specs (hs : policy.Sound)
    (h : (policy.specs (.text location)).outcome = .error fault) :
    fault.isRegistration = true := by
  rw [outcome_specs] at h
  rcases bind_eq_error_iff.1 h with h | ⟨table, -, h⟩
  · exact hs.isRegistration_of_tableFor h
  · rcases bind_eq_error_iff.1 h with h | ⟨partition, -, h⟩
    · exact Layout.isRegistration_of_partition h
    · cases h

def entry (policy : Policy) (location : String) : PlanResult :=
  match (policy.specs (.text location)).outcome with
  | .ok specs => ⟨location, specs, none⟩
  | .error fault => ⟨location, [], some fault.message⟩

theorem path_entry (policy : Policy) (location : String) :
    (policy.entry location).path = location := by
  unfold entry
  split <;> rfl

theorem Sound.outcome_planPath (hs : policy.Sound) (location : String) :
    (policy.planPath (.text location)).outcome = .ok (policy.entry location) := by
  unfold planPath entry
  cases h : (policy.specs (.text location)).outcome with
  | ok specs =>
    simp only [h]
    rfl
  | error fault =>
    simp only [h, hs.isRegistration_of_specs h, if_true]
    rfl

theorem Sound.outcome_plan (hs : policy.Sound) (locations : List String) :
    (policy.plan (locations.map .text)).outcome = .ok (locations.map policy.entry) := by
  rw [plan, Trace.outcome_mapM, List.mapM_map]
  simp only [Function.comp_def, hs.outcome_planPath]
  exact List.mapM_pure

theorem Sound.entry_cases (hs : policy.Sound) (location : String) :
    (∃ spec, (policy.specs (.text location)).outcome = .ok [spec] ∧
      (policy.entry location).specs = [spec] ∧ (policy.entry location).error = none) ∨
    ∃ fault, (policy.specs (.text location)).outcome = .error fault ∧
      fault.isRegistration = true ∧ (policy.entry location).specs = [] ∧
        (policy.entry location).error = some fault.message := by
  unfold entry
  split
  · rename_i specs h
    obtain ⟨spec, rfl, -⟩ := specs_eq_ok h
    exact .inl ⟨spec, h, rfl, rfl⟩
  · rename_i fault h
    exact .inr ⟨fault, h, hs.isRegistration_of_specs h, rfl, rfl⟩

/-- A plan under a built-in policy is never ended by a fault. It has an entry for each path, in the
order of the paths: the one spec of the path, or the message of the fault of registration that keeps
the path from being registered. An entry says the same in whatever plan its path stands. -/
theorem plan_eq_map_entry [Host] {name : String} {config : Configuration} {policy : Policy}
    (h : Registry.default.create name config = .ok policy) :
    (∀ locations : List String,
      (policy.plan (locations.map .text)).outcome = .ok (locations.map policy.entry)) ∧
    (∀ location, (policy.entry location).path = location ∧
      ((∃ spec, (policy.specs (.text location)).outcome = .ok [spec] ∧
        (policy.entry location).specs = [spec] ∧ (policy.entry location).error = none) ∨
      ∃ fault, (policy.specs (.text location)).outcome = .error fault ∧
        fault.isRegistration = true ∧ (policy.entry location).specs = [] ∧
          (policy.entry location).error = some fault.message)) ∧
    (∀ before after : List String,
      (policy.plan ((before ++ after).map .text)).outcome = do
        let first ← (policy.plan (before.map .text)).outcome
        let second ← (policy.plan (after.map .text)).outcome
        return first ++ second) ∧
    ∀ locations others : List String, locations.Perm others →
      ∃ results rearranged, (policy.plan (locations.map .text)).outcome = .ok results ∧
        (policy.plan (others.map .text)).outcome = .ok rearranged ∧ results.Perm rearranged := by
  obtain ⟨layout, -, hb⟩ := Registry.create_default_eq_ok h
  have hs := hb.sound
  refine ⟨hs.outcome_plan, fun location ↦ ⟨path_entry policy location, hs.entry_cases location⟩,
    fun before after ↦ ?_, fun locations others hp ↦ ?_⟩
  · rw [hs.outcome_plan, hs.outcome_plan, hs.outcome_plan, List.map_append]
    rfl
  · exact ⟨_, _, hs.outcome_plan locations, hs.outcome_plan others, hp.map policy.entry⟩

def lettersConfiguration : Configuration :=
  ⟨.ofList [(Key.databaseRegex, "x|(y)"), (Key.tableName, "t"),
    (Key.partitionRegex, "(?P<d>.)z")]⟩

section

attribute [local instance] Host.bare

theorem plan_eq_map_entry_letters :
    ∃ policy, Registry.default.create "partitioned" lettersConfiguration = .ok policy ∧
      (policy.plan (["/x", "/y/1z"].map .text)).outcome =
        .ok (["/x", "/y/1z"].map policy.entry) ∧
      ["/x", "/y/1z"].map policy.entry =
        [⟨"/x", [], some "Property database.regex (x|(y)) has no match for group 1 in path /x"⟩,
          ⟨"/y/1z", [⟨"/y/1z", ⟨"y", "t", .avro, "/y", .empty, .empty, .empty⟩,
            some ⟨"y", "t", [("d", "1")], "/y/1z", .empty, .empty, .empty⟩⟩], none⟩] := by
  have hrun : (do
      let policy ← Registry.default.create "partitioned" lettersConfiguration
      (policy.plan (["/x", "/y/1z"].map .text)).outcome : Except Fault (List PlanResult)).toOption =
        some [
          ⟨"/x", [], some "Property database.regex (x|(y)) has no match for group 1 in path /x"⟩,
          ⟨"/y/1z", [⟨"/y/1z", ⟨"y", "t", .avro, "/y", .empty, .empty, .empty⟩,
            some ⟨"y", "t", [("d", "1")], "/y/1z", .empty, .empty, .empty⟩⟩], none⟩] := by
    decide +kernel
  obtain ⟨policy, hpolicy, hplan⟩ := bind_eq_ok_iff.1 (toOption_eq_some_iff.1 hrun)
  have hentries := (plan_eq_map_entry hpolicy).1 ["/x", "/y/1z"]
  exact ⟨policy, hpolicy, hentries, Except.ok.inj (hentries.symm.trans hplan)⟩

end

end Policy

end Registrar
