import Registrar.Proofs.Identifiers
import Registrar.Proofs.Outcomes
import Registrar.Registry

namespace Registrar

namespace Naming

def settled (sanitizing : Bool) (name : String) : String :=
  if sanitizing && !Identifier.isValid name then Identifier.sanitize name else name

theorem outcome_settle (sanitizing : Bool) (key name : String) :
    (settle sanitizing key name).outcome = .ok (settled sanitizing name) := by
  unfold settle settled
  split <;> rfl

def tested (name : String) : Except Fault String :=
  if Identifier.isValid name then .ok name else .error (.invalidIdentifier name)

theorem tested_eq_ok_iff {name result : String} :
    tested name = .ok result ↔ Identifier.isValid name = true ∧ name = result := by
  unfold tested
  split <;> simp_all

theorem outcome_resolve (config : Configuration) (sanitizing : Bool) (keys : NameKeys)
    (pattern : Option Pattern) (path : StoragePath) :
    (resolve config sanitizing keys pattern path).outcome =
      rawName config keys pattern path >>= fun name ↦ tested (settled sanitizing name) := by
  simp only [resolve, Trace.outcome_bind, Trace.outcome_lift, outcome_settle]
  refine bind_congr fun name ↦ ?_
  rw [ok_bind, tested]
  split
  · rw [Trace.outcome_pure]
  · rw [Trace.outcome_fail]

theorem rawName_eq_ok {config : Configuration} {keys : NameKeys} {pattern : Option Pattern}
    {path : StoragePath} {name : String} (h : rawName config keys pattern path = .ok name) :
    ∃ text, name = Text.lower text := by
  unfold rawName at h
  split at h
  · rename_i literal _
    exact ⟨literal, (Except.ok.inj h).symm⟩
  · obtain ⟨location, -, h⟩ := bind_eq_ok_iff.1 h
    obtain ⟨text, -, h⟩ := bind_eq_ok_iff.1 h
    exact ⟨text, (Except.ok.inj h).symm⟩
  · cases h

/-- A name that passes the test once it is settled is an identifier as it is written: neither
lowering nor sanitizing leaves a character that only lowering it again would make acceptable. -/
theorem wellFormed_settled {sanitizing : Bool} {text : String}
    (h : Identifier.isValid (settled sanitizing (Text.lower text)) = true) :
    Identifier.WellFormed (settled sanitizing (Text.lower text)) := by
  unfold settled at h ⊢
  by_cases hc : (sanitizing && !Identifier.isValid (Text.lower text)) = true
  · rw [if_pos hc] at h ⊢
    rw [Identifier.isValid_sanitize_lower] at h
    exact Identifier.isIdentifier_iff.1 h
  · rw [if_neg hc] at h ⊢
    rw [Identifier.isValid_lower] at h
    exact Identifier.isIdentifier_iff.1 h

theorem wellFormed_of_resolve {config : Configuration} {sanitizing : Bool} {keys : NameKeys}
    {pattern : Option Pattern} {path : StoragePath} {name : String}
    (h : (resolve config sanitizing keys pattern path).outcome = .ok name) :
    Identifier.WellFormed name := by
  rw [outcome_resolve] at h
  obtain ⟨raw, hraw, h⟩ := bind_eq_ok_iff.1 h
  obtain ⟨text, rfl⟩ := rawName_eq_ok hraw
  obtain ⟨hv, rfl⟩ := tested_eq_ok_iff.1 h
  exact wellFormed_settled hv

end Naming

namespace NameRule

theorem wellFormed_of_affix {rule : NameRule} {name full : String}
    (hn : Identifier.WellFormed name) (h : rule.affix name = .ok full) :
    Identifier.WellFormed full := by
  unfold affix at h
  split at h
  · cases h
    exact hn
  · dsimp only at h
    split at h
    · rename_i hv
      cases h
      rw [Identifier.isValid_lower] at hv
      exact Identifier.isIdentifier_iff.1 hv
    · cases h

theorem outcome_resolve (rule : NameRule) (config : Configuration) (sanitizing : Bool)
    (path : StoragePath) :
    (rule.resolve config sanitizing path).outcome =
      (Naming.resolve config sanitizing rule.keys rule.pattern path).outcome >>= rule.affix := by
  simp only [resolve, Trace.outcome_bind, Trace.outcome_lift]

theorem wellFormed_of_resolve {rule : NameRule} {config : Configuration} {sanitizing : Bool}
    {path : StoragePath} {name : String}
    (h : (rule.resolve config sanitizing path).outcome = .ok name) :
    Identifier.WellFormed name := by
  rw [outcome_resolve] at h
  obtain ⟨core, hcore, h⟩ := bind_eq_ok_iff.1 h
  exact wellFormed_of_affix (Naming.wellFormed_of_resolve hcore) h

end NameRule

namespace Policy

theorem outcome_tableFor (policy : Policy) (path : StoragePath) :
    (policy.tableFor path).outcome = do
      let database ← (policy.databaseName path).outcome
      let name ← (policy.tableName path).outcome
      let location ← policy.layout.tableLocation path
      return ⟨database, name, policy.format, location, policy.tableProperties,
        policy.storageProperties, policy.formatProperties⟩ := by
  simp only [tableFor, Trace.outcome_bind, Trace.outcome_lift, Trace.outcome_pure]
  rfl

theorem outcome_specs (policy : Policy) (path : StoragePath) :
    (policy.specs path).outcome = do
      let table ← (policy.tableFor path).outcome
      let partition ← policy.layout.partition path table
      let location ← path.location
      return [⟨location, table, partition⟩] := by
  simp only [specs, Trace.outcome_bind, Trace.outcome_lift, Trace.outcome_pure,
    Trace.outcome_record]
  rfl

theorem tableFor_eq_ok {policy : Policy} {path : StoragePath} {table : Table}
    (h : (policy.tableFor path).outcome = .ok table) :
    (policy.databaseName path).outcome = .ok table.database ∧
      (policy.tableName path).outcome = .ok table.name ∧
        policy.layout.tableLocation path = .ok table.location := by
  rw [outcome_tableFor] at h
  obtain ⟨database, hdatabase, h⟩ := bind_eq_ok_iff.1 h
  obtain ⟨name, hname, h⟩ := bind_eq_ok_iff.1 h
  obtain ⟨location, hlocation, h⟩ := bind_eq_ok_iff.1 h
  cases h
  exact ⟨hdatabase, hname, hlocation⟩

theorem specs_eq_ok {policy : Policy} {path : StoragePath} {specs : List Spec}
    (h : (policy.specs path).outcome = .ok specs) :
    ∃ spec, specs = [spec] ∧ path.location = .ok spec.path ∧
      (policy.tableFor path).outcome = .ok spec.table ∧
        policy.layout.partition path spec.table = .ok spec.partition := by
  rw [outcome_specs] at h
  obtain ⟨table, htable, h⟩ := bind_eq_ok_iff.1 h
  obtain ⟨partition, hpartition, h⟩ := bind_eq_ok_iff.1 h
  obtain ⟨location, hlocation, h⟩ := bind_eq_ok_iff.1 h
  cases h
  exact ⟨⟨location, table, partition⟩, rfl, hlocation, htable, hpartition⟩

theorem wellFormed_of_tableFor {policy : Policy} {path : StoragePath} {table : Table}
    (h : (policy.tableFor path).outcome = .ok table) :
    Identifier.WellFormed table.database ∧ Identifier.WellFormed table.name := by
  obtain ⟨hdatabase, hname, -⟩ := tableFor_eq_ok h
  exact ⟨NameRule.wellFormed_of_resolve hdatabase, NameRule.wellFormed_of_resolve hname⟩

/-- The names that are registered for a path are identifiers exactly as they are written, whatever
the policy, its literals, patterns and affixes, and whether or not it sanitizes. -/
theorem specs_wellFormed {policy : Policy} {path : StoragePath} {specs : List Spec}
    (h : (policy.specs path).outcome = .ok specs) :
    ∀ spec ∈ specs,
      Identifier.WellFormed spec.table.database ∧ Identifier.WellFormed spec.table.name := by
  obtain ⟨spec, rfl, -, htable, -⟩ := specs_eq_ok h
  intro other hother
  rw [List.mem_singleton.1 hother]
  exact wellFormed_of_tableFor htable

def kelvinConfiguration : Configuration :=
  ⟨.ofList [(Key.databaseRegex, "/(.)"), (Key.tableName, "1é"), (Key.tablePrefix, "K")]⟩

section

attribute [local instance] Host.bare

theorem specs_wellFormed_kelvin :
    ∃ policy spec, Registry.default.create "base" kelvinConfiguration = .ok policy ∧
      (policy.specs (.text "/K/x")).outcome = .ok [spec] ∧
        spec.table.database = "k" ∧ spec.table.name = "k1_" ∧
          Identifier.WellFormed spec.table.database ∧ Identifier.WellFormed spec.table.name := by
  have hrun : (do
      let policy ← Registry.default.create "base" kelvinConfiguration
      (policy.specs (.text "/K/x")).outcome : Except Fault (List Spec)).toOption =
        some [⟨"/K/x", ⟨"k", "k1_", .avro, "/K/x", .empty, .empty, .empty⟩, none⟩] := by
    decide +kernel
  obtain ⟨policy, hpolicy, hspecs⟩ := bind_eq_ok_iff.1 (toOption_eq_some_iff.1 hrun)
  exact ⟨policy, _, hpolicy, hspecs, rfl, rfl, specs_wellFormed hspecs _ (by simp)⟩

end

example : Identifier.isValid "K" = true ∧ Identifier.isIdentifier "K" = false := by
  decide +kernel

end Policy

end Registrar
