import Registrar.Proofs.Construction
import Registrar.Proofs.Resolution

namespace Registrar

namespace Key

def declared : List String :=
  [databaseName, databaseRegex, databasePrefix, databaseSuffix, tableName, tableRegex, tablePrefix,
    tableSuffix, sanitizing, policy, format, tableProperties, storageProperties, formatProperties,
    partitionRegex]

/-- The declared keys other than those of patterns for names, which may be masked, and the one that
decides whether names are sanitized. -/
def plain : List String := declared.filter (· ∉ [databaseRegex, tableRegex, sanitizing])

end Key

variable {config other : Configuration}

namespace Configuration

variable {key : String}

theorem contains_congr (h : config.get? key = other.get? key) :
    config.contains key = other.contains key :=
  congrArg Option.isSome h

theorem getD_congr (h : config.get? key = other.get? key) (fallback : String) :
    config.getD key fallback = other.getD key fallback :=
  congrArg (Option.getD · fallback) h

theorem getBool_congr (h : config.get? key = other.get? key) (fallback : Bool) :
    config.getBool key fallback = other.getBool key fallback := by
  rw [getBool, getBool, h]

theorem getBag_congr (h : config.get? key = other.get? key) :
    config.getBag key = other.getBag key := by
  rw [getBag, getBag, getD_congr h]

end Configuration

namespace Naming

/-- Two configurations name alike: they give the same literal name or, without one, the same
pattern. -/
structure Alike (config other : Configuration) (keys : NameKeys) : Prop where
  name : config.get? keys.name = other.get? keys.name
  regex : config.contains keys.name = false → config.get? keys.regex = other.get? keys.regex

variable {keys : NameKeys}

theorem Alike.source?_eq (h : Alike config other keys) :
    source? config keys = source? other keys := by
  have hcontains := Configuration.contains_congr h.name
  rw [source?, source?, ← hcontains]
  split
  · rfl
  · rename_i hliteral
    exact h.regex (Bool.eq_false_of_not_eq_true hliteral)

theorem Alike.pattern?_eq [Host] (h : Alike config other keys) :
    pattern? config keys = pattern? other keys := by
  rw [Naming.pattern?_eq, Naming.pattern?_eq, h.source?_eq]

theorem Alike.rawName_eq (h : Alike config other keys) (pattern : Option Pattern)
    (path : StoragePath) :
    rawName config keys pattern path = rawName other keys pattern path := by
  unfold rawName
  rw [h.name]

theorem Alike.resolve_eq (h : Alike config other keys) (sanitizing : Bool)
    (pattern : Option Pattern) (path : StoragePath) :
    resolve config sanitizing keys pattern path = resolve other sanitizing keys pattern path := by
  rw [resolve, resolve, h.rawName_eq]

end Naming

namespace NameRule

variable [Host]

theorem ofConfiguration_congr {keys : NameKeys} {headKey tailKey : String}
    (h : Naming.Alike config other keys) (hhead : config.get? headKey = other.get? headKey)
    (htail : config.get? tailKey = other.get? tailKey) :
    ofConfiguration config keys headKey tailKey = ofConfiguration other keys headKey tailKey := by
  rw [ofConfiguration, ofConfiguration, h.pattern?_eq, Configuration.getD_congr hhead,
    Configuration.getD_congr htail]

theorem resolve_congr {keys : NameKeys} {headKey tailKey : String} {rule : NameRule}
    (hrule : ofConfiguration config keys headKey tailKey = .ok rule)
    (h : Naming.Alike config other keys) (sanitizing : Bool) (path : StoragePath) :
    rule.resolve config sanitizing path = rule.resolve other sanitizing path := by
  obtain ⟨pattern, -, rfl⟩ := ofConfiguration_eq_ok_iff.1 hrule
  rw [resolve, resolve, h.resolve_eq]

end NameRule

theorem Format.ofConfiguration_congr (h : config.get? Key.format = other.get? Key.format) :
    ofConfiguration config = ofConfiguration other := by
  rw [ofConfiguration, ofConfiguration, Configuration.getD_congr h]

theorem PartitionPattern.ofConfiguration_congr [Host]
    (h : config.get? Key.partitionRegex = other.get? Key.partitionRegex) :
    ofConfiguration config = ofConfiguration other := by
  rw [ofConfiguration, ofConfiguration, h]

/-- Two configurations are alike in all that counts, sanitizing apart. -/
structure Configuration.Alike (config other : Configuration) : Prop where
  plain : ∀ key ∈ Key.plain, config.get? key = other.get? key
  database : Naming.Alike config other .database
  table : Naming.Alike config other .table

namespace Policy

/-- The policy for another configuration, with another choice about sanitizing. -/
def adapt (choice : Bool → Bool) (other : Configuration) (policy : Policy) : Policy :=
  { policy with config := other, sanitizing := choice policy.sanitizing }

variable [Host] {choice : Bool → Bool}

theorem build_adapt (h : config.Alike other)
    (hchoice : other.getBool Key.sanitizing true =
      choice <$> config.getBool Key.sanitizing true) (layout : Layout) :
    build other layout = adapt choice other <$> build config layout := by
  have hplain (key : String) (hkey : key ∈ Key.plain) : other.get? key = config.get? key :=
    (h.plain key hkey).symm
  have hdatabase := NameRule.ofConfiguration_congr h.database
    (h.plain Key.databasePrefix (by decide)) (h.plain Key.databaseSuffix (by decide))
  have htable := NameRule.ofConfiguration_congr h.table
    (h.plain Key.tablePrefix (by decide)) (h.plain Key.tableSuffix (by decide))
  have hformat := Format.ofConfiguration_congr (hplain Key.format (by decide))
  have hbag (key : String) (hkey : key ∈ Key.plain) : other.getBag key = config.getBag key :=
    Configuration.getBag_congr (hplain key hkey)
  have hsanitizing : (liftM (other.getBool Key.sanitizing true) : Except Fault Bool) =
      choice <$> (liftM (config.getBool Key.sanitizing true) : Except Fault Bool) := by
    rw [hchoice]
    cases config.getBool Key.sanitizing true <;> rfl
  rw [build, build, hsanitizing, ← hdatabase, ← htable, hformat,
    hbag Key.tableProperties (by decide), hbag Key.storageProperties (by decide),
    hbag Key.formatProperties (by decide)]
  simp only [bind_map_left, map_bind, map_pure]
  rfl

theorem BuiltFrom.databaseName_adapt {layout : Layout} {policy : Policy}
    (hb : BuiltFrom config layout policy) (h : config.Alike other) (path : StoragePath) :
    (policy.adapt choice other).databaseName path =
      policy.database.resolve config (choice policy.sanitizing) path :=
  (NameRule.resolve_congr hb.database h.database (choice policy.sanitizing) path).symm

theorem BuiltFrom.tableName_adapt {layout : Layout} {policy : Policy}
    (hb : BuiltFrom config layout policy) (h : config.Alike other) (path : StoragePath) :
    (policy.adapt choice other).tableName path =
      policy.table.resolve config (choice policy.sanitizing) path :=
  (NameRule.resolve_congr hb.table h.table (choice policy.sanitizing) path).symm

theorem BuiltFrom.specs_adapt {layout : Layout} {policy : Policy}
    (hb : BuiltFrom config layout policy) (h : config.Alike other) (path : StoragePath) :
    (policy.adapt id other).specs path = policy.specs path := by
  have hdatabase : (policy.adapt id other).databaseName path = policy.databaseName path := by
    rw [hb.databaseName_adapt h, databaseName, hb.config_eq]
    rfl
  have htable : (policy.adapt id other).tableName path = policy.tableName path := by
    rw [hb.tableName_adapt h, tableName, hb.config_eq]
    rfl
  rw [specs, specs, tableFor, tableFor, hdatabase, htable]
  rfl

end Policy

def Product.adapt (choice : Bool → Bool) (other : Configuration) : Product → Product
  | .policy made => .policy (made.adapt choice other)
  | .other kind => .other kind

namespace Factory

variable [Host] {choice : Bool → Bool}

theorem ofLayout_adapt (h : config.Alike other)
    (hchoice : other.getBool Key.sanitizing true =
      choice <$> config.getBool Key.sanitizing true) (layout : Layout) :
    ofLayout layout other = Product.adapt choice other <$> ofLayout layout config := by
  rw [ofLayout, ofLayout, Policy.build_adapt h hchoice]
  simp only [bind_map_left, map_bind, map_pure]
  rfl

theorem partitioned_adapt (h : config.Alike other)
    (hchoice : other.getBool Key.sanitizing true =
      choice <$> config.getBool Key.sanitizing true) :
    partitioned other = Product.adapt choice other <$> partitioned config := by
  have hpattern := PartitionPattern.ofConfiguration_congr
    (h.plain Key.partitionRegex (by decide))
  rw [partitioned, partitioned, ← hpattern, map_bind]
  exact bind_congr fun pattern ↦ ofLayout_adapt h hchoice (.partitioned pattern)

end Factory

namespace Registry

section Lookup

variable [Host] {choice : Bool → Bool}

theorem create_adapt (h : config.Alike other)
    (hchoice : other.getBool Key.sanitizing true =
      choice <$> config.getBool Key.sanitizing true) (name : String) :
    default.create name other = Policy.adapt choice other <$> default.create name config := by
  rw [create, create]
  cases hfactory : default.factories.get? name with
  | none => rfl
  | some factory =>
    have hadapt : factory other = Product.adapt choice other <$> factory config := by
      rcases get?_default_cases hfactory with ⟨-, rfl⟩ | ⟨-, rfl⟩ | ⟨-, rfl⟩
      · exact Factory.ofLayout_adapt h hchoice .flat
      · exact Factory.ofLayout_adapt h hchoice .parentDirectory
      · exact Factory.partitioned_adapt h hchoice
    simp only [hadapt]
    cases factory config with
    | error cause => rfl
    | ok product => cases product <;> rfl

theorem policyFor_adapt (h : config.Alike other)
    (hchoice : other.getBool Key.sanitizing true =
      choice <$> config.getBool Key.sanitizing true) :
    default.policyFor other = ⟨(default.policyFor config).events,
      Policy.adapt choice other <$> (default.policyFor config).outcome⟩ := by
  rw [policyFor_eq, policyFor_eq, ← h.plain Key.policy (by decide)]
  cases config.get? Key.policy with
  | none => rfl
  | some raw => simp only [create_adapt h hchoice]

theorem builtFrom_of_policyFor {policy : Policy}
    (h : (default.policyFor config).outcome = .ok policy) :
    ∃ layout, Policy.BuiltFrom config layout policy := by
  rw [policyFor_eq] at h
  cases hraw : config.get? Key.policy with
  | none =>
    rw [hraw] at h
    cases h
  | some raw =>
    rw [hraw] at h
    obtain ⟨layout, -, hb⟩ := create_default_eq_ok h
    exact ⟨layout, hb⟩

/-- Where there is a literal name, the pattern for it does not count, be it malformed, without
groups or absent, and whatever is not declared never counts: no policy can be made with either
configuration, for the same reason, or the policies do the same for every path. -/
theorem policyFor_eq_of_masked
    (hdeclared : ∀ key ∈ Key.declared, key ∉ [Key.databaseRegex, Key.tableRegex] →
      config.get? key = other.get? key)
    (hdatabase : config.contains Key.databaseName = false →
      config.get? Key.databaseRegex = other.get? Key.databaseRegex)
    (htable : config.contains Key.tableName = false →
      config.get? Key.tableRegex = other.get? Key.tableRegex) :
    (default.policyFor config).events = (default.policyFor other).events ∧
      ((∃ fault, (default.policyFor config).outcome = .error fault ∧
          (default.policyFor other).outcome = .error fault) ∨
        ∃ policy policy', (default.policyFor config).outcome = .ok policy ∧
          (default.policyFor other).outcome = .ok policy' ∧
            ∀ path, policy.specs path = policy'.specs path) := by
  have halike : config.Alike other := by
    constructor
    · intro key hkey
      obtain ⟨hmem, hmasked⟩ := List.mem_filter.1 hkey
      refine hdeclared key hmem ?_
      intro hregex
      exact of_decide_eq_true hmasked (List.mem_append_left [Key.sanitizing] hregex)
    · exact ⟨hdeclared _ (by decide) (by decide), hdatabase⟩
    · exact ⟨hdeclared _ (by decide) (by decide), htable⟩
  have hchoice : other.getBool Key.sanitizing true =
      id <$> config.getBool Key.sanitizing true := by
    rw [id_map, Configuration.getBool_congr (hdeclared Key.sanitizing (by decide) (by decide))]
  have hadapt := policyFor_adapt halike hchoice
  rw [hadapt]
  refine ⟨rfl, ?_⟩
  cases hmade : (default.policyFor config).outcome with
  | error fault => exact .inl ⟨fault, rfl, rfl⟩
  | ok policy =>
    obtain ⟨layout, hb⟩ := builtFrom_of_policyFor hmade
    refine .inr ⟨policy, policy.adapt id other, rfl, rfl, ?_⟩
    intro path
    exact (hb.specs_adapt halike path).symm

end Lookup

def unmaskedConfiguration : Configuration :=
  ⟨.ofList [(Key.policy, " base"), (Key.databaseName, "d"), (Key.tableRegex, "/(.)$")]⟩

def maskedConfiguration : Configuration :=
  ⟨.ofList [("table.prefix", "x"), (Key.databaseRegex, "("), (Key.tableRegex, "/(.)$"),
    (Key.policy, " base"), (Key.databaseName, "d")]⟩

section

attribute [local instance] Host.bare

theorem policyFor_eq_of_masked_malformed :
    ∃ policy policy', (default.policyFor maskedConfiguration).outcome = .ok policy ∧
      (default.policyFor unmaskedConfiguration).outcome = .ok policy' ∧
        ∀ path, policy.specs path = policy'.specs path := by
  have hdeclared : ∀ key ∈ Key.declared, key ∉ [Key.databaseRegex, Key.tableRegex] →
      maskedConfiguration.get? key = unmaskedConfiguration.get? key := by
    decide +kernel
  have hmade : ((default.policyFor maskedConfiguration).outcome.toOption).isSome = true := by
    decide +kernel
  obtain ⟨-, ⟨fault, hfault, -⟩ | hpolicies⟩ := policyFor_eq_of_masked hdeclared
    (fun habsent ↦ absurd habsent (by decide +kernel)) (fun _ ↦ by decide +kernel)
  · rw [hfault] at hmade
    cases hmade
  · exact hpolicies

end

end Registry

end Registrar
