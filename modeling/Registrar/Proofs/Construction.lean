import Registrar.Proofs.OrderedMaps
import Registrar.Proofs.Outcomes
import Registrar.Registry

namespace Registrar

@[simp] theorem lift_eq_mapError {α : Type} (x : Except ConfigurationError α) :
    (liftM x : Except Fault α) = x.mapError .configuration := rfl

theorem mapError_configuration_ne {α : Type} {x : Except ConfigurationError α} {fault : Fault}
    (hf : fault.isConfiguration = false) : x.mapError .configuration ≠ .error fault := by
  intro h
  obtain ⟨e, -, rfl⟩ := mapError_eq_error_iff.1 h
  cases hf

abbrev NameKeys.database : NameKeys := ⟨Key.databaseName, Key.databaseRegex⟩

abbrev NameKeys.table : NameKeys := ⟨Key.tableName, Key.tableRegex⟩

namespace Pattern

variable [Host]

def Error.isMalformed : Error → Bool
  | malformed .. => true
  | _ => false

/-- Reading a text as a pattern stops with a fault although no rule of the language is broken. -/
def Breaks (source : String) (fault : Fault) : Prop :=
  ∃ e, compile source = .error e ∧ e.isMalformed = false ∧ fault = .pattern e

theorem Breaks.isConfiguration {source : String} {fault : Fault} (h : Breaks source fault) :
    fault.isConfiguration = false := by
  obtain ⟨e, -, -, rfl⟩ := h
  rfl

end Pattern

namespace Naming

variable [Host]

theorem compileUnder_eq_error_iff {key source : String} {fault : Fault}
    (hf : fault.isConfiguration = false) :
    compileUnder key source = .error fault ↔ Pattern.Breaks source fault := by
  rw [compileUnder, mapError_eq_error_iff]
  constructor
  · rintro ⟨e, he, rfl⟩
    cases e with
    | malformed => cases hf
    | _ => exact ⟨_, he, rfl, rfl⟩
  · rintro ⟨e, he, hm, rfl⟩
    refine ⟨e, he, ?_⟩
    cases e with
    | malformed => cases hm
    | _ => rfl

/-- The text that is read as the pattern for a name; a literal name masks it. -/
def source? (config : Configuration) (keys : NameKeys) : Option String :=
  if config.contains keys.name then none else config.get? keys.regex

def grouped (key source : String) (pattern : Pattern) : Except Fault (Option Pattern) :=
  if pattern.groupCount = 0 then .error (.configuration (.patternWithoutGroup key source))
  else .ok (some pattern)

theorem pattern?_eq (config : Configuration) (keys : NameKeys) :
    pattern? config keys = match source? config keys with
      | none => .ok none
      | some source => compileUnder keys.regex source >>= grouped keys.regex source := by
  unfold pattern? source?
  cases config.get? keys.regex with
  | none =>
    simp only [ite_self]
    rfl
  | some source =>
    by_cases hc : config.contains keys.name = true
    · simp only [hc, if_true]
      rfl
    · simp only [hc, if_false, Bool.false_eq_true]
      refine bind_congr fun pattern ↦ ?_
      unfold grouped
      split <;> rfl

theorem groupCount_of_pattern? {config : Configuration} {keys : NameKeys} {pattern : Pattern}
    (h : pattern? config keys = .ok (some pattern)) : pattern.groupCount ≠ 0 := by
  rw [pattern?_eq] at h
  split at h
  · cases h
  · obtain ⟨read, -, h⟩ := bind_eq_ok_iff.1 h
    unfold grouped at h
    split at h
    · cases h
    · rename_i hg
      cases h
      exact hg

def Breaks (config : Configuration) (keys : NameKeys) (fault : Fault) : Prop :=
  ∃ source, source? config keys = some source ∧ Pattern.Breaks source fault

theorem pattern?_eq_error_iff {config : Configuration} {keys : NameKeys} {fault : Fault}
    (hf : fault.isConfiguration = false) :
    pattern? config keys = .error fault ↔ Breaks config keys fault := by
  have hgrouped (source : String) (pattern : Pattern) :
      grouped keys.regex source pattern ≠ .error fault := by
    unfold grouped
    split
    · intro h
      cases h
      cases hf
    · exact nofun
  rw [pattern?_eq, Breaks]
  cases source? config keys with
  | none => simp
  | some source => simp [bind_eq_error_iff, hgrouped, compileUnder_eq_error_iff hf]

end Naming

namespace NameRule

variable [Host]

theorem ofConfiguration_eq_ok_iff {config : Configuration} {keys : NameKeys}
    {headKey tailKey : String} {rule : NameRule} :
    ofConfiguration config keys headKey tailKey = .ok rule ↔
      ∃ pattern, Naming.pattern? config keys = .ok pattern ∧ rule =
        ⟨keys, headKey, tailKey, pattern, config.getD headKey "", config.getD tailKey ""⟩ := by
  rw [ofConfiguration, bind_eq_ok_iff]
  exact exists_congr fun pattern ↦ and_congr_right fun _ ↦
    ⟨fun h ↦ (Except.ok.inj h).symm, fun h ↦ congrArg _ h.symm⟩

theorem ofConfiguration_eq_error_iff {config : Configuration} {keys : NameKeys}
    {headKey tailKey : String} {fault : Fault} :
    ofConfiguration config keys headKey tailKey = .error fault ↔
      Naming.pattern? config keys = .error fault := by
  rw [ofConfiguration, bind_eq_error_iff]
  exact or_iff_left fun ⟨_, _, h⟩ ↦ nomatch h

end NameRule

namespace Policy

variable [Host]

/-- What a policy is built of: each part is what the configuration gives under its keys. -/
structure BuiltFrom (config : Configuration) (layout : Layout) (policy : Policy) : Prop where
  title_eq : policy.title = defaultTitle
  config_eq : policy.config = config
  layout_eq : policy.layout = layout
  sanitizing : config.getBool Key.sanitizing true = .ok policy.sanitizing
  database : NameRule.ofConfiguration config .database Key.databasePrefix Key.databaseSuffix =
    .ok policy.database
  table : NameRule.ofConfiguration config .table Key.tablePrefix Key.tableSuffix =
    .ok policy.table
  format : Format.ofConfiguration config = .ok policy.format
  tableProperties : config.getBag Key.tableProperties = .ok policy.tableProperties
  storageProperties : config.getBag Key.storageProperties = .ok policy.storageProperties
  formatProperties : config.getBag Key.formatProperties = .ok policy.formatProperties

theorem build_eq_ok_iff {config : Configuration} {layout : Layout} {policy : Policy} :
    build config layout = .ok policy ↔ BuiltFrom config layout policy := by
  simp only [build, lift_eq_mapError, bind_eq_ok_iff, mapError_eq_ok_iff]
  constructor
  · rintro ⟨sanitizing, hsanitizing, database, hdatabase, table, htable, format, hformat,
      tableProperties, htp, storageProperties, hsp, formatProperties, hfp, h⟩
    cases h
    exact ⟨rfl, rfl, rfl, hsanitizing, hdatabase, htable, hformat, htp, hsp, hfp⟩
  · intro h
    refine ⟨_, h.sanitizing, _, h.database, _, h.table, _, h.format, _, h.tableProperties, _,
      h.storageProperties, _, h.formatProperties, ?_⟩
    rw [← h.title_eq, ← h.config_eq, ← h.layout_eq]
    rfl

theorem build_eq_error_iff {config : Configuration} {layout : Layout} {fault : Fault}
    (hf : fault.isConfiguration = false) :
    build config layout = .error fault ↔
      (∃ sanitizing, config.getBool Key.sanitizing true = .ok sanitizing) ∧
        (Naming.pattern? config .database = .error fault ∨
          (∃ pattern, Naming.pattern? config .database = .ok pattern) ∧
            Naming.pattern? config .table = .error fault) := by
  simp only [build, lift_eq_mapError, bind_eq_error_iff, mapError_eq_ok_iff,
    mapError_configuration_ne hf, false_or, NameRule.ofConfiguration_eq_error_iff,
    NameRule.ofConfiguration_eq_ok_iff]
  constructor
  · rintro ⟨sanitizing, hsanitizing, h | ⟨database, ⟨pattern, hdatabase, -⟩, h⟩⟩
    · exact ⟨⟨sanitizing, hsanitizing⟩, .inl h⟩
    · rcases h with h | ⟨table, -, format, -, tp, -, sp, -, fp, -, h⟩
      · exact ⟨⟨sanitizing, hsanitizing⟩, .inr ⟨⟨pattern, hdatabase⟩, h⟩⟩
      · cases h
  · rintro ⟨⟨sanitizing, hsanitizing⟩, h | ⟨⟨pattern, hdatabase⟩, h⟩⟩
    · exact ⟨sanitizing, hsanitizing, .inl h⟩
    · exact ⟨sanitizing, hsanitizing, .inr ⟨_, ⟨pattern, hdatabase, rfl⟩, .inl h⟩⟩

end Policy

theorem PartitionPattern.ofConfiguration_eq_error_iff [Host] {config : Configuration}
    {fault : Fault}
    (hf : fault.isConfiguration = false) :
    PartitionPattern.ofConfiguration config = .error fault ↔
      ∃ source, config.get? Key.partitionRegex = some source ∧ Pattern.Breaks source fault := by
  unfold PartitionPattern.ofConfiguration
  cases config.get? Key.partitionRegex with
  | none =>
    simp only [reduceCtorEq, false_and, exists_false, iff_false]
    intro h
    cases h
    cases hf
  | some source =>
    simp [bind_eq_error_iff, mapError_configuration_ne hf, Naming.compileUnder_eq_error_iff hf]

def Factory.make (factory : Factory) (name : String) (config : Configuration) :
    Except Fault Policy :=
  match factory config with
  | .error cause => .error (.policyFailed name cause)
  | .ok (.policy policy) => .ok policy
  | .ok (.other kind) => .error (.notAPolicy name kind)

namespace Factory

variable {factory : Factory} {name : String} {config : Configuration}

theorem make_eq_ok_iff {policy : Policy} :
    factory.make name config = .ok policy ↔ factory config = .ok (.policy policy) := by
  unfold make
  cases factory config with
  | error cause => simp
  | ok product => cases product <;> simp

theorem make_eq_error_iff {fault : Fault} :
    factory.make name config = .error fault ↔
      (∃ cause, factory config = .error cause ∧ fault = .policyFailed name cause) ∨
        ∃ kind, factory config = .ok (.other kind) ∧ fault = .notAPolicy name kind := by
  unfold make
  cases factory config with
  | error cause => simp [eq_comm]
  | ok product => cases product <;> simp [eq_comm]

end Factory

namespace Registry

inductive BuiltInLayout [Host] (config : Configuration) : Layout → Prop
  | flat : BuiltInLayout config .flat
  | parentDirectory : BuiltInLayout config .parentDirectory
  | partitioned {pattern : PartitionPattern} :
      PartitionPattern.ofConfiguration config = .ok pattern →
      BuiltInLayout config (.partitioned pattern)

theorem entries_default [Host] : default.factories.entries =
    [("base", Factory.ofLayout .flat), ("parent_directory", Factory.ofLayout .parentDirectory),
      ("partitioned", Factory.partitioned)] := rfl

theorem get?_default_cases [Host] {name : String} {factory : Factory}
    (h : default.factories.get? name = some factory) :
    (name = "base" ∧ factory = Factory.ofLayout .flat) ∨
      (name = "parent_directory" ∧ factory = Factory.ofLayout .parentDirectory) ∨
        name = "partitioned" ∧ factory = Factory.partitioned := by
  have hmem : (name, factory) ∈ default.factories.entries := OrderedMap.mem_of_lookup h
  rw [entries_default] at hmem
  simpa only [List.mem_cons, Prod.mk.injEq, List.not_mem_nil, or_false] using hmem

theorem policyFor_eq (registry : Registry) (config : Configuration) :
    registry.policyFor config = match config.get? Key.policy with
      | none => .fail (.configuration (.missing .policy))
      | some raw =>
        ⟨[.resolvingPolicy (Text.trim raw)], registry.create (Text.trim raw) config⟩ := by
  unfold policyFor
  cases config.get? Key.policy <;> rfl

theorem create_eq (registry : Registry) (name : String) (config : Configuration) :
    registry.create name config = match registry.factories.get? name with
      | none => .error (.unknownPolicy name registry.names)
      | some factory => Factory.make factory name config := by
  unfold create Factory.make
  cases registry.factories.get? name <;> rfl

theorem create_eq_ok_iff {registry : Registry} {name : String} {config : Configuration}
    {policy : Policy} :
    registry.create name config = .ok policy ↔ ∃ factory,
      registry.factories.get? name = some factory ∧ factory config = .ok (.policy policy) := by
  rw [create_eq]
  cases registry.factories.get? name with
  | none => simp
  | some factory => simp [Factory.make_eq_ok_iff]

inductive NamedLayout [Host] (config : Configuration) : String → Layout → Prop
  | base : NamedLayout config "base" .flat
  | parentDirectory : NamedLayout config "parent_directory" .parentDirectory
  | partitioned {pattern : PartitionPattern} :
      PartitionPattern.ofConfiguration config = .ok pattern →
      NamedLayout config "partitioned" (.partitioned pattern)

theorem create_default_named [Host] {name : String} {config : Configuration}
    {policy : Policy}
    (h : default.create name config = .ok policy) :
    ∃ layout, NamedLayout config name layout ∧ Policy.BuiltFrom config layout policy := by
  obtain ⟨factory, hfactory, hp⟩ := create_eq_ok_iff.1 h
  rcases get?_default_cases hfactory with ⟨rfl, rfl⟩ | ⟨rfl, rfl⟩ | ⟨rfl, rfl⟩
  · obtain ⟨built, hb, hp⟩ := bind_eq_ok_iff.1 hp
    cases hp
    exact ⟨_, .base, Policy.build_eq_ok_iff.1 hb⟩
  · obtain ⟨built, hb, hp⟩ := bind_eq_ok_iff.1 hp
    cases hp
    exact ⟨_, .parentDirectory, Policy.build_eq_ok_iff.1 hb⟩
  · obtain ⟨pattern, hpattern, hp⟩ := bind_eq_ok_iff.1 hp
    obtain ⟨built, hb, hp⟩ := bind_eq_ok_iff.1 hp
    cases hp
    exact ⟨_, .partitioned hpattern, Policy.build_eq_ok_iff.1 hb⟩

theorem create_default_eq_ok [Host] {name : String} {config : Configuration}
    {policy : Policy}
    (h : default.create name config = .ok policy) :
    ∃ layout, BuiltInLayout config layout ∧ Policy.BuiltFrom config layout policy := by
  obtain ⟨layout, hlayout, hb⟩ := create_default_named h
  refine ⟨layout, ?_, hb⟩
  cases hlayout with
  | base => exact .flat
  | parentDirectory => exact .parentDirectory
  | partitioned hpattern => exact .partitioned hpattern

end Registry

/-- Construction fails with nothing but faults of the configuration, except that reading a pattern
may stop on a text which breaks no rule of the language: a count of too many digits or a count or a
code point that is too large, flags that exclude each other, or groups nested so deeply that the
stack ends. Such a fault goes through exactly if nothing is wrong with what is read before that
pattern. -/
theorem construction_fault_iff [Host] (config : Configuration) (fault : Fault) :
    (∀ layout, Policy.build config layout = .error fault ∧ fault.isConfiguration = false ↔
      (∃ sanitizing, config.getBool Key.sanitizing true = .ok sanitizing) ∧
        (Naming.Breaks config .database fault ∨
          (∃ pattern, Naming.pattern? config .database = .ok pattern) ∧
            Naming.Breaks config .table fault)) ∧
    (PartitionPattern.ofConfiguration config = .error fault ∧ fault.isConfiguration = false ↔
      ∃ source, config.get? Key.partitionRegex = some source ∧ Pattern.Breaks source fault) := by
  refine ⟨fun layout ↦ ⟨?_, ?_⟩, ?_, ?_⟩
  · rintro ⟨h, hf⟩
    rw [Policy.build_eq_error_iff hf] at h
    simpa only [Naming.pattern?_eq_error_iff hf] using h
  · intro h
    have hf : fault.isConfiguration = false := by
      rcases h with ⟨-, ⟨_, -, h⟩ | ⟨-, ⟨_, -, h⟩⟩⟩ <;> exact h.isConfiguration
    rw [Policy.build_eq_error_iff hf]
    simp only [Naming.pattern?_eq_error_iff hf]
    exact ⟨h, hf⟩
  · rintro ⟨h, hf⟩
    exact (PartitionPattern.ofConfiguration_eq_error_iff hf).1 h
  · rintro ⟨source, hsource, h⟩
    exact ⟨(PartitionPattern.ofConfiguration_eq_error_iff h.isConfiguration).2
      ⟨source, hsource, h⟩, h.isConfiguration⟩

section

attribute [local instance] Host.bare

-- A mark that makes a repetition lazy may not be followed by one that makes it possessive.
example :
    (Policy.build ⟨.ofList [(Key.databaseRegex, "(a*?+)"), (Key.tableRegex, "(a{4294967295})")]⟩
      .flat).map (fun _ ↦ ()) =
      .error (.configuration
        (.malformedPattern Key.databaseRegex "(a*?+)" .multipleRepeat (some 4))) := by
  decide +kernel

def hugeCount : Configuration :=
  ⟨.ofList [(Key.databaseRegex, "(a{4294967295})"), (Key.tableName, "t")]⟩

theorem build_hugeCount :
    Policy.build hugeCount .flat = .error (.pattern .countTooLarge) ∧
      (Fault.pattern .countTooLarge).isConfiguration = false := by
  have hcompile : Pattern.compile "(a{4294967295})" = .error .countTooLarge := by
    have hrun : (match Pattern.compile "(a{4294967295})" with
        | .ok _ => none
        | .error e => some e) = some .countTooLarge := by
      decide +kernel
    split at hrun
    · cases hrun
    · rename_i he
      rw [he, Option.some.inj hrun]
  have hbreaks : Naming.Breaks hugeCount .database (.pattern .countTooLarge) :=
    ⟨"(a{4294967295})", by decide +kernel, .countTooLarge, hcompile, rfl, rfl⟩
  refine ⟨(Policy.build_eq_error_iff rfl).2 ⟨⟨true, rfl⟩, .inl ?_⟩, rfl⟩
  exact (Naming.pattern?_eq_error_iff rfl).2 hbreaks

end

end Registrar
