import Registrar.Proofs.Layers
import Registrar.Proofs.Planning
import Registrar.Proofs.PolicyLookup

namespace Registrar

section Soundness

/-- Whatever policies a factory makes, no path ends a plan under them. -/
def Factory.Sound (factory : Factory) : Prop :=
  ∀ config policy, factory config = .ok (.policy policy) → policy.Sound

def Registry.Sound (registry : Registry) : Prop :=
  ∀ name factory, registry.factories.get? name = some factory → factory.Sound

theorem Factory.sound_ofLayout [Host] (layout : Layout) :
    (Factory.ofLayout layout).Sound := by
  intro config policy h
  obtain ⟨built, hbuilt, h⟩ := bind_eq_ok_iff.1 h
  cases h
  exact (Policy.build_eq_ok_iff.1 hbuilt).sound

theorem Factory.sound_partitioned [Host] : Factory.partitioned.Sound := by
  intro config policy h
  obtain ⟨pattern, -, h⟩ := bind_eq_ok_iff.1 h
  obtain ⟨built, hbuilt, h⟩ := bind_eq_ok_iff.1 h
  cases h
  exact (Policy.build_eq_ok_iff.1 hbuilt).sound

theorem Registry.sound_default [Host] : Registry.default.Sound := by
  intro name factory h
  rcases get?_default_cases h with ⟨-, rfl⟩ | ⟨-, rfl⟩ | ⟨-, rfl⟩
  · exact Factory.sound_ofLayout .flat
  · exact Factory.sound_ofLayout .parentDirectory
  · exact Factory.sound_partitioned

namespace Registry

variable {registry : Registry} {config : Configuration} {name : String}

theorem create_withPolicy (registry : Registry) (config : Configuration) (name : String) :
    (registry.policyFor (config.withPolicy name)).outcome =
      registry.create (Text.trim name) (config.withPolicy name) :=
  outcome_policyFor_of_some (by rw [Configuration.get?_withPolicy, if_pos rfl]) registry

theorem Sound.policy (h : registry.Sound) {policy : Policy}
    (hpolicy : (registry.policyFor (config.withPolicy name)).outcome = .ok policy) :
    policy.Sound := by
  rw [create_withPolicy] at hpolicy
  obtain ⟨factory, hfactory, hmade⟩ := create_eq_ok_iff.1 hpolicy
  exact h _ factory hfactory _ policy hmade

theorem kind_of_policyFor_error {fault : Fault}
    (h : (registry.policyFor (config.withPolicy name)).outcome = .error fault) :
    fault.isRegistration = true ∧ fault.isConfiguration = false := by
  rw [create_withPolicy] at h
  rcases create_eq_error_iff.1 h with ⟨-, rfl⟩ | ⟨factory, -, ⟨cause, -, rfl⟩ | ⟨kind, -, rfl⟩⟩
  · exact ⟨rfl, rfl⟩
  · exact ⟨rfl, rfl⟩
  · exact ⟨rfl, rfl⟩

end Registry

end Soundness

section Plans

variable {policy : Policy} {locations : List String} {results : List PlanResult} {fault : Fault}

theorem Policy.planPath_eq_ok {location : String} {result : PlanResult}
    (h : (policy.planPath (.text location)).outcome = .ok result) :
    result = policy.entry location := by
  unfold planPath at h
  unfold entry
  dsimp only at h
  cases hspecs : (policy.specs (.text location)).outcome with
  | ok specs =>
    rw [hspecs] at h
    exact (Except.ok.inj h).symm
  | error fault =>
    rw [hspecs] at h
    dsimp only at h
    split at h
    · exact (Except.ok.inj h).symm
    · cases h

theorem Policy.planPath_eq_error {location : String}
    (h : (policy.planPath (.text location)).outcome = .error fault) :
    fault.isRegistration = false := by
  unfold planPath at h
  dsimp only at h
  split at h
  · cases h
  · rename_i other hother
    split at h
    · cases h
    · rename_i hkind
      cases h
      exact Bool.not_eq_true _ ▸ hkind

theorem Policy.plan_eq_ok (h : (policy.plan (locations.map .text)).outcome = .ok results) :
    results = locations.map policy.entry := by
  rw [plan, Trace.outcome_mapM] at h
  induction locations generalizing results with
  | nil => exact (Except.ok.inj h).symm
  | cons location rest ih =>
    rw [List.map_cons, List.mapM_cons] at h
    obtain ⟨first, hfirst, h⟩ := bind_eq_ok_iff.1 h
    obtain ⟨more, hmore, h⟩ := bind_eq_ok_iff.1 h
    obtain rfl := Except.ok.inj h
    rw [List.map_cons, planPath_eq_ok hfirst, ih hmore]

theorem Policy.plan_eq_error (h : (policy.plan (locations.map .text)).outcome = .error fault) :
    fault.isRegistration = false := by
  rw [plan, Trace.outcome_mapM] at h
  induction locations with
  | nil => cases h
  | cons location rest ih =>
    rw [List.map_cons, List.mapM_cons] at h
    rcases bind_eq_error_iff.1 h with hfirst | ⟨first, -, h⟩
    · exact planPath_eq_error hfirst
    · rcases bind_eq_error_iff.1 h with hmore | ⟨more, -, h⟩
      · exact ih hmore
      · cases h

theorem Policy.ok_entry_iff (policy : Policy) (location : String) :
    (policy.entry location).ok = true ↔
      ∃ specs, (policy.specs (.text location)).outcome = .ok specs := by
  unfold entry PlanResult.ok
  cases (policy.specs (.text location)).outcome <;> simp

end Plans

namespace CommandLine

namespace Outcome

def quiet (outcome : Outcome) : Outcome := { outcome with events := [] }

variable [Console] {α : Type} {trace : Trace α} {next : α → Outcome} {fault : Fault}

theorem quiet_ofFault (fault : Fault) : (ofFault fault).quiet = ofFault fault := by
  unfold ofFault
  split <;> rfl

theorem quiet_ofTrace_of_ok {a : α} (h : trace.outcome = .ok a) :
    (ofTrace trace next).quiet = (next a).quiet := by
  unfold ofTrace
  rw [h]
  rfl

theorem quiet_ofTrace_of_error (h : trace.outcome = .error fault) :
    (ofTrace trace next).quiet = ofFault fault := by
  unfold ofTrace
  rw [h]
  exact quiet_ofFault fault

end Outcome

namespace PlanRequest

variable {request : PlanRequest} {surroundings : Surroundings} {config : Configuration}
  {name : String} {policy : Policy} {results : List PlanResult} {fault : Fault}

/-- Neither the request nor the configuration names a policy. An empty name does not count. -/
structure Unnamed (request : PlanRequest) (config : Configuration) : Prop where
  request : ∀ name, request.policy = some name → name = ""
  config : ∀ name, config.get? Key.policy = some name → name = ""

/-- Where the name of the policy comes from: the request, or else the configuration, or else a
choice among the names that are registered. -/
inductive Names (request : PlanRequest) (surroundings : Surroundings) (config : Configuration) :
    String → Prop
  | requested {name : String} (h : request.policy = some name) (hname : name ≠ "") :
      Names request surroundings config name
  | configured {name : String} (hrequest : ∀ other, request.policy = some other → other = "")
      (h : config.get? Key.policy = some name) (hname : name ≠ "") :
      Names request surroundings config name
  | picked {name : String} {prompt : Prompt} (hnone : request.Unnamed config)
      (hprompt : surroundings.prompt = some prompt)
      (h : prompt.choose surroundings.registry.names = .picked name) :
      Names request surroundings config name

theorem filter_eq_none_iff {text : Option String} :
    text.filter (· ≠ "") = none ↔ ∀ name, text = some name → name = "" := by
  cases text <;> simp

theorem filter_eq_some_iff {text : Option String} :
    text.filter (· ≠ "") = some name ↔ text = some name ∧ name ≠ "" := by
  simp [Option.filter_eq_some_iff]

theorem policyName_eq_none_iff : request.policyName config = none ↔ request.Unnamed config := by
  rw [policyName, Option.orElse_eq_or, Option.or_eq_none_iff, filter_eq_none_iff,
    filter_eq_none_iff]
  exact ⟨fun h ↦ ⟨h.1, h.2⟩, fun h ↦ ⟨h.request, h.config⟩⟩

theorem policyName_eq_some_iff : request.policyName config = some name ↔
    request.policy = some name ∧ name ≠ "" ∨
      (∀ other, request.policy = some other → other = "") ∧
        config.get? Key.policy = some name ∧ name ≠ "" := by
  rw [policyName, Option.orElse_eq_or, Option.or_eq_some_iff, filter_eq_some_iff,
    filter_eq_none_iff, filter_eq_some_iff]

section Runs

variable [Libraries]

theorem quiet_runNamed_of_error {registry : Registry}
    (h : (registry.policyFor (config.withPolicy name)).outcome = .error fault) :
    (request.runNamed registry config name).quiet = Outcome.ofFault fault :=
  Outcome.quiet_ofTrace_of_error h

theorem quiet_runNamed_of_plan_error {registry : Registry}
    (h : (registry.policyFor (config.withPolicy name)).outcome = .ok policy)
    (hplan : (policy.plan (request.paths.map .text)).outcome = .error fault) :
    (request.runNamed registry config name).quiet = Outcome.ofFault fault := by
  rw [runNamed]
  exact (Outcome.quiet_ofTrace_of_ok h).trans (Outcome.quiet_ofTrace_of_error hplan)

theorem quiet_runNamed_of_plan {registry : Registry}
    (h : (registry.policyFor (config.withPolicy name)).outcome = .ok policy)
    (hplan : (policy.plan (request.paths.map .text)).outcome = .ok results) :
    (request.runNamed registry config name).quiet =
      .finish (if results.all (·.ok) then 0 else 1) (request.report name results) := by
  rw [runNamed]
  exact (Outcome.quiet_ofTrace_of_ok h).trans (Outcome.quiet_ofTrace_of_ok hplan)

variable [Host]

theorem quiet_run_of_error
    (h : (request.configuration surroundings.files).outcome = .error fault) :
    (request.run surroundings).quiet = Outcome.ofFault fault :=
  Outcome.quiet_ofTrace_of_error h

theorem quiet_run_of_names
    (h : (request.configuration surroundings.files).outcome = .ok config)
    (hname : request.Names surroundings config name) :
    (request.run surroundings).quiet =
      (request.runNamed surroundings.registry config name).quiet := by
  rw [run, Outcome.quiet_ofTrace_of_ok h]
  cases hname with
  | requested hrequest hne =>
    rw [policyName_eq_some_iff.2 (.inl ⟨hrequest, hne⟩)]
  | configured hrequest hconfig hne =>
    rw [policyName_eq_some_iff.2 (.inr ⟨hrequest, hconfig, hne⟩)]
  | picked hnone hprompt hpicked =>
    rw [policyName_eq_none_iff.2 hnone, hprompt]
    dsimp only
    rw [hpicked]

theorem quiet_run_of_noTerminal
    (h : (request.configuration surroundings.files).outcome = .ok config)
    (hname : request.Unnamed config) (hprompt : surroundings.prompt = none) :
    (request.run surroundings).quiet =
      .finish Outcome.configurationCode (Message.failure nameNeeded) := by
  rw [run, Outcome.quiet_ofTrace_of_ok h, policyName_eq_none_iff.2 hname, hprompt]
  rfl

end Runs

end PlanRequest

end CommandLine

end Registrar
