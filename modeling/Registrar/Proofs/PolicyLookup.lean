import Registrar.Proofs.Construction
import Registrar.Proofs.RegistryRuns

namespace Registrar

namespace Registry

variable {registry : Registry} {name raw : String} {factory : Factory} {config : Configuration}

section Creation

theorem create_of_none (h : registry.factories.get? name = none) (config : Configuration) :
    registry.create name config = .error (.unknownPolicy name registry.names) := by
  rw [create_eq, h]

theorem create_of_some (h : registry.factories.get? name = some factory)
    (config : Configuration) : registry.create name config = factory.make name config := by
  rw [create_eq, h]

theorem create_eq_error_iff {fault : Fault} :
    registry.create name config = .error fault ↔
      (registry.factories.get? name = none ∧ fault = .unknownPolicy name registry.names) ∨
        ∃ factory, registry.factories.get? name = some factory ∧
          ((∃ cause, factory config = .error cause ∧ fault = .policyFailed name cause) ∨
            ∃ kind, factory config = .ok (.other kind) ∧ fault = .notAPolicy name kind) := by
  cases hget : registry.factories.get? name with
  | none =>
    rw [create_of_none hget]
    simp [eq_comm]
  | some factory =>
    rw [create_of_some hget, Factory.make_eq_error_iff]
    simp

theorem policyFor_of_none (h : config.get? Key.policy = none) (registry : Registry) :
    registry.policyFor config = .fail (.configuration (.missing .policy)) := by
  rw [policyFor_eq, h]

theorem outcome_policyFor_of_some (h : config.get? Key.policy = some raw) (registry : Registry) :
    (registry.policyFor config).outcome = registry.create (Text.trim raw) config := by
  rw [policyFor_eq, h]

end Creation

section Names

/-- A registry uses a factory for a name, be the name given to it or written in a configuration. -/
structure Serves (registry : Registry) (name : String) (factory : Factory) : Prop where
  contains : registry.contains name = true
  create : ∀ config, registry.create name config = factory.make name config
  policyFor : ∀ config, config.get? Key.policy = some name →
    (registry.policyFor config).outcome = factory.make (Text.trim name) config

structure Lacks (registry : Registry) (name : String) : Prop where
  contains : registry.contains name = false
  create : ∀ config,
    registry.create name config = .error (.unknownPolicy name registry.names)
  policyFor : ∀ config, config.get? Key.policy = some name →
    (registry.policyFor config).outcome = .error (.unknownPolicy (Text.trim name) registry.names)

theorem serves_of_get? (hname : Text.Trimmed name)
    (h : registry.factories.get? name = some factory) : registry.Serves name factory where
  contains := OrderedMap.contains_iff.2 ⟨factory, h⟩
  create config := create_of_some h config
  policyFor config hconfig := by
    rw [outcome_policyFor_of_some hconfig, Text.trimmed_iff.1 hname, create_of_some h]

theorem lacks_of_get? (hname : Text.Trimmed name) (h : registry.factories.get? name = none) :
    registry.Lacks name where
  contains := OrderedMap.contains_eq_false_iff.2 h
  create config := create_of_none h config
  policyFor config hconfig := by
    rw [outcome_policyFor_of_some hconfig, Text.trimmed_iff.1 hname, create_of_none h]

theorem not_lacks_of_get? (h : registry.factories.get? (Text.trim name) = some factory) :
    ¬registry.Lacks name := by
  intro hlacks
  have hconfig : (⟨.ofList [(Key.policy, name)]⟩ : Configuration).get? Key.policy = some name := rfl
  have hunknown := hlacks.policyFor _ hconfig
  rw [outcome_policyFor_of_some hconfig, create_of_some h, Factory.make_eq_error_iff] at hunknown
  rcases hunknown with ⟨cause, -, hfault⟩ | ⟨kind, -, hfault⟩ <;> cases hfault

theorem Orderly.notMem_of_not_trimmed (h : registry.Orderly) (hname : ¬Text.Trimmed name) :
    name ∉ registry.factories.keys :=
  fun hmem ↦ hname (h.trimmed name hmem)

theorem unregister_of_notMem (h : name ∉ registry.factories.keys) :
    registry.unregister name = registry := by
  rw [unregister, OrderedMap.erase_of_notMem h]

/-- A name that has been registered is known, and unknown again once it is unregistered, exactly if
it has no blanks at its ends. Otherwise only a configuration may name it so: to the registry itself
the name is unknown, and unregistering it changes nothing. -/
theorem register_serves_iff (calls : List Call) {replace : Bool} {next : Registry}
    (h : (run calls).register name factory replace = .ok next) :
    (next.Serves name factory ↔ Text.Trimmed name) ∧
    ((next.unregister name).Lacks name ↔ Text.Trimmed name) ∧
    next.Serves (Text.trim name) factory ∧
    (next.unregister (Text.trim name)).Lacks (Text.trim name) ∧
    (¬Text.Trimmed name → next.contains name = false ∧
      (∀ config, next.create name config = .error (.unknownPolicy name next.names)) ∧
      (∀ config, config.get? Key.policy = some name →
        (next.policyFor config).outcome = factory.make (Text.trim name) config) ∧
      next.unregister name = next) := by
  have hregisters := registers_of_ok h .done
  have horderly : next.Orderly := (orderly_run calls).of_registers hregisters
  have hstored : next.factories.get? (Text.trim name) = some factory := by
    cases hregisters with
    | stored hname hfree hnext => exact hnext.entry
  have habsent (hname : ¬Text.Trimmed name) : next.factories.get? name = none :=
    OrderedMap.get?_eq_none_iff.2 (horderly.notMem_of_not_trimmed hname)
  have hkept (hname : ¬Text.Trimmed name) : next.unregister name = next :=
    unregister_of_notMem (horderly.notMem_of_not_trimmed hname)
  refine ⟨⟨?_, ?_⟩, ⟨?_, ?_⟩, ?_, ?_, ?_⟩
  · intro hserves
    by_contra hname
    have hcontains : next.contains name = false :=
      OrderedMap.contains_eq_false_iff.2 (habsent hname)
    rw [hserves.contains] at hcontains
    cases hcontains
  · intro hname
    exact serves_of_get? hname (Text.trimmed_iff.1 hname ▸ hstored)
  · intro hlacks
    by_contra hname
    rw [hkept hname] at hlacks
    exact not_lacks_of_get? hstored hlacks
  · intro hname
    exact lacks_of_get? hname (next.sets_unregister name).entry
  · exact serves_of_get? (Text.trimmed_trim name) hstored
  · exact lacks_of_get? (Text.trimmed_trim name) (next.sets_unregister _).entry
  · intro hname
    refine ⟨OrderedMap.contains_eq_false_iff.2 (habsent hname), create_of_none (habsent hname),
      ?_, hkept hname⟩
    intro config hconfig
    rw [outcome_policyFor_of_some hconfig, create_of_some hstored]

section

attribute [local instance] Host.bare

theorem register_serves_iff_padded :
    ∃ next, (run [.register "mine" Factory.partitioned false, .unregister " mine"]).register
        "\u2003mine\n" (Factory.ofLayout .flat) true = .ok next ∧
      ¬next.Serves "\u2003mine\n" (Factory.ofLayout .flat) ∧
      ¬(next.unregister "\u2003mine\n").Lacks "\u2003mine\n" ∧
      next.Serves "mine" (Factory.ofLayout .flat) ∧ (next.unregister "mine").Lacks "mine" := by
  have hpadded : ¬Text.Trimmed "\u2003mine\n" := by
    rw [Text.trimmed_iff]
    decide +kernel
  have htrim : Text.trim "\u2003mine\n" = "mine" := by decide +kernel
  obtain ⟨hserves, hlacks, hmine, hlost, -⟩ := register_serves_iff
    [.register "mine" Factory.partitioned false, .unregister " mine"]
    (show (run _).register "\u2003mine\n" (Factory.ofLayout .flat) true = .ok _ from rfl)
  rw [htrim] at hmine hlost
  exact ⟨_, rfl, hpadded ∘ hserves.1, hpadded ∘ hlacks.1, hmine, hlost⟩

end

section

attribute [local instance] Host.bare

/-- A name with blanks is unknown as soon as it has been registered, and still stands for the policy
in a configuration after it has been unregistered. -/
theorem register_padded :
    ∃ next policy, empty.register " mine " (Factory.ofLayout .flat) false = .ok next ∧
      next.contains " mine " = false ∧
      next.create " mine " .empty = .error (.unknownPolicy " mine " next.names) ∧
      ((next.unregister " mine ").policyFor ⟨.ofList [(Key.policy, " mine ")]⟩).outcome =
        .ok policy :=
  ⟨_, _, rfl, rfl, rfl, rfl⟩

end

end Names

section Outcomes

/-- What may come of a name that a configuration asks for: the policy that the factory under the
name makes of the configuration, or a fault that says which name it was, and for which cause if the
factory has stopped with one. -/
structure Resolves (registry : Registry) (name : String) (config : Configuration)
    (outcome : Except Fault Policy) : Prop where
  ok_iff : ∀ policy, outcome = .ok policy ↔
    ∃ factory, registry.factories.get? name = some factory ∧ factory config = .ok (.policy policy)
  resolution : ∀ fault, outcome = .error fault → ∃ cause, fault.resolution? = some (name, cause)
  caused_iff : ∀ cause,
    (∃ fault, outcome = .error fault ∧ fault.resolution? = some (name, some cause)) ↔
      ∃ factory, registry.factories.get? name = some factory ∧ factory config = .error cause
  uncaused_iff :
    (∃ fault, outcome = .error fault ∧ fault.resolution? = some (name, none)) ↔
      registry.factories.get? name = none ∨ ∃ factory kind,
        registry.factories.get? name = some factory ∧ factory config = .ok (.other kind)

theorem resolves_create (registry : Registry) (name : String) (config : Configuration) :
    registry.Resolves name config (registry.create name config) where
  ok_iff _ := create_eq_ok_iff
  resolution fault hfault := by
    rcases create_eq_error_iff.1 hfault with
      ⟨-, rfl⟩ | ⟨factory, -, ⟨cause, -, rfl⟩ | ⟨kind, -, rfl⟩⟩
    · exact ⟨none, rfl⟩
    · exact ⟨some cause, rfl⟩
    · exact ⟨none, rfl⟩
  caused_iff cause := by
    constructor
    · rintro ⟨fault, hfault, hcause⟩
      rcases create_eq_error_iff.1 hfault with
        ⟨-, rfl⟩ | ⟨factory, hget, ⟨raised, hraised, rfl⟩ | ⟨kind, -, rfl⟩⟩
      · cases hcause
      · cases hcause
        exact ⟨factory, hget, hraised⟩
      · cases hcause
    · rintro ⟨factory, hget, hraised⟩
      exact ⟨_, create_eq_error_iff.2 (.inr ⟨factory, hget, .inl ⟨cause, hraised, rfl⟩⟩), rfl⟩
  uncaused_iff := by
    constructor
    · rintro ⟨fault, hfault, hcause⟩
      rcases create_eq_error_iff.1 hfault with
        ⟨hnone, rfl⟩ | ⟨factory, hget, ⟨raised, -, rfl⟩ | ⟨kind, hkind, rfl⟩⟩
      · exact .inl hnone
      · cases hcause
      · exact .inr ⟨factory, kind, hget, hkind⟩
    · rintro (hnone | ⟨factory, kind, hget, hkind⟩)
      · exact ⟨_, create_eq_error_iff.2 (.inl ⟨hnone, rfl⟩), rfl⟩
      · exact ⟨_, create_eq_error_iff.2 (.inr ⟨factory, hget, .inr ⟨kind, hkind, rfl⟩⟩), rfl⟩

/-- A configuration that names no policy is refused whatever is registered. For any other one it is
the factory under its name that decides, and a fault names the policy and its factory's own
fault. -/
theorem policyFor_outcomes (calls : List Call) (config : Configuration) :
    ((∃ e, ((run calls).policyFor config).outcome = .error (.configuration e)) ↔
      config.get? Key.policy = none) ∧
    (config.get? Key.policy = none → ∃ need : MissingProperty,
      need.keys = ["registration.policy"] ∧
        ∀ registry : Registry, registry.policyFor config = .fail (.configuration (.missing need))) ∧
    ∀ raw, config.get? Key.policy = some raw →
      (run calls).Resolves (Text.trim raw) config ((run calls).policyFor config).outcome ∧
      (Text.trim raw = "" →
        ((run calls).policyFor config).outcome = .error (.unknownPolicy "" (run calls).names)) := by
  refine ⟨⟨?_, ?_⟩, ?_, ?_⟩
  · rintro ⟨e, he⟩
    rw [Option.eq_none_iff_forall_ne_some]
    intro raw hraw
    rw [outcome_policyFor_of_some hraw] at he
    obtain ⟨cause, hcause⟩ := (resolves_create _ _ _).resolution _ he
    cases hcause
  · intro hnone
    exact ⟨.missing .policy, by rw [policyFor_of_none hnone]; rfl⟩
  · intro hnone
    exact ⟨.policy, rfl, policyFor_of_none hnone⟩
  · intro raw hraw
    rw [outcome_policyFor_of_some hraw]
    refine ⟨resolves_create _ _ _, ?_⟩
    intro hblank
    have hnone : (run calls).factories.get? "" = none :=
      OrderedMap.get?_eq_none_iff.2 fun hmem ↦ (orderly_run calls).nonempty "" hmem rfl
    rw [hblank, create_of_none hnone]

def failingCalls [Host] : List Call :=
  [.register "base " (Factory.ofLayout .flat) false,
    .declare "other" (fun _ ↦ .ok (.other "object")) false,
    .register "\tfailing" (fun config ↦ .error (.absentKey (config.getD Key.format ""))) false,
    .register "\u3000" Factory.partitioned true]

def failingConfiguration : Configuration :=
  ⟨.ofList [(Key.policy, "failing "), (Key.format, "x")]⟩

section

attribute [local instance] Host.bare

theorem policyFor_outcomes_failing :
    ∃ fault, ((run failingCalls).policyFor failingConfiguration).outcome = .error fault ∧
      fault.resolution? = some ("failing", some (.absentKey "x")) := by
  have houtcomes := (policyFor_outcomes failingCalls failingConfiguration).2.2 "failing " rfl
  have htrim : Text.trim "failing " = "failing" := by decide +kernel
  rw [htrim] at houtcomes
  exact (houtcomes.1.caused_iff (.absentKey "x")).2 ⟨_, rfl, rfl⟩

end

end Outcomes

end Registry

end Registrar
