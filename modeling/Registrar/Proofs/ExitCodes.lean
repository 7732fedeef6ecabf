import Registrar.CommandLine.Standard
import Registrar.Proofs.Arguments
import Registrar.Proofs.PlanRuns

namespace Registrar

theorem Fault.isRegistration_of_isConfiguration {fault : Fault} (h : fault.isConfiguration = true) :
    fault.isRegistration = true := by
  cases fault <;> first | rfl | cases h

namespace CommandLine

section Quiet

variable {surroundings : Surroundings} {arguments : List String} {verbose : Bool}
  {request : PlanRequest} {fault : Fault}

theorem quiet_run [Host] [Libraries]
    (h : Command.read surroundings.environment arguments = .ok (verbose, .plan request)) :
    (run surroundings arguments).quiet = (request.run surroundings).quiet := by
  rw [run, h]
  cases verbose <;> rfl

structure Outcome.EndsWith (outcome : Outcome) (code : Nat) : Prop where
  crash : outcome.crash = none
  exitCode : outcome.exitCode = code

theorem Outcome.endsWith_finish (code : Nat) (output : String) :
    (finish code output).EndsWith code :=
  ⟨rfl, rfl⟩

theorem Outcome.endsWith_quiet_iff {outcome : Outcome} {code : Nat} :
    outcome.quiet.EndsWith code ↔ outcome.EndsWith code :=
  ⟨fun h ↦ ⟨h.crash, h.exitCode⟩, fun h ↦ ⟨h.crash, h.exitCode⟩⟩

theorem Outcome.endsWith_ofFault_of_isConfiguration [Console] (h : fault.isConfiguration = true) :
    (ofFault fault).EndsWith 2 := by
  rw [ofFault, if_pos (Fault.isRegistration_of_isConfiguration h), if_pos h]
  exact endsWith_finish _ _

theorem Outcome.endsWith_ofFault_of_isRegistration [Console]
    (h : fault.isRegistration = true) (hconfiguration : fault.isConfiguration = false) :
    (ofFault fault).EndsWith 1 := by
  rw [ofFault, if_pos h, hconfiguration]
  exact endsWith_finish _ _

theorem Outcome.exitCode_finish (code : Nat) (output : String) :
    (finish code output).exitCode = code :=
  rfl

theorem Outcome.exitCode_ofTrace_congr [Console] {α : Type} {trace : Trace α}
    {next other : α → Outcome}
    (h : ∀ a, (next a).exitCode = (other a).exitCode) :
    (ofTrace trace next).exitCode = (ofTrace trace other).exitCode := by
  unfold ofTrace
  cases trace.outcome with
  | ok a => exact h a
  | error fault => rfl

end Quiet

def Surroundings.Cancels (surroundings : Surroundings) (notice : String) : Prop :=
  ∃ prompt, surroundings.prompt = some prompt ∧
    prompt.choose surroundings.registry.names = .cancelled notice

namespace PlanRequest

variable {request : PlanRequest} {surroundings : Surroundings} {config : Configuration}
  {name : String} {code : Nat}

/-- Nobody names a policy, and the one who could be asked for one picks none. -/
structure Unpicked (request : PlanRequest) (surroundings : Surroundings) (config : Configuration) :
    Prop where
  unnamed : request.Unnamed config
  prompt : ∃ prompt, surroundings.prompt = some prompt ∧
    ∀ name, prompt.choose surroundings.registry.names ≠ .picked name

def bare (request : PlanRequest) : PlanRequest := { request with catalog := none, json := false }

theorem names_cases (request : PlanRequest) (surroundings : Surroundings) (config : Configuration) :
    (∃ name, request.Names surroundings config name) ∨
      request.Unnamed config ∧ surroundings.prompt = none ∨
      request.Unpicked surroundings config := by
  cases hname : request.policyName config with
  | some name =>
    rcases policyName_eq_some_iff.1 hname with ⟨h, hne⟩ | ⟨hrequest, h, hne⟩
    · exact .inl ⟨name, .requested h hne⟩
    · exact .inl ⟨name, .configured hrequest h hne⟩
  | none =>
    have hnone := policyName_eq_none_iff.1 hname
    cases hprompt : surroundings.prompt with
    | none => exact .inr (.inl ⟨hnone, rfl⟩)
    | some prompt =>
      by_cases hpicked : ∃ name, prompt.choose surroundings.registry.names = .picked name
      · obtain ⟨name, h⟩ := hpicked
        exact .inl ⟨name, .picked hnone hprompt h⟩
      · exact .inr (.inr ⟨hnone, prompt, hprompt, fun name h ↦ hpicked ⟨name, h⟩⟩)

section Ends

variable [Host]

/-- The ways in which a run ends, with their exit codes. -/
inductive Ends (request : PlanRequest) (surroundings : Surroundings) : Nat → Prop
  | unloaded {fault : Fault} (h : request.loaded surroundings.files = .error fault) :
      Ends request surroundings 2
  | unread {e : ConfigurationError} (h : PropertyText.parseOverrides request.overrides = .error e) :
      Ends request surroundings 2
  | unnamed {config : Configuration}
      (hconfig : (request.configuration surroundings.files).outcome = .ok config)
      (hname : request.Unnamed config) (hprompt : surroundings.prompt = none) :
      Ends request surroundings 2
  | unpicked {config : Configuration}
      (hconfig : (request.configuration surroundings.files).outcome = .ok config)
      (hname : request.Unpicked surroundings config) :
      Ends request surroundings 0
  | unresolved {config : Configuration} {name : String} {fault : Fault}
      (hconfig : (request.configuration surroundings.files).outcome = .ok config)
      (hname : request.Names surroundings config name)
      (hpolicy : (surroundings.registry.policyFor (config.withPolicy name)).outcome =
        .error fault) :
      Ends request surroundings 1
  | refused {config : Configuration} {name path : String} {policy : Policy} {fault : Fault}
      (hconfig : (request.configuration surroundings.files).outcome = .ok config)
      (hname : request.Names surroundings config name)
      (hpolicy : (surroundings.registry.policyFor (config.withPolicy name)).outcome = .ok policy)
      (hpath : path ∈ request.paths)
      (hspecs : (policy.specs (.text path)).outcome = .error fault) :
      Ends request surroundings 1
  | resolved {config : Configuration} {name : String} {policy : Policy}
      (hconfig : (request.configuration surroundings.files).outcome = .ok config)
      (hname : request.Names surroundings config name)
      (hpolicy : (surroundings.registry.policyFor (config.withPolicy name)).outcome = .ok policy)
      (hpaths : ∀ path ∈ request.paths, ∃ specs, (policy.specs (.text path)).outcome = .ok specs) :
      Ends request surroundings 0

theorem exists_ends_of_names
    (hconfig : (request.configuration surroundings.files).outcome = .ok config)
    (hname : request.Names surroundings config name) : ∃ code, request.Ends surroundings code := by
  cases hpolicy : (surroundings.registry.policyFor (config.withPolicy name)).outcome with
  | error fault => exact ⟨1, .unresolved hconfig hname hpolicy⟩
  | ok policy =>
    by_cases hpaths : ∀ path ∈ request.paths, ∃ specs,
        (policy.specs (.text path)).outcome = .ok specs
    · exact ⟨0, .resolved hconfig hname hpolicy hpaths⟩
    · push Not at hpaths
      obtain ⟨path, hpath, hspecs⟩ := hpaths
      cases hfault : (policy.specs (.text path)).outcome with
      | ok specs => exact absurd hfault (hspecs specs)
      | error fault => exact ⟨1, .refused hconfig hname hpolicy hpath hfault⟩

theorem exists_ends (request : PlanRequest) (surroundings : Surroundings) :
    ∃ code, request.Ends surroundings code := by
  cases hconfig : (request.configuration surroundings.files).outcome with
  | error fault =>
    rcases outcome_configuration_eq_error_iff.1 hconfig with h | ⟨file, e, -, h, -⟩
    · exact ⟨2, .unloaded h⟩
    · exact ⟨2, .unread h⟩
  | ok config =>
    rcases names_cases request surroundings config with ⟨name, hname⟩ | ⟨hname, hprompt⟩ | hname
    · exact exists_ends_of_names hconfig hname
    · exact ⟨2, .unnamed hconfig hname hprompt⟩
    · exact ⟨0, .unpicked hconfig hname⟩

theorem loaded_of_mem_events {files : Files.Source} {event : Event}
    (h : event ∈ (request.configuration files).events) :
    ∃ count path, event = .loaded count path := by
  unfold configuration at h
  cases hpath : request.configFile with
  | none => simp [hpath, -bind_pure_comp] at h
  | some path =>
    simp only [hpath, Configuration.load, Trace.mem_events_bind, Trace.events_lift,
      Trace.events_lift_configuration, Trace.events_pure, List.not_mem_nil, and_false, exists_false,
      or_false, false_or] at h
    obtain ⟨text, -, h⟩ := h
    split at h
    all_goals
      simp only [Trace.mem_events_bind, Trace.events_lift, Trace.events_lift_configuration,
        Trace.events_record, Trace.events_pure, List.not_mem_nil, List.mem_singleton, and_false,
        exists_false, or_false, false_or] at h
      obtain ⟨properties, -, rfl⟩ := h
      exact ⟨_, _, rfl⟩

/-- The faults of loading that are expected. -/
abbrev LoadsOrRefuses (request : PlanRequest) (files : Files.Source) : Prop :=
  ∀ fault, request.loaded files = .error fault → fault.isConfiguration = true

variable [Libraries]

theorem run_of_unpicked
    (hconfig : (request.configuration surroundings.files).outcome = .ok config)
    (h : request.Unpicked surroundings config) :
    ∃ notice, (notice = "" ∨ surroundings.Cancels notice) ∧
      request.run surroundings =
        { Outcome.finish 0 (notice ++ Message.warning "No policy selected.") with
          events := (request.configuration surroundings.files).events } := by
  obtain ⟨prompt, hprompt, hpick⟩ := h.prompt
  rw [run, Outcome.ofTrace, hconfig]
  dsimp only
  rw [policyName_eq_none_iff.2 h.unnamed, hprompt]
  dsimp only
  cases hchoice : prompt.choose surroundings.registry.names with
  | picked name => exact absurd hchoice (hpick name)
  | cancelled notice =>
    refine ⟨notice, .inr ⟨prompt, hprompt, hchoice⟩, ?_⟩
    dsimp only [Outcome.finish]
    rw [List.append_nil]
  | nothing =>
    refine ⟨"", .inl rfl, ?_⟩
    dsimp only [Outcome.finish]
    rw [List.append_nil, String.empty_append]

theorem endsWith_of_fault (hload : request.LoadsOrRefuses surroundings.files) {fault : Fault}
    (h : (request.configuration surroundings.files).outcome = .error fault) :
    (request.run surroundings).EndsWith 2 := by
  rw [← Outcome.endsWith_quiet_iff, quiet_run_of_error h]
  rcases outcome_configuration_eq_error_iff.1 h with h | ⟨file, e, -, -, rfl⟩
  · exact Outcome.endsWith_ofFault_of_isConfiguration (hload fault h)
  · exact Outcome.endsWith_ofFault_of_isConfiguration rfl

theorem endsWith_of_policy (hregistry : surroundings.registry.Sound) {policy : Policy}
    (hconfig : (request.configuration surroundings.files).outcome = .ok config)
    (hname : request.Names surroundings config name)
    (hpolicy : (surroundings.registry.policyFor (config.withPolicy name)).outcome = .ok policy) :
    (request.run surroundings).EndsWith
      (if (request.paths.map policy.entry).all (·.ok) then 0 else 1) := by
  have hplan := (hregistry.policy hpolicy).outcome_plan request.paths
  rw [← Outcome.endsWith_quiet_iff, quiet_run_of_names hconfig hname,
    quiet_runNamed_of_plan hpolicy hplan]
  exact Outcome.endsWith_finish _ _

theorem endsWith_of_ends (hregistry : surroundings.registry.Sound)
    (hload : request.LoadsOrRefuses surroundings.files) (h : request.Ends surroundings code) :
    (request.run surroundings).EndsWith code := by
  cases h with
  | unloaded h =>
    exact endsWith_of_fault hload (outcome_configuration_eq_error_iff.2 (.inl h))
  | unread h =>
    cases hloaded : request.loaded surroundings.files with
    | error fault =>
      exact endsWith_of_fault hload (outcome_configuration_eq_error_iff.2 (.inl hloaded))
    | ok file =>
      exact endsWith_of_fault hload
        (outcome_configuration_eq_error_iff.2 (.inr ⟨file, _, hloaded, h, rfl⟩))
  | unnamed hconfig hname hprompt =>
    rw [← Outcome.endsWith_quiet_iff, quiet_run_of_noTerminal hconfig hname hprompt]
    exact Outcome.endsWith_finish _ _
  | unpicked hconfig hname =>
    obtain ⟨notice, -, hrun⟩ := run_of_unpicked hconfig hname
    rw [hrun]
    exact ⟨rfl, rfl⟩
  | unresolved hconfig hname hpolicy =>
    obtain ⟨hkind, hconfiguration⟩ := Registry.kind_of_policyFor_error hpolicy
    rw [← Outcome.endsWith_quiet_iff, quiet_run_of_names hconfig hname,
      quiet_runNamed_of_error hpolicy]
    exact Outcome.endsWith_ofFault_of_isRegistration hkind hconfiguration
  | @refused _ _ path policy _ hconfig hname hpolicy hpath hspecs =>
    have hall := endsWith_of_policy hregistry hconfig hname hpolicy
    rwa [if_neg] at hall
    intro hok
    rw [List.all_map, List.all_eq_true] at hok
    obtain ⟨specs, hspecs'⟩ := (policy.ok_entry_iff path).1 (hok path hpath)
    rw [hspecs] at hspecs'
    cases hspecs'
  | resolved hconfig hname hpolicy hpaths =>
    have hall := endsWith_of_policy hregistry hconfig hname hpolicy
    rwa [if_pos] at hall
    simpa [Policy.ok_entry_iff] using hpaths

theorem exitCode_run_bare (request : PlanRequest)
    (surroundings : Surroundings) :
    (request.bare.run surroundings).exitCode = (request.run surroundings).exitCode := by
  have hnamed (config : Configuration) (name : String) :
      (request.bare.runNamed surroundings.registry config name).exitCode =
        (request.runNamed surroundings.registry config name).exitCode := by
    refine Outcome.exitCode_ofTrace_congr fun policy ↦ ?_
    refine Outcome.exitCode_ofTrace_congr fun results ↦ ?_
    exact (Outcome.exitCode_finish _ _).trans (Outcome.exitCode_finish _ _).symm
  refine Outcome.exitCode_ofTrace_congr fun config ↦ ?_
  rw [show request.bare.policyName config = request.policyName config from rfl]
  split
  · exact hnamed config _
  · rfl
  · dsimp only
    split
    · exact hnamed config _
    · rfl
    · rfl

end Ends

theorem bare_apply (request : PlanRequest) (item : PlanOption) :
    (item.apply request).bare =
      if item.isPolicy then item.apply request.bare else request.bare := by
  cases item <;> rfl

theorem bare_foldl_apply (options : List PlanOption) (request : PlanRequest) :
    (options.foldl PlanOption.apply request).bare =
      (options.filter (·.isPolicy)).foldl PlanOption.apply request.bare := by
  induction options generalizing request with
  | nil => rfl
  | cons item options ih =>
    rw [List.foldl_cons, ih, bare_apply]
    cases hitem : item.isPolicy with
    | true => simp [hitem]
    | false => simp [hitem]

theorem bare_ofOptions (settings : Command.PolicySettings) (options : List PlanOption)
    (paths : List String) :
    (ofOptions settings options paths).bare =
      { (options.filter (·.isPolicy)).foldl PlanOption.apply (ofSettings settings) with
        paths := paths } :=
  congrArg (fun request : PlanRequest ↦ { request with paths := paths })
    (bare_foldl_apply options (ofSettings settings))

end PlanRequest

section Runs

variable [Host] [Libraries] {surroundings : Surroundings} {arguments others : List String}
  {verbose verbose' : Bool}
  {request other : PlanRequest}

/-- A run that says that no policy is chosen, and has done no more than to load a configuration. -/
structure Outcome.PlansNothing [Console] (outcome : Outcome) (surroundings : Surroundings) :
    Prop where
  output : ∃ notice, (notice = "" ∨ surroundings.Cancels notice) ∧
    outcome.output = notice ++ Message.warning "No policy selected."
  events : ∀ event ∈ outcome.events, ∃ count path, event = .loaded count path

theorem plansNothing_run {config : Configuration}
    (h : Command.read surroundings.environment arguments = .ok (verbose, .plan request))
    (hconfig : (request.configuration surroundings.files).outcome = .ok config)
    (hname : request.Unpicked surroundings config) :
    (run surroundings arguments).PlansNothing surroundings := by
  obtain ⟨notice, hnotice, hrun⟩ := PlanRequest.run_of_unpicked hconfig hname
  have houtput := congrArg Outcome.output (quiet_run h)
  constructor
  · refine ⟨notice, hnotice, houtput.trans ?_⟩
    rw [hrun]
    rfl
  · intro event hevent
    rw [run, h] at hevent
    cases verbose with
    | false => cases hevent
    | true =>
      have hmem : event ∈ (request.run surroundings).events := hevent
      rw [hrun] at hmem
      exact PlanRequest.loaded_of_mem_events hmem

theorem exitCode_run
    (h : Command.read surroundings.environment arguments = .ok (verbose, .plan request)) :
    (run surroundings arguments).exitCode = (request.run surroundings).exitCode := by
  have hquiet := congrArg Outcome.exitCode (quiet_run h)
  exact hquiet

theorem exitCode_run_congr
    (h : Command.read surroundings.environment arguments = .ok (verbose, .plan request))
    (hother : Command.read surroundings.environment others = .ok (verbose', .plan other))
    (hbare : request.bare = other.bare) :
    (run surroundings arguments).exitCode = (run surroundings others).exitCode :=
  calc (run surroundings arguments).exitCode
    _ = (request.run surroundings).exitCode := exitCode_run h
    _ = (request.bare.run surroundings).exitCode := (request.exitCode_run_bare surroundings).symm
    _ = (other.bare.run surroundings).exitCode := by rw [hbare]
    _ = (other.run surroundings).exitCode := other.exitCode_run_bare surroundings
    _ = (run surroundings others).exitCode := (exitCode_run hother).symm

theorem exitCode_run_planArguments (hreader : OptionReader.Lawful) (surroundings : Surroundings)
    (groups : List GroupOption) {options others : List PlanOption} (paths : List String)
    (h : options.filter (·.isPolicy) = others.filter (·.isPolicy)) :
    (run surroundings (planArguments groups options paths)).exitCode =
      (run surroundings (planArguments groups others paths)).exitCode := by
  have hread := hreader.read_planArguments surroundings.environment groups options paths
  have hother := hreader.read_planArguments surroundings.environment groups others paths
  dsimp only at hread hother
  cases hcheck : (Command.PolicySettings.ofOptions surroundings.environment groups).configFile.forM
      (Command.checkPath surroundings.environment) with
  | error stop =>
    rw [hcheck, error_bind] at hread hother
    rw [run, run, hread, hother]
  | ok _ =>
    rw [hcheck, ok_bind] at hread hother
    by_cases hpaths : paths = []
    · rw [if_pos hpaths] at hread hother
      rw [run, run, hread, hother]
    · rw [if_neg hpaths] at hread hother
      refine exitCode_run_congr hread hother ?_
      rw [PlanRequest.bare_ofOptions, PlanRequest.bare_ofOptions, h]

/-- A run of a plan comes to one of its ends, whatever the arguments, the environment, the files and
the choice are: it does not crash, and its exit code is that of the end, if no more goes wrong with
the configuration file than what a configuration is refused for. Without a policy that is picked
nothing is planned, and how the plan is to be shown has no influence on the code. -/
theorem exitCode_run_plan :
    Registry.default.Sound ∧
    (∀ surroundings arguments verbose request, surroundings.registry.Sound →
      Command.read surroundings.environment arguments = .ok (verbose, .plan request) →
      request.LoadsOrRefuses surroundings.files →
        (run surroundings arguments).crash = none ∧
        (∀ code, (run surroundings arguments).exitCode = code ↔ request.Ends surroundings code) ∧
        ∀ config, (request.configuration surroundings.files).outcome = .ok config →
          request.Unpicked surroundings config →
            (run surroundings arguments).PlansNothing surroundings) ∧
    (∀ surroundings arguments others verbose verbose' request other,
      Command.read surroundings.environment arguments = .ok (verbose, .plan request) →
      Command.read surroundings.environment others = .ok (verbose', .plan other) →
      request.bare = other.bare →
        (run surroundings arguments).exitCode = (run surroundings others).exitCode) ∧
    (OptionReader.Lawful → ∀ surroundings groups options others paths,
      options.filter (·.isPolicy) = others.filter (·.isPolicy) →
        (run surroundings (planArguments groups options paths)).exitCode =
          (run surroundings (planArguments groups others paths)).exitCode) := by
  refine ⟨Registry.sound_default, ?_, ?_, ?_⟩
  · intro surroundings arguments verbose request hregistry hread hload
    have hends {code : Nat} (h : request.Ends surroundings code) :
        (run surroundings arguments).EndsWith code := by
      rw [← Outcome.endsWith_quiet_iff, quiet_run hread, Outcome.endsWith_quiet_iff]
      exact PlanRequest.endsWith_of_ends hregistry hload h
    obtain ⟨code, hcode⟩ := request.exists_ends surroundings
    refine ⟨(hends hcode).crash, fun other ↦ ⟨?_, fun h ↦ (hends h).exitCode⟩,
      fun config hconfig hname ↦ plansNothing_run hread hconfig hname⟩
    rintro rfl
    rwa [(hends hcode).exitCode]
  · intro surroundings arguments others verbose verbose' request other hread hother hbare
    exact exitCode_run_congr hread hother hbare
  · intro hreader surroundings groups options others paths h
    exact exitCode_run_planArguments hreader surroundings groups paths h

end Runs

section

attribute [local instance] Host.bare Libraries.standard

theorem exitCode_run_plan_partitioned :
    let environment : Environment := ⟨none, fun _ ↦ false⟩
    let surroundings : Surroundings :=
      ⟨environment, fun _ ↦ .error .notFound, .default, some (.ofKeys [])⟩
    ∃ request, Command.read environment (planArguments [] [.policy "partitioned", .json] ["/x"]) =
        .ok (false, .plan request) ∧
      (run surroundings (planArguments [] [.policy "partitioned", .json] ["/x"])).crash = none ∧
      (run surroundings (planArguments [] [.policy "partitioned", .json] ["/x"])).exitCode = 1 ∧
      request.Ends surroundings 1 ∧
      (run surroundings (planArguments [] [.catalog "c", .policy "partitioned"] ["/x"])).exitCode =
        1 := by
  intro environment surroundings
  have hread : Command.read environment (planArguments [] [.policy "partitioned", .json] ["/x"]) =
      .ok (false, .plan
        (.ofOptions (.ofOptions environment []) [.policy "partitioned", .json] ["/x"])) :=
    rfl
  have hcode : (run surroundings
      (planArguments [] [.policy "partitioned", .json] ["/x"])).exitCode = 1 := by
    decide +kernel
  obtain ⟨hsound, hruns, -, hshown⟩ := exitCode_run_plan
  obtain ⟨hcrash, hends, -⟩ := hruns surroundings _ _ _ hsound hread nofun
  have hoptions : [PlanOption.catalog "c", .policy "partitioned"].filter (·.isPolicy) =
      [PlanOption.policy "partitioned", .json].filter (·.isPolicy) := rfl
  exact ⟨_, hread, hcrash, hcode, (hends 1).1 hcode,
    (hshown (Reading.lawful_read _) surroundings [] _ _ ["/x"] hoptions).trans hcode⟩

end

end CommandLine

end Registrar
