import Registrar.Proofs.Encoding
import Registrar.Proofs.ExitCodes
import Registrar.Proofs.JsonPrinting

namespace Registrar

section Exactness

open Json

theorem Bag.exact_toJson (bag : Bag) : (Bag.toJson bag).Exact := by
  refine .object fun member hmember ↦ ?_
  obtain ⟨entry, -, rfl⟩ := List.mem_map.1 hmember
  exact .text entry.2

def CatalogClient.Exact [CatalogClient] : Prop := ∀ info, (CatalogClient.toJson info).Exact

theorem TableInfo.exact_toJson (info : TableInfo) : info.toJson.Exact := by
  refine .object fun member hmember ↦ ?_
  simp only [List.mem_append, List.mem_map, List.mem_cons, List.not_mem_nil, or_false] at hmember
  rcases hmember with ((⟨catalog, -, rfl⟩ | rfl | rfl | rfl) | hproperties) | rfl | rfl | rfl
  · exact .text _
  · exact .text _
  · exact .text _
  · exact .text _
  · split at hproperties
    · cases hproperties
    · obtain rfl := List.mem_singleton.1 hproperties
      exact Bag.exact_toJson _
  · exact .text _
  · exact .text _
  · exact .text _

theorem Table.exact_toJson (table : Table) : table.toJson.Exact := by
  have hbuckets : ShortInteger Table.buckets := by
    unfold ShortInteger
    decide
  refine .object ?_
  simp only [List.forall_mem_cons, List.not_mem_nil, false_imp_iff, implies_true, and_true]
  exact ⟨.text _, .text _, .text _, .text _, Bag.exact_toJson _, Bag.exact_toJson _,
    Bag.exact_toJson _, .integer hbuckets, .text _⟩

theorem Partition.exact_toJson (partition : Partition) : partition.toJson.Exact := by
  refine .object ?_
  simp only [List.forall_mem_cons, List.not_mem_nil, false_imp_iff, implies_true, and_true]
  exact ⟨Bag.exact_toJson _, .text _⟩

theorem Spec.exact_of_mem_members {spec : Spec} {member : String × Value}
    (h : member ∈ spec.members) : member.2.Exact := by
  simp only [members, List.mem_cons, List.not_mem_nil, or_false] at h
  rcases h with rfl | rfl | rfl
  · exact .text _
  · exact Table.exact_toJson _
  · dsimp only
    split
    · exact Partition.exact_toJson _
    · exact .null

end Exactness

namespace CommandLine

open Json

section Reports

variable [CatalogClient]

theorem exact_specJson (hclient : CatalogClient.Exact) (catalog : Option String) (spec : Spec) :
    (specJson catalog spec).Exact := by
  refine .object fun member hmember ↦ ?_
  rcases List.mem_append.1 hmember with h | h
  · exact Spec.exact_of_mem_members h
  · obtain rfl := List.mem_singleton.1 h
    exact hclient _

theorem exact_resultJson (hclient : CatalogClient.Exact) (catalog : Option String)
    (result : PlanResult) :
    (resultJson catalog result).Exact := by
  have hspecs : (Value.array (result.specs.map (specJson catalog))).Exact := by
    refine .array fun item hitem ↦ ?_
    obtain ⟨spec, -, rfl⟩ := List.mem_map.1 hitem
    exact exact_specJson hclient catalog spec
  refine .object ?_
  simp only [List.forall_mem_cons, List.not_mem_nil, false_imp_iff, implies_true, and_true]
  refine ⟨.text _, ?_, hspecs⟩
  split
  · exact .text _
  · exact .null

theorem exact_planJson (hclient : CatalogClient.Exact) (catalog : Option String)
    (results : List PlanResult) : (planJson catalog results).Exact := by
  refine .array fun item hitem ↦ ?_
  obtain ⟨result, -, rfl⟩ := List.mem_map.1 hitem
  exact exact_resultJson hclient catalog result

omit [CatalogClient] in
theorem read_jsonLine [Host] {value : Value} (h : value.Exact) :
    Json.read (jsonLine value) = .ok value.sorted := by
  refine read_render h fun c hc ↦ ?_
  obtain rfl := List.mem_singleton.1 hc
  rfl

theorem read_planJson [Host] (hclient : CatalogClient.Exact) (catalog : Option String)
    (results : List PlanResult) :
    Json.read (jsonLine (planJson catalog results)) =
      .ok (.array (results.map fun result ↦ (resultJson catalog result).sorted)) := by
  rw [read_jsonLine (exact_planJson hclient catalog results), planJson, sorted_array, List.map_map]
  rfl

def extended (value : Value) (name : String) (item : Value) : Value :=
  match value with
  | .object members => .object (members ++ [(name, item)])
  | value => value

/-- What is printed for a path under a policy: that it has specs, or what is wrong with it. -/
def pathJson (policy : Policy) (catalog : Option String) (path : String) : Value :=
  match (policy.specs (.text path)).outcome with
  | .ok specs => .object [("path", .text path), ("error", .null),
      ("specs", .array (specs.map fun spec ↦
        extended spec.toJson "table_info" (CatalogClient.toJson (spec.tableInfo catalog))))]
  | .error fault =>
    .object [("path", .text path), ("error", .text fault.message), ("specs", .array [])]

theorem resultJson_entry (policy : Policy) (catalog : Option String) (path : String) :
    resultJson catalog (policy.entry path) = pathJson policy catalog path := by
  unfold Policy.entry pathJson
  cases (policy.specs (.text path)).outcome <;> rfl

end Reports

section Runs

variable [Host] [Libraries]

/-- A run that shows the plan of a policy for the paths of a request. -/
structure PlanRequest.Shows (request : PlanRequest) (name : String) (policy : Policy)
    (outcome : Outcome) : Prop where
  planned : ∀ results, (policy.plan (request.paths.map .text)).outcome = .ok results →
    outcome.crash = none ∧ outcome.output = request.report name results ∧
      outcome.exitCode = if results.all (·.ok) then 0 else 1
  json : CatalogClient.Exact → ∀ results,
    (policy.plan (request.paths.map .text)).outcome = .ok results → request.json = true →
      Json.read outcome.output =
        .ok (.array (request.paths.map fun path ↦ (pathJson policy request.catalog path).sorted))
  faulty : ∀ fault, (policy.plan (request.paths.map .text)).outcome = .error fault →
    outcome.crash = some (.fault fault)

theorem PlanRequest.shows_quiet_iff {request : PlanRequest} {name : String} {policy : Policy}
    {outcome : Outcome} :
    request.Shows name policy outcome.quiet ↔ request.Shows name policy outcome :=
  ⟨fun h ↦ ⟨h.planned, h.json, h.faulty⟩, fun h ↦ ⟨h.planned, h.json, h.faulty⟩⟩

theorem PlanRequest.shows_runNamed (request : PlanRequest) {registry : Registry}
    {config : Configuration} {name : String} {policy : Policy}
    (h : (registry.policyFor (config.withPolicy name)).outcome = .ok policy) :
    request.Shows name policy (request.runNamed registry config name) := by
  rw [← shows_quiet_iff]
  constructor
  · intro results hplan
    rw [quiet_runNamed_of_plan h hplan]
    exact ⟨rfl, rfl, rfl⟩
  · intro hclient results hplan hjson
    rw [quiet_runNamed_of_plan h hplan, Policy.plan_eq_ok hplan, Outcome.finish, report,
      if_pos hjson, read_planJson hclient, List.map_map]
    simp only [Function.comp_def, resultJson_entry]
  · intro fault hplan
    rw [quiet_runNamed_of_plan_error h hplan, Outcome.ofFault, Policy.plan_eq_error hplan]
    rfl

/-- A run of a plan shows the plan of the policy that the layers of the configuration lead to: of
those that say anything of a key the last override says what its value is, and without one the file.
The name of the policy is on top. -/
theorem shows_run_plan {surroundings : Surroundings} {arguments : List String} {verbose : Bool}
    {request : PlanRequest} {file : Configuration} {bag : Bag}
    (hread : Command.read surroundings.environment arguments = .ok (verbose, .plan request))
    (hload : request.loaded surroundings.files = .ok file)
    (hsets : PropertyText.parseOverrides request.overrides = .ok bag) :
    ∃ merged, (request.configuration surroundings.files).outcome = .ok merged ∧
      request.Layered file merged ∧ ∀ name, request.Names surroundings merged name →
        (merged.withPolicy name).get? Key.policy = some name ∧
        (∀ key, key ≠ Key.policy → (merged.withPolicy name).get? key = merged.get? key) ∧
        ∀ policy, (surroundings.registry.policyFor (merged.withPolicy name)).outcome = .ok policy →
          request.Shows name policy (run surroundings arguments) := by
  generalize hmerged : file.withOverrides (Configuration.toSettings ⟨bag⟩) = merged
  have hconfig : (request.configuration surroundings.files).outcome = .ok merged :=
    PlanRequest.outcome_configuration_eq_ok_iff.2 ⟨file, bag, hload, hsets, hmerged.symm⟩
  refine ⟨merged, hconfig, hmerged ▸ PlanRequest.layered_withOverrides file hsets,
    fun name hname ↦ ⟨?_, fun key hkey ↦ ?_, fun policy hpolicy ↦ ?_⟩⟩
  · rw [Configuration.get?_withPolicy, if_pos rfl]
  · rw [Configuration.get?_withPolicy, if_neg hkey]
  · rw [← PlanRequest.shows_quiet_iff, quiet_run hread,
      PlanRequest.quiet_run_of_names hconfig hname, PlanRequest.shows_quiet_iff]
    exact request.shows_runNamed hpolicy

end Runs

def layeredGroups : List GroupOption :=
  [.config "c.properties", .set "database.name=x", .set " database.name =d",
    .set "registration.policy=none"]

def layeredSurroundings [Host] : Surroundings where
  environment := ⟨none, fun _ ↦ false⟩
  files _ := .ok (Text.encodeUtf8 "database.name=f\ntable.name=t\n")
  registry := .default
  prompt := none

section

attribute [local instance] Host.bare Libraries.standard

theorem shows_run_plan_layers :
    ∃ policy, (policy.specs (.text "/p")).outcome =
        .ok [⟨"/p", ⟨"d", "t", .avro, "/p", .empty, .empty, .empty⟩, none⟩] ∧
      Json.read (run layeredSurroundings
        (planArguments layeredGroups [.policy "base", .json] ["/p"])).output =
          .ok (.array [(pathJson policy none "/p").sorted]) := by
  let request : PlanRequest :=
    .ofOptions (.ofOptions layeredSurroundings.environment layeredGroups)
      [.policy "base", .json] ["/p"]
  let merged : Configuration :=
    ⟨.ofList [("database.name", "d"), ("table.name", "t"), ("registration.policy", "none")]⟩
  have hread : Command.read layeredSurroundings.environment
      (planArguments layeredGroups [.policy "base", .json] ["/p"]) = .ok (false, .plan request) :=
    rfl
  have hload : (request.loaded layeredSurroundings.files).toOption =
      some ⟨.ofList [("database.name", "f"), ("table.name", "t")]⟩ := by decide +kernel
  have hsets : (PropertyText.parseOverrides request.overrides).toOption =
      some (.ofList [("database.name", "d"), ("registration.policy", "none")]) := by decide +kernel
  have hmerged : (request.configuration layeredSurroundings.files).outcome.toOption =
      some merged := by decide +kernel
  have hspecs : (do
      let policy ← (Registry.default.policyFor (merged.withPolicy "base")).outcome
      (policy.specs (.text "/p")).outcome : Except Fault (List Spec)).toOption =
        some [⟨"/p", ⟨"d", "t", .avro, "/p", .empty, .empty, .empty⟩, none⟩] := by
    decide +kernel
  obtain ⟨policy, hpolicy, hspecs⟩ := bind_eq_ok_iff.1 (toOption_eq_some_iff.1 hspecs)
  obtain ⟨found, hfound, -, hshown⟩ := shows_run_plan hread (toOption_eq_some_iff.1 hload)
    (toOption_eq_some_iff.1 hsets)
  obtain rfl := Except.ok.inj (hfound.symm.trans (toOption_eq_some_iff.1 hmerged))
  obtain ⟨-, -, hpolicies⟩ := hshown "base" (.requested rfl (by decide))
  have hplan := (Registry.sound_default.policy hpolicy).outcome_plan ["/p"]
  exact ⟨policy, hspecs, (hpolicies policy hpolicy).json TableInfo.exact_toJson _ hplan rfl⟩

end

end CommandLine

end Registrar
