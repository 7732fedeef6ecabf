import Registrar.CommandLine.Standard
import Registrar.Proofs.Arguments
import Registrar.Proofs.Resolution

namespace Registrar

def Configuration.literal (key name : String) : Configuration := ⟨.ofList [(key, name)]⟩

theorem Configuration.get?_literal (key name : String) :
    (literal key name).get? key = some name := by
  simp [literal, get?, OrderedMap.ofList, OrderedMap.get?, OrderedMap.insertAll,
    OrderedMap.insert, OrderedMap.insertEntry, OrderedMap.empty]

namespace Identifier

theorem valid_check (name : String) : (check name).valid = isValid (Text.lower name) := by
  rw [check]

theorem sanitized_check (name : String) :
    (check name).sanitized = sanitize (Text.lower name) := by
  rw [check]

theorem sanitizedValid_check (name : String) :
    (check name).sanitizedValid = isValid (sanitize (Text.lower name)) := by
  rw [check]

theorem sanitize_lower_of_isValid {name : String} (h : isValid (Text.lower name) = true) :
    sanitize (Text.lower name) = Text.lower name := by
  rw [isValid_lower] at h
  exact sanitize_eq_self (isIdentifier_iff.1 h)

theorem check_of_valid {name : String} (h : (check name).valid = true) :
    (check name).sanitized = Text.lower name ∧ (check name).sanitizedValid = true := by
  rw [valid_check] at h
  rw [sanitized_check, sanitizedValid_check, sanitize_lower_of_isValid h]
  exact ⟨rfl, h⟩

end Identifier

namespace Naming

open Identifier

def resolveLiteral (name : String) (sanitizing : Bool) (keys : NameKeys)
    (pattern : Option Pattern) (path : StoragePath) : Except Fault String :=
  (resolve (.literal keys.name name) sanitizing keys pattern path).outcome

variable {name : String} {sanitizing : Bool} {keys : NameKeys} {pattern : Option Pattern}
  {path : StoragePath}

theorem resolveLiteral_eq :
    resolveLiteral name sanitizing keys pattern path =
      tested (settled sanitizing (Text.lower name)) := by
  rw [resolveLiteral, outcome_resolve]
  simp only [rawName, Configuration.get?_literal]
  rfl

theorem resolveLiteral_eq_ok_iff {result : String} :
    resolveLiteral name sanitizing keys pattern path = .ok result ↔
      (check name).accepts sanitizing = true ∧ result = (check name).sanitized := by
  rw [resolveLiteral_eq, tested_eq_ok_iff, settled, Check.accepts, valid_check,
    sanitizedValid_check, sanitized_check]
  by_cases hv : isValid (Text.lower name) = true
  · simp only [hv, Bool.not_true, Bool.and_false, Bool.false_eq_true, if_false, Bool.true_or,
      true_and, sanitize_lower_of_isValid hv]
    exact eq_comm
  · rw [Bool.not_eq_true] at hv
    cases sanitizing with
    | true =>
      simp only [hv, Bool.not_false, Bool.and_self, if_true, Bool.false_or, Bool.true_and]
      exact and_congr_right fun _ ↦ eq_comm
    | false => simp [hv]

theorem exists_resolveLiteral_iff :
    (∃ result, resolveLiteral name sanitizing keys pattern path = .ok result) ↔
      (check name).accepts sanitizing = true := by
  constructor
  · rintro ⟨result, h⟩
    exact (resolveLiteral_eq_ok_iff.1 h).1
  · intro h
    exact ⟨_, resolveLiteral_eq_ok_iff.2 ⟨h, rfl⟩⟩

end Naming

namespace CommandLine

open Identifier Naming

/-- The exit code tells whether the resolver would accept every one of the names as a literal. -/
structure Outcome.Reports (outcome : Outcome) (names : List String) (sanitizing : Bool)
    (keys : NameKeys) (pattern : Option Pattern) (path : StoragePath) : Prop where
  one_iff : outcome.exitCode = 1 ↔
    ∃ name ∈ names, ¬∃ result, resolveLiteral name sanitizing keys pattern path = .ok result
  zero_iff : outcome.exitCode = 0 ↔
    ∀ name ∈ names, ∃ result, resolveLiteral name sanitizing keys pattern path = .ok result

section Runs

variable [Libraries]

theorem CheckRequest.exitCode_run (request : CheckRequest) :
    request.run.exitCode =
      if ∀ name ∈ request.names, (check name).accepts request.sanitizing = true then 0 else 1 := by
  simp only [run, Outcome.finish, List.countP_map, List.countP_eq_zero, Function.comp_apply,
    Bool.not_eq_true', Bool.not_eq_false]

theorem CheckRequest.crash_run (request : CheckRequest) : request.run.crash = none := rfl

theorem CheckRequest.reports_run (request : CheckRequest) (keys : NameKeys)
    (pattern : Option Pattern) (path : StoragePath) :
    request.run.Reports request.names request.sanitizing keys pattern path := by
  have hcode := request.exitCode_run
  by_cases h : ∀ name ∈ request.names, (check name).accepts request.sanitizing = true
  · rw [if_pos h] at hcode
    refine ⟨?_, ?_⟩
    · rw [hcode]
      refine ⟨nofun, fun ⟨name, hname, hn⟩ ↦ absurd ?_ hn⟩
      exact exists_resolveLiteral_iff.2 (h name hname)
    · refine ⟨fun _ name hname ↦ ?_, fun _ ↦ hcode⟩
      exact exists_resolveLiteral_iff.2 (h name hname)
  · rw [if_neg h] at hcode
    refine ⟨⟨fun _ ↦ ?_, fun _ ↦ hcode⟩, ?_⟩
    · obtain ⟨name, hrefused⟩ := Classical.not_forall.1 h
      obtain ⟨hname, hn⟩ := Classical.not_imp.1 hrefused
      exact ⟨name, hname, fun hresolved ↦ hn (exists_resolveLiteral_iff.1 hresolved)⟩
    · rw [hcode]
      refine ⟨nofun, fun hall ↦ absurd ?_ h⟩
      intro name hname
      exact exists_resolveLiteral_iff.1 (hall name hname)

variable [Host]

theorem run_of_read {surroundings : Surroundings} {arguments : List String}
    {verbose : Bool} {request : CheckRequest}
    (h : Command.read surroundings.environment arguments = .ok (verbose, .checkNames request)) :
    run surroundings arguments = request.run := by
  rw [run, h]
  cases verbose <;> rfl

theorem run_checkArguments (hreader : OptionReader.Lawful)
    (surroundings : Surroundings) (options : List CheckOption) {names : List String}
    (h : names ≠ []) :
    run surroundings (checkArguments options names) =
      (CheckRequest.ofOptions options names).run := by
  have hread := hreader.read_checkArguments surroundings.environment options names
  rw [if_neg h] at hread
  exact run_of_read hread

theorem exitCode_run_nothing (hreader : OptionReader.Lawful)
    (surroundings : Surroundings) (options : List CheckOption) :
    (run surroundings (checkArguments options [])).exitCode = 2 := by
  rw [run, hreader.read_checkArguments, if_pos rfl]
  rfl

/-- A check of names and the resolver agree on every text: a name is resolved as a literal just if
the check accepts it, and then to the sanitized form that the check shows. So the program, told to
check names, ends with 1 if the resolver would reject one of them and with 0 otherwise, whatever
options it is given; without names there is nothing to check, and it ends with 2. -/
theorem check_agrees_with_resolve (keys : NameKeys) (pattern : Option Pattern)
    (path : StoragePath) :
    (∀ (name : String) (sanitizing : Bool),
      ((∃ result, resolveLiteral name sanitizing keys pattern path = .ok result) ↔
        (check name).valid = true ∨ sanitizing = true ∧ (check name).sanitizedValid = true) ∧
      (∀ result, resolveLiteral name sanitizing keys pattern path = .ok result →
        result = (check name).sanitized) ∧
      ((check name).valid = true →
        (check name).sanitized = Text.lower name ∧ (check name).sanitizedValid = true)) ∧
    (∀ (surroundings : Surroundings) (arguments : List String) (verbose : Bool)
      (request : CheckRequest),
      Command.read surroundings.environment arguments = .ok (verbose, .checkNames request) →
        (run surroundings arguments).crash = none ∧
          (run surroundings arguments).Reports request.names request.sanitizing keys pattern
            path) ∧
    (OptionReader.Lawful → ∀ (surroundings : Surroundings) (options : List CheckOption)
      (names : List String), names ≠ [] →
        (run surroundings (checkArguments options names)).Reports names
          (CheckRequest.ofOptions options names).sanitizing keys pattern path) ∧
    (OptionReader.Lawful → ∀ (surroundings : Surroundings) (options : List CheckOption),
      (run surroundings (checkArguments options [])).exitCode = 2) := by
  refine ⟨fun name sanitizing ↦ ⟨?_, ?_, check_of_valid⟩,
    fun surroundings arguments verbose request h ↦ ?_,
    fun hreader surroundings options names h ↦ ?_, exitCode_run_nothing⟩
  · rw [exists_resolveLiteral_iff, Check.accepts, Bool.or_eq_true, Bool.and_eq_true]
  · intro result h
    exact (resolveLiteral_eq_ok_iff.1 h).2
  · rw [run_of_read h]
    exact ⟨request.crash_run, request.reports_run keys pattern path⟩
  · rw [run_checkArguments hreader surroundings options h]
    exact (CheckRequest.ofOptions options names).reports_run keys pattern path

end Runs

def bareSurroundings [Host] : Surroundings where
  environment := ⟨none, fun _ ↦ false⟩
  files _ := .error .notFound
  registry := .default
  prompt := none

section

attribute [local instance] Host.bare Libraries.standard

theorem check_agrees_with_resolve_kelvin :
    (check "K").valid = true ∧
      (check "K").sanitized = Text.lower "K" ∧
      resolveLiteral "K" false ⟨Key.tableName, Key.tableRegex⟩ none (.text "/x") =
        .ok (check "K").sanitized ∧
      (run bareSurroundings ["-v", "names", "check", "K", "--json", "aé"]).exitCode = 0 ∧
      (run bareSurroundings (checkArguments [.noSanitize] ["K", "aé"])).exitCode = 1 := by
  obtain ⟨hnames, hread, hrun, -⟩ :=
    check_agrees_with_resolve ⟨Key.tableName, Key.tableRegex⟩ none (.text "/x")
  have hkelvin : (check "K").valid = true := by decide +kernel
  have haccent : (check "aé").valid = false ∧ (check "aé").sanitizedValid = true := by
    decide +kernel
  obtain ⟨hresolves, hresult, hvalid⟩ := hnames "K" false
  obtain ⟨result, h⟩ := hresolves.2 (.inl hkelvin)
  refine ⟨hkelvin, (hvalid hkelvin).1, hresult result h ▸ h, ?_, ?_⟩
  · refine (hread bareSurroundings _ true ⟨true, true, ["K", "aé"]⟩ rfl).2.zero_iff.2 ?_
    intro name hname
    refine (hnames name true).1.2 ?_
    rcases List.mem_cons.1 hname with rfl | hname
    · exact .inl hkelvin
    · rw [List.mem_singleton.1 hname]
      exact .inr ⟨rfl, haccent.2⟩
  · have hends := hrun (Reading.lawful_read _) bareSurroundings [.noSanitize] ["K", "aé"] (by decide)
    refine hends.one_iff.2 ⟨"aé", by decide, fun hresolved ↦ ?_⟩
    rcases (hnames "aé" false).1.1 hresolved with hv | ⟨hs, -⟩
    · exact absurd (haccent.1.symm.trans hv) (by decide)
    · exact absurd hs (by decide)

/-- Without names there is none that the resolver would reject, and yet the program does not end
with 0: it asks for names. -/
theorem run_check_nothing :
    ¬∀ (surroundings : Surroundings) (options : List CheckOption) (names : List String)
      (keys : NameKeys) (pattern : Option Pattern) (path : StoragePath),
      (run surroundings (checkArguments options names)).Reports names
        (CheckRequest.ofOptions options names).sanitizing keys pattern path := by
  intro h
  have hzero := (h bareSurroundings [] [] ⟨Key.tableName, Key.tableRegex⟩ none
    (.text "")).zero_iff.2 (fun _ hname ↦ absurd hname List.not_mem_nil)
  rw [exitCode_run_nothing (Reading.lawful_read _)] at hzero
  exact absurd hzero (by decide)

end

end CommandLine

end Registrar
