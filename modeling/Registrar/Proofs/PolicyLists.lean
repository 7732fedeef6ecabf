import Registrar.Proofs.MarkupText
import Registrar.Proofs.PlanReports
import Registrar.Proofs.RegistryRuns
import Registrar.Proofs.TableRows

namespace Registrar

open Console (Documented Fits Showable rowTexts trimEnd trimEnd_eq_self length_trimEnd_le)

section Consoles

variable [Console] {room : Nat} {isCode : String → Prop} {names shown : List String}

namespace Console.Documented

variable (hconsole : Documented room isCode)
include hconsole

theorem sublist {name text : String} (h : Showable room isCode name)
    (hread : readMarkup name = .ok text) : text.toList.Sublist name.toList := by
  by_cases hliteral : Markup.Literal name.toList
  · rw [hconsole.literal h hliteral] at hread
    cases hread
    exact .refl _
  · exact (hconsole.removed h hliteral hread).1

theorem literal_of_trimEnd_eq {name text : String} (h : Showable room isCode name)
    (hread : readMarkup name = .ok text) (hrow : trimEnd text = name) :
    Markup.Literal name.toList := by
  by_contra hmarkup
  have hshort := (hconsole.removed h hmarkup hread).2
  have hle := length_trimEnd_le text
  rw [hrow] at hle
  omega

theorem literal_of_map_trimEnd (hnames : ∀ name ∈ names, Showable room isCode name)
    (hshown : List.Forall₂ (fun name text ↦ readMarkup name = .ok text) names shown)
    (hrows : shown.map trimEnd = names) : ∀ name ∈ names, Markup.Literal name.toList := by
  induction hshown with
  | nil => exact nofun
  | cons hread _ ih =>
    obtain ⟨hfirst, hrest⟩ := List.forall_mem_cons.1 hnames
    obtain ⟨hrow, hmore⟩ := List.cons.inj hrows
    exact List.forall_mem_cons.2
      ⟨hconsole.literal_of_trimEnd_eq hfirst hread hrow, ih hrest hmore⟩

theorem mapM_readMarkup_of_literal (hnames : ∀ name ∈ names, Showable room isCode name)
    (hliteral : ∀ name ∈ names, Markup.Literal name.toList) :
    names.mapM readMarkup = .ok names := by
  rw [mapM_eq_ok_iff, List.forall₂_same]
  intro name hname
  exact hconsole.literal (hnames name hname) (hliteral name hname)

theorem fits_of_shown (hnames : ∀ name ∈ names, Showable room isCode name)
    (hshown : names.mapM readMarkup = .ok shown) : ∀ text ∈ shown, Fits room text := by
  intro text htext
  obtain ⟨name, hname, hread⟩ := forall₂_mem_right (mapM_eq_ok_iff.1 hshown) text htext
  exact (hnames name hname).toFits.of_sublist (hconsole.sublist (hnames name hname) hread)

end Console.Documented

end Consoles

section Standard

/-- The room that a column has if it is the only one, and no codes at all. -/
theorem CommandLine.documented_standard :
    @Documented Libraries.standard.toConsole Console.Grid.roomForText fun _ ↦ False := by
  let _ : Console := Libraries.standard.toConsole
  constructor
  · intro text h hliteral
    exact (Console.Markup.read_eq_self_iff (Console.Markup.steady_of_fits h.toFits)).2 hliteral
  · intro text shown h hmarkup hread
    have hsteady := Console.Markup.steady_of_fits h.toFits
    refine ⟨Console.Markup.read_sublist hsteady hread, ?_⟩
    by_contra hlength
    exact hmarkup (Console.Markup.literal_of_length_le hsteady hread (not_lt.1 hlength))
  · intro title column texts htitle h
    exact Console.Grid.rowTexts_render htitle.printable h

theorem Console.showable_of_fits {room : Nat} {text : String} (h : Fits room text) :
    Showable room (fun _ ↦ False) text :=
  ⟨h, fun _ hcode ↦ hcode.elim⟩

end Standard

namespace CommandLine

def listArguments (groups : List GroupOption) (json : Bool) : List String :=
  "policy" :: (groups.flatMap GroupOption.arguments ++ "list" :: if json then ["--json"] else [])

def configPath (surroundings : Surroundings) (groups : List GroupOption) : Option String :=
  (Command.PolicySettings.ofOptions surroundings.environment groups).configFile

theorem checkPath_eq (environment : Environment) {path : String} (hnul : '\x00' ∉ path.toList) :
    Command.checkPath environment path =
      if environment.unreadable path then .error (.usage (.unreadable path)) else .ok () := by
  have hcontains : path.toList.contains '\x00' = false := by simpa using hnul
  rw [Command.checkPath, hcontains]
  rfl

theorem OptionReader.Lawful.read_listArguments [OptionReader] (hreader : OptionReader.Lawful)
    (environment : Environment) (groups : List GroupOption) (json : Bool) :
    Command.read environment (listArguments groups json) =
      (Command.PolicySettings.ofOptions environment groups).configFile.forM
          (Command.checkPath environment) >>= fun _ ↦
        .ok (false, .listPolicies json) := by
  have hread : OptionReader.read [Command.jsonRule fun _ ↦ true] .anywhere false
      (if json then ["--json"] else []) = .ok ⟨json, false, []⟩ := by
    cases json with
    | false => exact hreader.nothing ..
    | true => exact (hreader.option (.flag (by decide) rfl) ..).trans (hreader.nothing ..)
  have hlist : Command.readList (if json then ["--json"] else []) = .ok (.listPolicies json) := by
    rw [Command.readList, readOn_of_read hread]
    rfl
  rw [listArguments, hreader.read_policy, Command.readPolicy,
    hreader.readPolicyOptions_options (by decide)]
  cases (Command.PolicySettings.ofOptions environment groups).configFile.forM
    (Command.checkPath environment) with
  | error stop => rfl
  | ok _ => exact congrArg (Except.map (false, ·)) hlist

section Json

open Json

theorem exact_namesJson (names : List String) : (namesJson names).Exact := by
  refine .array fun item hitem ↦ ?_
  obtain ⟨name, -, rfl⟩ := List.mem_map.1 hitem
  exact .text name

theorem read_namesJson [Host] (names : List String) :
    Json.read (jsonLine (namesJson names)) = .ok (namesJson names) := by
  rw [read_jsonLine (exact_namesJson names), namesJson, sorted_array, List.map_map]
  rfl

end Json

theorem Outcome.output_finish (exitCode : Nat) (output : String) :
    (finish exitCode output).output = output := rfl

section Tables

variable [Libraries] {names shown : List String} {registry : Registry} {room : Nat}
  {isCode : String → Prop}

def shownGrid (shown : List String) : Console.Grid :=
  .ofTexts "Registered policies" ⟨"Policy", .ellipsis⟩ shown

theorem namesGrid_eq (names : List String) :
    namesGrid names = (names.mapM Console.readMarkup).map shownGrid := by
  rw [namesGrid]
  cases names.mapM Console.readMarkup <;> rfl

theorem listPolicies_of_shown (h : registry.names.mapM Console.readMarkup = .ok shown) :
    listPolicies registry false = .finish 0 (Console.table (shownGrid shown)) := by
  rw [listPolicies, if_neg Bool.false_ne_true, namesGrid_eq, h]
  rfl

theorem listPolicies_of_refused {error : Console.MarkupError}
    (h : registry.names.mapM Console.readMarkup = .error error) :
    listPolicies registry false = .crashed (.markup error) := by
  rw [listPolicies, if_neg Bool.false_ne_true, namesGrid_eq, h]
  rfl

theorem events_listPolicies (registry : Registry) (json : Bool) :
    (listPolicies registry json).events = [] := by
  unfold listPolicies
  split
  · rfl
  · split <;> rfl

theorem rowTexts_shownGrid (hconsole : Documented room isCode)
    (hroom : Fits room "Registered policies")
    (hnames : ∀ name ∈ names, Showable room isCode name)
    (hshown : names.mapM Console.readMarkup = .ok shown) :
    rowTexts (Console.table (shownGrid shown)) = shown.map trimEnd := by
  have hcolumn : Fits room "Policy" := by
    have hletters : Fits 6 "Policy" := by decide +kernel
    have hlonger : 6 ≤ "Registered policies".length := by decide +kernel
    exact ⟨hletters.printable, hletters.length_le.trans (hlonger.trans hroom.length_le)⟩
  exact hconsole.rows hroom
    (List.forall_mem_cons.2 ⟨hcolumn, hconsole.fits_of_shown hnames hshown⟩)

/-- A run that shows names in a table. They are taken as markup: a run whose table is printed has a
row for what is shown of each of them, and wrong markup ends the run. -/
structure ShowsNames (names : List String) (outcome : Outcome) : Prop where
  shown : ∀ shown, names.mapM Console.readMarkup = .ok shown →
    outcome.exitCode = 0 ∧ outcome.crash = none ∧ rowTexts outcome.output = shown.map trimEnd
  refused : ∀ error, names.mapM Console.readMarkup = .error error →
    outcome.exitCode = 1 ∧ outcome.crash = some (.markup error) ∧ outcome.output = ""
  verbatim : outcome.exitCode = 0 ∧ rowTexts outcome.output = names ↔
    ∀ name ∈ names, Console.Markup.Literal name.toList

theorem showsNames_listPolicies (hconsole : Documented room isCode)
    (hroom : Fits room "Registered policies")
    (hnames : ∀ name ∈ registry.names, Showable room isCode name)
    (htrimmed : ∀ name ∈ registry.names, Text.Trimmed name) :
    ShowsNames registry.names (listPolicies registry false) where
  shown shown hread := by
    rw [listPolicies_of_shown hread, Outcome.output_finish]
    exact ⟨rfl, rfl, rowTexts_shownGrid hconsole hroom hnames hread⟩
  refused error hread := by
    rw [listPolicies_of_refused hread]
    exact ⟨rfl, rfl, rfl⟩
  verbatim := by
    constructor
    · rintro ⟨hcode, hrows⟩
      cases hread : registry.names.mapM Console.readMarkup with
      | error error =>
        rw [listPolicies_of_refused hread] at hcode
        cases hcode
      | ok shown =>
        rw [listPolicies_of_shown hread, Outcome.output_finish,
          rowTexts_shownGrid hconsole hroom hnames hread] at hrows
        exact hconsole.literal_of_map_trimEnd hnames (mapM_eq_ok_iff.1 hread) hrows
    · intro hliteral
      have hread := hconsole.mapM_readMarkup_of_literal hnames hliteral
      have hself : registry.names.map trimEnd = registry.names :=
        (List.map_congr_left fun name hname ↦ trimEnd_eq_self (htrimmed name hname)).trans
          (List.map_id' registry.names)
      rw [listPolicies_of_shown hread, Outcome.output_finish,
        rowTexts_shownGrid hconsole hroom hnames hread]
      exact ⟨rfl, hself⟩

end Tables

section Runs

variable [Host] [Libraries] {surroundings : Surroundings} {groups : List GroupOption}
  {room : Nat} {isCode : String → Prop}

theorem run_listArguments_eq (hreader : OptionReader.Lawful) {json : Bool}
    (hpath : ∀ path ∈ configPath surroundings groups, '\x00' ∉ path.toList)
    (hreadable : ∀ path ∈ configPath surroundings groups,
      surroundings.environment.unreadable path = false) :
    run surroundings (listArguments groups json) = listPolicies surroundings.registry json := by
  have hcheck : (configPath surroundings groups).forM
      (Command.checkPath surroundings.environment) = .ok () := by
    cases hconfig : configPath surroundings groups with
    | none => rfl
    | some path =>
      refine (checkPath_eq surroundings.environment (hpath path hconfig)).trans ?_
      rw [hreadable path hconfig]
      rfl
  have hread := hreader.read_listArguments surroundings.environment groups json
  rw [configPath] at hcheck
  rw [hcheck, ok_bind] at hread
  rw [run, hread]
  dsimp only
  rw [if_neg Bool.false_ne_true, ← events_listPolicies surroundings.registry json]
  rfl

theorem run_listArguments_of_unreadable (hreader : OptionReader.Lawful) {path : String}
    (hconfig : configPath surroundings groups = some path) (hnul : '\x00' ∉ path.toList)
    (hunreadable : surroundings.environment.unreadable path = true) (json : Bool) :
    run surroundings (listArguments groups json) = .ofStop (.usage (.unreadable path)) := by
  have hread := hreader.read_listArguments surroundings.environment groups json
  rw [configPath] at hconfig
  have hcheck : (some path).forM (Command.checkPath surroundings.environment) =
      .error (.usage (.unreadable path)) :=
    (checkPath_eq surroundings.environment hnul).trans (if_pos hunreadable)
  rw [hconfig, hcheck, error_bind] at hread
  rw [run, hread]

/-- However a registry has come about from the one with the policies that are always there, its
policies are listed whatever the options and the environment say of the configuration, unless they
name a file that may not be read. As JSON the names come without an error, each once and
increasing, and are read back as they are. The table has them in the same order, one in each row,
exactly if no bracket in any of them opens a tag or stands behind a backslash; otherwise a row lacks
what is taken for markup, or wrong markup ends the run. -/
theorem run_listArguments (hconsole : Documented room isCode) (hreader : OptionReader.Lawful)
    (hroom : Fits room "Registered policies") {calls : List Registry.Call}
    (hregistry : surroundings.registry =
      calls.foldl (fun registry call ↦ (registry.step call).1) .default)
    (hpath : ∀ path ∈ configPath surroundings groups, '\x00' ∉ path.toList)
    (hnames : ∀ name ∈ surroundings.registry.names, Showable room isCode name) :
    surroundings.registry.names.Pairwise (· < ·) ∧
      (∀ name, name ∈ surroundings.registry.names ↔
        surroundings.registry.contains name = true) ∧
      ((∀ path ∈ configPath surroundings groups,
          surroundings.environment.unreadable path = false) →
        ((run surroundings (listArguments groups true)).exitCode = 0 ∧
          Json.read (run surroundings (listArguments groups true)).output =
            .ok (.array (surroundings.registry.names.map .text))) ∧
        ShowsNames surroundings.registry.names
          (run surroundings (listArguments groups false))) ∧
      ∀ path ∈ configPath surroundings groups, surroundings.environment.unreadable path = true →
        ∀ json, (run surroundings (listArguments groups json)).exitCode = 2 ∧
          (run surroundings (listArguments groups json)).output = "" := by
  have htrimmed : ∀ name ∈ surroundings.registry.names, Text.Trimmed name := by
    rw [hregistry, ← Registry.run_builtInCalls_append]
    exact Registry.trimmed_of_mem_names _
  refine ⟨Registry.names_increasing _, fun name ↦ ?_, fun hreadable ↦ ?_,
    fun path hconfig hunreadable json ↦ ?_⟩
  · rw [Registry.mem_names_iff]
    exact OrderedMap.mem_keys_iff
  · rw [run_listArguments_eq hreader hpath hreadable, run_listArguments_eq hreader hpath hreadable]
    exact ⟨⟨rfl, read_namesJson _⟩, showsNames_listPolicies hconsole hroom hnames htrimmed⟩
  · rw [run_listArguments_of_unreadable hreader hconfig (hpath path hconfig) hunreadable]
    exact ⟨rfl, rfl⟩

end Runs

section

attribute [local instance] Host.bare Libraries.standard

def surroundingsAfter (calls : List Registry.Call) : Surroundings where
  environment := ⟨some "broken.json", fun _ ↦ false⟩
  files _ := .ok [0xff]
  registry := calls.foldl (fun registry call ↦ (registry.step call).1) .default
  prompt := none

def numberedCalls : List Registry.Call :=
  [.register "a[1]" (Factory.ofLayout .flat) false, .unregister "partitioned"]

theorem names_numbered : (surroundingsAfter numberedCalls).registry.names =
    ["a[1]", "base", "parent_directory"] := by
  have hkeys : (surroundingsAfter numberedCalls).registry.factories.keys =
      ["base", "parent_directory", "a[1]"] := by decide +kernel
  exact Registry.names_eq_of_perm hkeys (by decide) (by decide +kernel)

theorem run_listArguments_numbered :
    Json.read (run (surroundingsAfter numberedCalls) (listArguments [.set "-"] true)).output =
        .ok (.array [.text "a[1]", .text "base", .text "parent_directory"]) ∧
      (run (surroundingsAfter numberedCalls) (listArguments [.set "-"] false)).exitCode = 0 ∧
      rowTexts (run (surroundingsAfter numberedCalls) (listArguments [.set "-"] false)).output =
        ["a[1]", "base", "parent_directory"] := by
  have hfits : ∀ name ∈ (surroundingsAfter numberedCalls).registry.names,
      Fits Console.Grid.roomForText name := by
    rw [names_numbered]
    decide
  have hpath : ∀ path ∈ configPath (surroundingsAfter numberedCalls) [.set "-"],
      '\x00' ∉ path.toList := by decide
  obtain ⟨-, -, hruns, -⟩ := run_listArguments documented_standard (Reading.lawful_read _)
    (by decide +kernel) rfl hpath fun name hname ↦ Console.showable_of_fits (hfits name hname)
  obtain ⟨⟨-, hjson⟩, htable⟩ := hruns fun _ _ ↦ rfl
  rw [names_numbered] at hjson htable
  exact ⟨hjson, htable.verbatim.2 (by decide +kernel)⟩

def taggedCalls : List Registry.Call := [.register "[b]x[/b]" (Factory.ofLayout .flat) false]

theorem names_tagged : (surroundingsAfter taggedCalls).registry.names =
    ["[b]x[/b]", "base", "parent_directory", "partitioned"] := by
  have hkeys : (surroundingsAfter taggedCalls).registry.factories.keys =
      ["base", "parent_directory", "partitioned", "[b]x[/b]"] := by decide +kernel
  exact Registry.names_eq_of_perm hkeys (by decide) (by decide +kernel)

theorem rowTexts_run_tagged :
    (∀ name ∈ (surroundingsAfter taggedCalls).registry.names,
        Fits Console.Grid.roomForText name) ∧
      (run (surroundingsAfter taggedCalls) (listArguments [] false)).exitCode = 0 ∧
      rowTexts (run (surroundingsAfter taggedCalls) (listArguments [] false)).output =
        ["x", "base", "parent_directory", "partitioned"] ∧
      rowTexts (run (surroundingsAfter taggedCalls) (listArguments [] false)).output ≠
        (surroundingsAfter taggedCalls).registry.names := by
  have hfits : ∀ name ∈ (surroundingsAfter taggedCalls).registry.names,
      Fits Console.Grid.roomForText name := by
    rw [names_tagged]
    decide
  have hread : ((surroundingsAfter taggedCalls).registry.names.mapM Console.readMarkup).toOption =
      some ["x", "base", "parent_directory", "partitioned"] := by
    rw [names_tagged]
    decide +kernel
  have hpath : ∀ path ∈ configPath (surroundingsAfter taggedCalls) [], '\x00' ∉ path.toList := by
    decide
  have hrows := rowTexts_shownGrid documented_standard (by decide +kernel)
    (fun name hname ↦ Console.showable_of_fits (hfits name hname)) (toOption_eq_some_iff.1 hread)
  have hrun : run (surroundingsAfter taggedCalls) (listArguments [] false) =
      listPolicies (surroundingsAfter taggedCalls).registry false :=
    run_listArguments_eq (Reading.lawful_read _) hpath fun _ _ ↦ rfl
  rw [listPolicies_of_shown (toOption_eq_some_iff.1 hread)] at hrun
  have hshown : ["x", "base", "parent_directory", "partitioned"].map trimEnd =
      ["x", "base", "parent_directory", "partitioned"] := by decide +kernel
  rw [hshown] at hrows
  rw [hrun, Outcome.output_finish, hrows, names_tagged]
  exact ⟨names_tagged ▸ hfits, rfl, rfl, by decide⟩

end

end CommandLine

end Registrar
