import Registrar.CommandLine.Command
import Registrar.Proofs.Outcomes
import Registrar.Proofs.Trimming

namespace Registrar.CommandLine

def IsLongName (name : String) : Prop :=
  Reading.isLong name = true ∧ name ≠ "--" ∧ '=' ∉ name.toList

instance : DecidablePred IsLongName := fun _ ↦ inferInstanceAs (Decidable (_ ∧ _ ∧ _))

/-- Arguments that spell an option by a long name, and what the option does. -/
inductive Spells {α : Type} (rules : List (Rule α)) : (α → α) → List String → Prop
  | flag {name : String} {names : List String} {update : α → α} (hname : IsLongName name)
      (hrule : (.help :: rules).find? (·.names.contains name) = some ⟨names, .flag update⟩) :
      Spells rules update [name]
  | valued {name : String} {names : List String} (hname : IsLongName name)
      (update : String → α → α)
      (hrule : (.help :: rules).find? (·.names.contains name) = some ⟨names, .valued update⟩)
      (value : String) : Spells rules (update value) [name, value]

/-- A reader goes through arguments from the front. An option has its effect on the settings, and
its value may look like an option; dashes or, where a command follows, its name end the options. -/
structure OptionReader.Lawful [OptionReader] : Prop where
  nothing {α : Type} (rules : List (Rule α)) (placement : Placement) (settings : α) :
    read rules placement settings [] = .ok ⟨settings, false, []⟩
  option {α : Type} {rules : List (Rule α)} {effect : α → α} {arguments : List String}
    (h : Spells rules effect arguments) (placement : Placement) (settings : α)
    (rest : List String) :
    read rules placement settings (arguments ++ rest) =
      read rules placement (effect settings) rest
  dashes {α : Type} (rules : List (Rule α)) (placement : Placement) (settings : α)
    (operands : List String) :
    read rules placement settings ("--" :: operands) = .ok ⟨settings, false, operands⟩
  command {α : Type} {name : String} (hname : Reading.isOption name = false)
    (rules : List (Rule α)) (settings : α) (rest : List String) :
    read rules .first settings (name :: rest) = .ok ⟨settings, false, name :: rest⟩

namespace Reading

variable {α : Type} {rules : List (Rule α)} {name : String}

theorem isOption_of_isLongName (h : IsLongName name) : isOption name = true := by
  obtain ⟨rest, heq⟩ := List.isPrefixOf_iff_prefix.1 h.1
  rw [isOption, ← heq]
  rfl

theorem option_of_isLongName (h : IsLongName name) (reading : Reading α) :
    option rules reading name = match rules.find? (·.names.contains name) with
      | none => .error (.unknownOption name)
      | some ⟨_, .valued update⟩ => .ok (reading, some ⟨name, update⟩)
      | some ⟨_, .help⟩ => .ok ({ reading with help := true }, none)
      | some ⟨_, .flag update⟩ => .ok (reading.update update, none) := by
  obtain ⟨hlong, -, hsign⟩ := h
  rw [option, Text.cut?_eq_none_iff.2 hsign, hlong]
  dsimp only
  rw [if_neg (by decide)]
  cases rules.find? (·.names.contains name) with
  | none => rfl
  | some rule => obtain ⟨names, _ | _ | _⟩ := rule <;> rfl

theorem readFrom_option (h : IsLongName name) {placement : Placement} {reading next : Reading α}
    {pending : Option (Pending α)} (rest : List String)
    (hread : option rules reading name = .ok (next, pending)) :
    readFrom rules placement reading none (name :: rest) =
      readFrom rules placement next pending rest := by
  rw [readFrom, if_neg h.2.1, isOption_of_isLongName h, if_pos rfl, hread, ok_bind]

theorem read_spelled {effect : α → α} {arguments : List String} (h : Spells rules effect arguments)
    (placement : Placement) (settings : α) (rest : List String) :
    read rules placement settings (arguments ++ rest) =
      read rules placement (effect settings) rest := by
  unfold read
  cases h with
  | @flag name names update hname hrule =>
    refine readFrom_option hname rest ?_
    rw [option_of_isLongName hname, hrule]
    rfl
  | @valued name names hname update hrule value =>
    have hread : option (.help :: rules) (ofSettings settings) name =
        .ok (ofSettings settings, some ⟨name, update⟩) := by
      rw [option_of_isLongName hname, hrule]
    rw [List.cons_append, readFrom_option hname _ hread, List.singleton_append, readFrom]
    rfl

theorem read_dashes (rules : List (Rule α)) (placement : Placement) (settings : α)
    (operands : List String) :
    read rules placement settings ("--" :: operands) = .ok ⟨settings, false, operands⟩ := by
  rw [read, readFrom, if_pos rfl]
  rfl

theorem read_command (hname : isOption name = false) (rules : List (Rule α)) (settings : α)
    (rest : List String) :
    read rules .first settings (name :: rest) = .ok ⟨settings, false, name :: rest⟩ := by
  have hdashes : name ≠ "--" := by
    rintro rfl
    cases hname
  rw [read, readFrom, if_neg hdashes, hname]
  rfl

theorem lawful_read (page : String → String) : @OptionReader.Lawful ⟨read, page⟩ :=
  @OptionReader.Lawful.mk ⟨read, page⟩ (fun _ _ _ ↦ rfl) read_spelled read_dashes read_command

end Reading

section Checks

inductive CheckOption
  | sanitize
  | noSanitize
  | json

namespace CheckOption

def text : CheckOption → String
  | sanitize => "--sanitize"
  | noSanitize => "--no-sanitize"
  | json => "--json"

def apply (request : CheckRequest) : CheckOption → CheckRequest
  | sanitize => { request with sanitizing := true }
  | noSanitize => { request with sanitizing := false }
  | json => { request with json := true }

theorem spells (item : CheckOption) :
    Spells Command.checkRules (apply · item) [item.text] := by
  cases item with
  | sanitize => exact .flag (by decide) rfl
  | noSanitize => exact .flag (by decide) rfl
  | json => exact .flag (by decide) rfl

end CheckOption

/-- The request that options make, of which the last one counts where two are contrary. -/
def CheckRequest.ofOptions (options : List CheckOption) (names : List String) : CheckRequest :=
  { options.foldl CheckOption.apply ⟨true, false, []⟩ with names := names }

/-- The arguments that ask for a check of names. The names stand behind dashes, so that none of
them is taken for an option. -/
def checkArguments (options : List CheckOption) (names : List String) : List String :=
  "names" :: "check" :: (options.map CheckOption.text ++ "--" :: names)

end Checks

section Plans

inductive GroupOption
  | config (path : String)
  | set (item : String)

namespace GroupOption

def arguments : GroupOption → List String
  | config path => ["--config", path]
  | set item => ["--set", item]

def apply (settings : Command.PolicySettings) : GroupOption → Command.PolicySettings
  | config path => { settings with configFile := some path }
  | set item => { settings with overrides := settings.overrides ++ [item] }

theorem spells (item : GroupOption) :
    Spells Command.policyRules (apply · item) item.arguments := by
  cases item with
  | config path =>
    exact .valued (by decide) (fun path settings ↦ apply settings (.config path)) rfl path
  | set item =>
    exact .valued (by decide) (fun item settings ↦ apply settings (.set item)) rfl item

end GroupOption

inductive PlanOption
  | policy (name : String)
  | catalog (name : String)
  | json

namespace PlanOption

def arguments : PlanOption → List String
  | policy name => ["--policy", name]
  | catalog name => ["--catalog", name]
  | json => ["--json"]

def apply (request : PlanRequest) : PlanOption → PlanRequest
  | policy name => { request with policy := some name }
  | catalog name => { request with catalog := some name }
  | json => { request with json := true }

/-- Whether an option has a say in what is planned, and not just in how it is shown. -/
def isPolicy : PlanOption → Bool
  | policy _ => true
  | catalog _ | json => false

theorem spells (item : PlanOption) :
    Spells Command.planRules (apply · item) item.arguments := by
  cases item with
  | policy name =>
    exact .valued (by decide) (fun name request ↦ apply request (.policy name)) rfl name
  | catalog name =>
    exact .valued (by decide) (fun name request ↦ apply request (.catalog name)) rfl name
  | json => exact .flag (by decide) rfl

end PlanOption

def PlanRequest.ofSettings (settings : Command.PolicySettings) : PlanRequest where
  configFile := settings.configFile.map Files.Path.ofText
  overrides := settings.overrides
  policy := none
  catalog := none
  json := false
  paths := []

def PlanRequest.ofOptions (settings : Command.PolicySettings) (options : List PlanOption)
    (paths : List String) : PlanRequest :=
  { options.foldl PlanOption.apply (ofSettings settings) with paths := paths }

def Command.PolicySettings.ofOptions (environment : Environment) (groups : List GroupOption) :
    PolicySettings :=
  groups.foldl GroupOption.apply ⟨environment.configFile.filter (· ≠ ""), []⟩

/-- The arguments that ask for a plan. The paths stand behind dashes, so that none of them is taken
for an option. -/
def planArguments (groups : List GroupOption) (options : List PlanOption) (paths : List String) :
    List String :=
  "policy" :: (groups.flatMap GroupOption.arguments ++
    "plan" :: (options.flatMap PlanOption.arguments ++ "--" :: paths))

end Plans

section Reading

variable [OptionReader]

theorem readOn_of_read {α : Type} {topic : Topic} {rules : List (Rule α)} {placement : Placement}
    {settings next : α} {arguments operands : List String}
    (h : OptionReader.read rules placement settings arguments = .ok ⟨next, false, operands⟩) :
    readOn topic rules placement settings arguments = .ok ⟨next, false, operands⟩ := by
  rw [readOn, h]
  rfl

namespace OptionReader.Lawful

variable (hreader : OptionReader.Lawful)
include hreader

theorem options {α ι : Type} {rules : List (Rule α)} {effect : α → ι → α}
    {text : ι → List String} (h : ∀ item, Spells rules (effect · item) (text item))
    (placement : Placement) (settings : α) (items : List ι) (rest : List String) :
    read rules placement settings (items.flatMap text ++ rest) =
      read rules placement (items.foldl effect settings) rest := by
  induction items generalizing settings with
  | nil => rfl
  | cons item items ih =>
    rw [List.flatMap_cons, List.append_assoc, hreader.option (h item), ih, List.foldl_cons]

theorem readCheck_options (options : List CheckOption) (names : List String) :
    Command.readCheck (options.map CheckOption.text ++ "--" :: names) =
      if names = [] then .error (.usage (.absentOperand "NAMES..."))
      else .ok (.checkNames (.ofOptions options names)) := by
  rw [Command.readCheck, readOn_of_read]
  rotate_left
  · rw [List.map_eq_flatMap, hreader.options CheckOption.spells, hreader.dashes]
  rw [ok_bind]
  split <;> rfl

theorem readProgramOptions_command {name : String} (hname : Reading.isOption name = false)
    (rest : List String) :
    Command.readProgramOptions (name :: rest) = .ok ⟨false, false, name :: rest⟩ :=
  readOn_of_read (hreader.command hname ..)

theorem read_check (environment : Environment) (arguments : List String) :
    Command.read environment ("names" :: "check" :: arguments) =
      (Command.readCheck arguments).map (false, ·) := by
  have hgroup : Command.readNamesOptions ("check" :: arguments) =
      .ok ⟨(), false, "check" :: arguments⟩ :=
    readOn_of_read (hreader.command (by decide) ..)
  have hnames : Command.readNames ("check" :: arguments) = Command.readCheck arguments := by
    rw [Command.readNames, if_neg (List.cons_ne_nil _ _), hgroup]
    rfl
  rw [Command.read, if_neg (List.cons_ne_nil _ _),
    hreader.readProgramOptions_command (by decide)]
  simp only [ok_bind, hnames]
  cases Command.readCheck arguments <;> rfl

theorem read_checkArguments (environment : Environment) (options : List CheckOption)
    (names : List String) :
    Command.read environment (checkArguments options names) =
      if names = [] then .error (.usage (.absentOperand "NAMES..."))
      else .ok (false, .checkNames (.ofOptions options names)) := by
  rw [checkArguments, hreader.read_check, hreader.readCheck_options]
  split <;> rfl

theorem readPlan_options (request : PlanRequest) (options : List PlanOption)
    (paths : List String) :
    Command.readPlan request (options.flatMap PlanOption.arguments ++ "--" :: paths) =
      if paths = [] then .error (.usage (.absentOperand "PATHS..."))
      else .ok (.plan { options.foldl PlanOption.apply request with paths := paths }) := by
  rw [Command.readPlan, readOn_of_read]
  rotate_left
  · rw [hreader.options PlanOption.spells, hreader.dashes]
  rw [ok_bind]
  split <;> rfl

theorem readPolicyOptions_options {command : String} (hcommand : Reading.isOption command = false)
    (environment : Environment) (groups : List GroupOption) (rest : List String) :
    Command.readPolicyOptions environment
        (groups.flatMap GroupOption.arguments ++ command :: rest) =
      (Command.PolicySettings.ofOptions environment groups).configFile.forM
          (Command.checkPath environment) >>= fun _ ↦
        .ok ⟨.ofOptions environment groups, false, command :: rest⟩ := by
  rw [Command.readPolicyOptions, readOn_of_read]
  rotate_left
  · rw [hreader.options GroupOption.spells, hreader.command hcommand]
  rfl

theorem read_policy (environment : Environment) (arguments : List String) :
    Command.read environment ("policy" :: arguments) =
      (Command.readPolicy environment arguments).map (false, ·) := by
  rw [Command.read, if_neg (List.cons_ne_nil _ _),
    hreader.readProgramOptions_command (by decide)]
  simp only [ok_bind]
  cases Command.readPolicy environment arguments <;> rfl

theorem read_planArguments (environment : Environment) (groups : List GroupOption)
    (options : List PlanOption) (paths : List String) :
    Command.read environment (planArguments groups options paths) =
      let settings := Command.PolicySettings.ofOptions environment groups
      settings.configFile.forM (Command.checkPath environment) >>= fun _ ↦
        if paths = [] then .error (.usage (.absentOperand "PATHS..."))
        else .ok (false, .plan (.ofOptions settings options paths)) := by
  rw [planArguments, hreader.read_policy, Command.readPolicy,
    hreader.readPolicyOptions_options (by decide)]
  dsimp only
  cases (Command.PolicySettings.ofOptions environment groups).configFile.forM
    (Command.checkPath environment) with
  | error stop => rfl
  | ok _ =>
    refine (congrArg (Except.map (false, ·)) (hreader.readPlan_options _ options paths)).trans ?_
    split <;> rfl

end OptionReader.Lawful

end Reading

end Registrar.CommandLine
