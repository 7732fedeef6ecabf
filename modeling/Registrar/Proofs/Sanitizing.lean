import Mathlib.Data.List.Forall2
import Registrar.Proofs.Agreement
import Registrar.Proofs.Planning

namespace Registrar

section Except

variable {ε α β : Type}

/-- The second computation comes to whatever the first one comes to. -/
def Extends (x y : Except ε α) : Prop := ∀ a, x = .ok a → y = .ok a

theorem Extends.refl (x : Except ε α) : Extends x x := fun _ h ↦ h

theorem Extends.bind {x y : Except ε α} {f g : α → Except ε β} (h : Extends x y)
    (hfg : ∀ a, Extends (f a) (g a)) : Extends (x >>= f) (y >>= g) := by
  intro b hb
  obtain ⟨a, ha, hb⟩ := bind_eq_ok_iff.1 hb
  exact bind_eq_ok_iff.2 ⟨a, h a ha, hfg a b hb⟩

theorem Extends.exists_error {x y : Except ε α} (h : Extends x y) {e : ε} (hy : y = .error e) :
    ∃ e', x = .error e' := by
  cases hx : x with
  | error e' => exact ⟨e', rfl⟩
  | ok a =>
    rw [h a hx] at hy
    cases hy

end Except

theorem Naming.resolve_extends (config : Configuration) (keys : NameKeys)
    (pattern : Option Pattern) (path : StoragePath) :
    Extends (resolve config false keys pattern path).outcome
      (resolve config true keys pattern path).outcome := by
  rw [outcome_resolve, outcome_resolve]
  refine Extends.bind (.refl _) fun name ↦ ?_
  intro result h
  obtain ⟨hvalid, rfl⟩ := tested_eq_ok_iff.1 h
  -- A name that passes the test as it is has nothing to be sanitized.
  have hname : Identifier.isValid name = true := hvalid
  have hsettled : settled true name = settled false name := by
    rw [settled, settled, hname]
    rfl
  rwa [hsettled]

theorem NameRule.resolve_extends (rule : NameRule) (config : Configuration) (path : StoragePath) :
    Extends (rule.resolve config false path).outcome (rule.resolve config true path).outcome := by
  rw [outcome_resolve, outcome_resolve]
  exact .bind (Naming.resolve_extends config rule.keys rule.pattern path) fun name ↦ .refl _

namespace Policy

variable {config other : Configuration} {layout : Layout} {strict lenient : Policy}
variable {path : StoragePath}

theorem BuiltFrom.specs_extends [Host] (hb : BuiltFrom config layout strict)
    (h : config.Alike other) (hstrict : strict.sanitizing = false) (path : StoragePath) :
    Extends (strict.specs path).outcome
      ((strict.adapt (fun _ ↦ true) other).specs path).outcome := by
  have hdatabase : Extends (strict.databaseName path).outcome
      ((strict.adapt (fun _ ↦ true) other).databaseName path).outcome := by
    rw [hb.databaseName_adapt h, databaseName, hb.config_eq, hstrict]
    exact NameRule.resolve_extends strict.database config path
  have htable : Extends (strict.tableName path).outcome
      ((strict.adapt (fun _ ↦ true) other).tableName path).outcome := by
    rw [hb.tableName_adapt h, tableName, hb.config_eq, hstrict]
    exact NameRule.resolve_extends strict.table config path
  have htableFor : Extends (strict.tableFor path).outcome
      ((strict.adapt (fun _ ↦ true) other).tableFor path).outcome := by
    rw [outcome_tableFor, outcome_tableFor]
    exact .bind hdatabase fun _ ↦ .bind htable fun _ ↦ .refl _
  rw [outcome_specs, outcome_specs]
  exact .bind htableFor fun _ ↦ .refl _

theorem planPath_foreign (policy : Policy) (kind : Foreign) (result : PlanResult) :
    (policy.planPath (.foreign kind)).outcome ≠ .ok result := by
  intro h
  unfold planPath at h
  cases hspecs : (policy.specs (.foreign kind)).outcome with
  | ok specs =>
    simp only [hspecs] at h
    cases h
  | error fault =>
    simp only [hspecs] at h
    split at h <;> cases h

/-- An entry of a plan beside the entry of another plan for the same path: a success is kept. -/
structure Kept (result result' : PlanResult) : Prop where
  path : result'.path = result.path
  success : result.ok = true → result' = result

theorem Sound.kept_entry (hs : strict.Sound) {location : String}
    (h : Extends (strict.specs (.text location)).outcome (lenient.specs (.text location)).outcome) :
    Kept (strict.entry location) (lenient.entry location) := by
  constructor
  · rw [path_entry, path_entry]
  · intro hok
    rcases hs.entry_cases location with ⟨spec, hspecs, -⟩ | ⟨fault, -, -, -, herror⟩
    · rw [entry, entry, hspecs, h _ hspecs]
    · rw [PlanResult.ok, herror] at hok
      cases hok

theorem Sound.planPath_kept (hs : strict.Sound) (hl : lenient.Sound)
    (hext : ∀ path, Extends (strict.specs path).outcome (lenient.specs path).outcome)
    {result : PlanResult} (h : (strict.planPath path).outcome = .ok result) :
    ∃ result', (lenient.planPath path).outcome = .ok result' ∧ Kept result result' := by
  cases path with
  | foreign kind => exact absurd h (planPath_foreign strict kind result)
  | text location =>
    rw [hs.outcome_planPath] at h
    obtain rfl := Except.ok.inj h
    exact ⟨_, hl.outcome_planPath location, hs.kept_entry (hext _)⟩

theorem Sound.plan_kept (hs : strict.Sound) (hl : lenient.Sound)
    (hext : ∀ path, Extends (strict.specs path).outcome (lenient.specs path).outcome)
    {paths : List StoragePath} {results : List PlanResult}
    (h : (strict.plan paths).outcome = .ok results) :
    ∃ results', (lenient.plan paths).outcome = .ok results' ∧
      List.Forall₂ Kept results results' := by
  simp only [plan, Trace.outcome_mapM] at h ⊢
  induction paths generalizing results with
  | nil =>
    obtain rfl := Except.ok.inj h
    exact ⟨[], rfl, .nil⟩
  | cons path rest ih =>
    rw [List.mapM_cons] at h
    obtain ⟨result, hresult, h⟩ := bind_eq_ok_iff.1 h
    obtain ⟨more, hmore, h⟩ := bind_eq_ok_iff.1 h
    obtain rfl := Except.ok.inj h
    obtain ⟨result', hresult', hkept⟩ := hs.planPath_kept hl hext hresult
    obtain ⟨more', hmore', hall⟩ := ih hmore
    refine ⟨result' :: more', ?_, .cons hkept hall⟩
    rw [List.mapM_cons, hresult', ok_bind, hmore']
    rfl

/-- With sanitizing, a built-in policy can still be made, registers the same for every path that is
registered without it, and fails only where this fails; what succeeds in a plan without sanitizing
stands unchanged in the plan with it. -/
theorem sanitizing_extends [Host] {name : String} {config other : Configuration}
    {strict : Policy}
    (hsame : ∀ key, key ≠ Key.sanitizing → config.get? key = other.get? key)
    (hstrict : config.getBool Key.sanitizing true = .ok false)
    (hlenient : other.getBool Key.sanitizing true = .ok true)
    (hmade : Registry.default.create name config = .ok strict) :
    ∃ lenient, Registry.default.create name other = .ok lenient ∧
      (∀ path specs, (strict.specs path).outcome = .ok specs →
        (lenient.specs path).outcome = .ok specs) ∧
      (∀ path fault, (lenient.specs path).outcome = .error fault →
        ∃ fault', (strict.specs path).outcome = .error fault') ∧
      ∀ paths results, (strict.plan paths).outcome = .ok results →
        ∃ results', (lenient.plan paths).outcome = .ok results' ∧
          List.Forall₂ Kept results results' := by
  have halike : config.Alike other := by
    refine ⟨fun key hkey ↦ hsame key ?_, ⟨hsame _ (by decide), fun _ ↦ hsame _ (by decide)⟩,
      ⟨hsame _ (by decide), fun _ ↦ hsame _ (by decide)⟩⟩
    rintro rfl
    exact absurd hkey (by decide)
  have hchoice : other.getBool Key.sanitizing true =
      (fun _ ↦ true) <$> config.getBool Key.sanitizing true := by
    rw [hstrict, hlenient]
    rfl
  have hcreate : Registry.default.create name other = .ok (strict.adapt (fun _ ↦ true) other) := by
    rw [Registry.create_adapt halike hchoice, hmade]
    rfl
  obtain ⟨layout, -, hb⟩ := Registry.create_default_eq_ok hmade
  obtain ⟨layout', -, hb'⟩ := Registry.create_default_eq_ok hcreate
  have hsanitizing : strict.sanitizing = false :=
    Except.ok.inj (hb.sanitizing.symm.trans hstrict)
  have hext := hb.specs_extends halike hsanitizing
  exact ⟨_, hcreate, hext, fun path fault hfault ↦ (hext path).exists_error hfault,
    fun paths results h ↦ hb.sound.plan_kept hb'.sound hext h⟩

def lenientConfiguration : Configuration :=
  ⟨.ofList [(Key.databaseRegex, "/(.+)/"), (Key.tableName, "t")]⟩

def strictConfiguration : Configuration :=
  ⟨lenientConfiguration.properties.insert Key.sanitizing "No"⟩

def registered [Host] (config : Configuration) (locations : List String) : Except Fault
    (List Bool) := do
  let policy ← Registry.default.create "base" config
  let results ← (policy.plan (locations.map .text)).outcome
  return results.map PlanResult.ok

section

attribute [local instance] Host.bare

theorem sanitizing_extends_hyphen :
    ∃ strict lenient results results',
      Registry.default.create "base" strictConfiguration = .ok strict ∧
      Registry.default.create "base" lenientConfiguration = .ok lenient ∧
      (strict.plan (["/ab/x", "/a-b/x"].map .text)).outcome = .ok results ∧
      (lenient.plan (["/ab/x", "/a-b/x"].map .text)).outcome = .ok results' ∧
      results.map PlanResult.ok = [true, false] ∧ List.Forall₂ Kept results results' := by
  have hrun : (registered strictConfiguration ["/ab/x", "/a-b/x"]).toOption =
      some [true, false] := by
    decide +kernel
  obtain ⟨strict, hstrict, hrun⟩ := bind_eq_ok_iff.1 (toOption_eq_some_iff.1 hrun)
  obtain ⟨results, hresults, hrun⟩ := bind_eq_ok_iff.1 hrun
  have hsame (key : String) (hkey : key ≠ Key.sanitizing) :
      strictConfiguration.get? key = lenientConfiguration.get? key :=
    (OrderedMap.get?_insert _ _ _ _).trans (if_neg hkey)
  have hoff : strictConfiguration.getBool Key.sanitizing true = .ok false :=
    toOption_eq_some_iff.1 (by decide +kernel)
  have hon : lenientConfiguration.getBool Key.sanitizing true = .ok true :=
    toOption_eq_some_iff.1 (by decide +kernel)
  obtain ⟨lenient, hlenient, -, -, hplan⟩ := sanitizing_extends hsame hoff hon hstrict
  obtain ⟨results', hresults', hkept⟩ := hplan _ results hresults
  exact ⟨strict, lenient, results, results', hstrict, hlenient, hresults, hresults',
    Except.ok.inj hrun, hkept⟩

end

end Policy

end Registrar
