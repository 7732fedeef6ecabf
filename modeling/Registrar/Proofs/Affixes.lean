import Registrar.Proofs.Construction
import Registrar.Proofs.Resolution

namespace Registrar

namespace Text

open Registrar.Character

variable {core core' : String}

/-- A name in lower case stands unchanged between what the affixes become. How long these are does
not depend on the name. -/
theorem exists_lower_between (head tail : String) (h : ∀ c ∈ core.toList, lowerAlone c = [c]) :
    ∃ first last, (lower (head ++ core ++ tail)).toList = first ++ (core.toList ++ last) ∧
      first.length = (head.toList.flatMap lowerAlone).length ∧
        last.length = (tail.toList.flatMap lowerAlone).length := by
  obtain ⟨first, hfirst, happend⟩ :=
    exists_lowerFrom_append [] head.toList (core.toList ++ tail.toList)
  refine ⟨first, lowerFrom (core.toList.reverse ++ head.toList.reverse) tail.toList, ?_, hfirst,
    length_lowerFrom _ _⟩
  rw [lower, String.toList_ofList, lowerChars, String.toList_append, String.toList_append,
    List.append_assoc, happend, List.append_nil, lowerFrom_append (sigma_notMem h),
    flatMap_lowerAlone_eq_self h]

theorem lower_between_inj (head tail : String) (h : ∀ c ∈ core.toList, lowerAlone c = [c])
    (h' : ∀ c ∈ core'.toList, lowerAlone c = [c]) :
    lower (head ++ core ++ tail) = lower (head ++ core' ++ tail) ↔ core = core' := by
  constructor
  · intro heq
    obtain ⟨first, last, hlower, hfirst, hlast⟩ := exists_lower_between head tail h
    obtain ⟨first', last', hlower', hfirst', hlast'⟩ := exists_lower_between head tail h'
    have hchars : first ++ (core.toList ++ last) = first' ++ (core'.toList ++ last') := by
      rw [← hlower, heq, hlower']
    obtain ⟨-, hrest⟩ := List.append_inj hchars (hfirst.trans hfirst'.symm)
    obtain ⟨hcore, -⟩ := List.append_inj' hrest (hlast.trans hlast'.symm)
    exact String.toList_inj.1 hcore
  · rintro rfl
    rfl

theorem lower_append_of_ascii {front back : String}
    (h : ∀ d ∈ (lower (front ++ back)).toList, d.toNat < 128) :
    lower (front ++ back) = lower front ++ lower back := by
  have hchars : (lower (front ++ back)).toList =
      lowerFrom [] (front.toList ++ back.toList) := by
    rw [lower, String.toList_ofList, lowerChars, String.toList_append]
  rw [hchars] at h
  have hnone := sigma_notMem_of_ascii h
  rw [List.mem_append, not_or] at hnone
  rw [← String.toList_inj, hchars, lowerFrom_append hnone.1, lowerFrom_eq_flatMap hnone.2]
  simp [lower, lowerChars, lowerFrom_eq_flatMap hnone.1, lowerFrom_eq_flatMap hnone.2]

end Text

namespace NameRule

open Identifier

variable {rule : NameRule} {core core' : String}

/-- A name between affixes, all of it in lower case. -/
def whole (rule : NameRule) (core : String) : String :=
  Text.lower (rule.head ++ core ++ rule.tail)

theorem whole_eq (hcore : WellFormed core) (h : WellFormed (rule.whole core)) :
    rule.whole core = Text.lower rule.head ++ core ++ Text.lower rule.tail := by
  have hascii : ∀ d ∈ (rule.whole core).toList, d.toNat < 128 := fun d hd ↦
    (toNat_of_part (h.consists d hd)).2
  have hwhole : rule.whole core = Text.lower (rule.head ++ core) ++ Text.lower rule.tail :=
    Text.lower_append_of_ascii hascii
  have hfront : Text.lower (rule.head ++ core) = Text.lower rule.head ++ Text.lower core := by
    refine Text.lower_append_of_ascii fun d hd ↦ hascii d ?_
    rw [hwhole, String.toList_append]
    exact List.mem_append_left _ hd
  rw [hwhole, hfront, hcore.lower_eq_self]

theorem affix_eq (hcore : WellFormed core) :
    rule.affix core =
      if WellFormed (rule.whole core) then
        .ok (Text.lower rule.head ++ core ++ Text.lower rule.tail)
      else .error (.invalidAffixed (rule.whole core) rule.headKey rule.tailKey) := by
  unfold affix
  split
  · rename_i hbare
    have hself : rule.whole core = core := by
      rw [whole, hbare.1, hbare.2, String.empty_append, String.append_empty, hcore.lower_eq_self]
    have hempty : Text.lower "" = "" := rfl
    rw [hself, if_pos hcore, hbare.1, hbare.2, hempty, String.empty_append, String.append_empty]
  · have hvalid : isValid (Text.lower (rule.head ++ core ++ rule.tail)) = true ↔
        WellFormed (rule.whole core) := by
      rw [isValid_lower, isIdentifier_iff, whole]
    simp only [hvalid]
    split
    · rename_i h
      rw [← whole_eq hcore h, whole]
    · rfl

theorem affix_inj (hcore : WellFormed core) (hcore' : WellFormed core') :
    rule.affix core = rule.affix core' ↔ core = core' := by
  constructor
  · intro heq
    have hwhole : rule.whole core = rule.whole core' := by
      rw [affix_eq hcore, affix_eq hcore'] at heq
      split at heq <;> split at heq
      · rename_i h h'
        -- Both names are the cores between the same affixes.
        rw [whole_eq hcore h, whole_eq hcore' h', Except.ok.inj heq]
      · cases heq
      · cases heq
      · exact (Fault.invalidAffixed.inj (Except.error.inj heq)).1
    exact (Text.lower_between_inj _ _ hcore.lowerAlone_eq hcore'.lowerAlone_eq).1 hwhole
  · rintro rfl
    rfl

end NameRule

/-- What names come to between affixes. The outcome for a path depends on the name without them,
the core, and on what the affixes are. -/
structure Affixing (head tail headKey tailKey : String)
    (core name : StoragePath → Except Fault String) : Prop where
  name_eq : ∀ path r, core path = .ok r →
    name path =
      if Identifier.WellFormed (Text.lower (head ++ r ++ tail)) then
        .ok (Text.lower head ++ r ++ Text.lower tail)
      else .error (.invalidAffixed (Text.lower (head ++ r ++ tail)) headKey tailKey)
  bare : head = "" → tail = "" → ∀ path r, core path = .ok r → name path = .ok r
  same_iff : ∀ path path' r r', core path = .ok r → core path' = .ok r' →
    (name path = name path' ↔ r = r')

theorem NameRule.affixing (rule : NameRule) (config : Configuration) (sanitizing : Bool) :
    Affixing rule.head rule.tail rule.headKey rule.tailKey
      (fun path ↦ (Naming.resolve config sanitizing rule.keys rule.pattern path).outcome)
      (fun path ↦ (rule.resolve config sanitizing path).outcome) := by
  have hname (path : StoragePath) (r : String)
      (h : (Naming.resolve config sanitizing rule.keys rule.pattern path).outcome = .ok r) :
      Identifier.WellFormed r ∧ (rule.resolve config sanitizing path).outcome = rule.affix r := by
    rw [outcome_resolve, h, ok_bind]
    exact ⟨Naming.wellFormed_of_resolve h, rfl⟩
  constructor
  · intro path r h
    obtain ⟨hr, houtcome⟩ := hname path r h
    rw [houtcome, affix_eq hr, whole]
  · intro hhead htail path r h
    rw [(hname path r h).2, affix, if_pos ⟨hhead, htail⟩]
  · intro path path' r r' h h'
    obtain ⟨hr, houtcome⟩ := hname path r h
    obtain ⟨hr', houtcome'⟩ := hname path' r' h'
    rw [houtcome, houtcome', affix_inj hr hr']

namespace Policy

/-- The names of databases and of tables are put between what the configuration gives as affixes.
A name has to be an identifier as a whole; it is then the core between the affixes in lower case,
and whether or not it is one, it tells the core. -/
theorem names_affixing [Host] {config : Configuration} {layout : Layout} {policy : Policy}
    (h : build config layout = .ok policy) :
    Affixing (config.getD Key.databasePrefix "") (config.getD Key.databaseSuffix "")
        Key.databasePrefix Key.databaseSuffix
        (fun path ↦ (Naming.resolve config policy.sanitizing .database policy.database.pattern
          path).outcome)
        (fun path ↦ (policy.databaseName path).outcome) ∧
      Affixing (config.getD Key.tablePrefix "") (config.getD Key.tableSuffix "")
        Key.tablePrefix Key.tableSuffix
        (fun path ↦ (Naming.resolve config policy.sanitizing .table policy.table.pattern
          path).outcome)
        (fun path ↦ (policy.tableName path).outcome) := by
  have hb := build_eq_ok_iff.1 h
  obtain ⟨database, -, hdatabase⟩ := NameRule.ofConfiguration_eq_ok_iff.1 hb.database
  obtain ⟨table, -, htable⟩ := NameRule.ofConfiguration_eq_ok_iff.1 hb.table
  have hd := policy.database.affixing config policy.sanitizing
  have ht := policy.table.affixing config policy.sanitizing
  unfold databaseName tableName
  rw [hb.config_eq]
  rw [hdatabase] at hd ⊢
  rw [htable] at ht ⊢
  exact ⟨hd, ht⟩

def affixConfiguration : Configuration :=
  ⟨.ofList [(Key.databaseRegex, "/([^/]+)"), (Key.databasePrefix, "\u212aA_"),
    (Key.tableName, "T"), (Key.tableSuffix, "Σ")]⟩

section

attribute [local instance] Host.bare

theorem names_affixing_kelvin :
    ∃ policy, build affixConfiguration .flat = .ok policy ∧
      (policy.databaseName (.text "/X-1/y")).outcome = .ok "ka_x_1" ∧
      (policy.tableName (.text "/X-1/y")).outcome =
        .error (.invalidAffixed "tς" Key.tablePrefix Key.tableSuffix) := by
  have hrun : (do
      let policy ← build affixConfiguration .flat
      let database ← (Naming.resolve affixConfiguration policy.sanitizing .database
        policy.database.pattern (.text "/X-1/y")).outcome
      let table ← (Naming.resolve affixConfiguration policy.sanitizing .table
        policy.table.pattern (.text "/X-1/y")).outcome
      return (database, table) : Except Fault (String × String)).toOption = some ("x_1", "t") := by
    decide +kernel
  obtain ⟨policy, hpolicy, hrun⟩ := bind_eq_ok_iff.1 (toOption_eq_some_iff.1 hrun)
  obtain ⟨database, hdatabase, hrun⟩ := bind_eq_ok_iff.1 hrun
  obtain ⟨table, htable, hrun⟩ := bind_eq_ok_iff.1 hrun
  cases hrun
  obtain ⟨hd, ht⟩ := names_affixing hpolicy
  have hhead : Text.lower "\u212aA_" = "ka_" := by decide +kernel
  have hfull : Text.lower ("\u212aA_" ++ "x_1" ++ "") = "ka_x_1" := by decide +kernel
  have hsigma : Text.lower ("" ++ "t" ++ "Σ") = "tς" := by decide +kernel
  have hvalid : Identifier.WellFormed "ka_x_1" := by decide
  have hinvalid : ¬Identifier.WellFormed "tς" := by decide
  have hdatabaseHead : affixConfiguration.getD Key.databasePrefix "" = "\u212aA_" := rfl
  have htableTail : affixConfiguration.getD Key.tableSuffix "" = "Σ" := rfl
  refine ⟨policy, hpolicy, ?_, ?_⟩
  · rw [hd.name_eq _ _ hdatabase, hdatabaseHead]
    exact (if_pos (hfull ▸ hvalid)).trans (by rw [hhead]; rfl)
  · rw [ht.name_eq _ _ htable, htableTail]
    exact (if_neg (hsigma ▸ hinvalid)).trans (by rw [← hsigma]; rfl)

end

end Policy

end Registrar
