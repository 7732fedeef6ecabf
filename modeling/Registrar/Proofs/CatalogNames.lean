import Registrar.Proofs.Resolution
import Registrar.Proofs.Trimming
import Registrar.Table

namespace Registrar

namespace Text

theorem dotted_inj {front back front' back' : String} (h : '.' ∉ back.toList)
    (h' : '.' ∉ back'.toList) :
    front ++ "." ++ back = front' ++ "." ++ back' ↔ front = front' ∧ back = back' := by
  have hchars (front back : String) :
      (front ++ "." ++ back).toList = front.toList ++ '.' :: back.toList := by
    simp
  rw [← String.toList_inj, hchars, hchars, append_separator_inj h h', String.toList_inj,
    String.toList_inj]

end Text

theorem Identifier.WellFormed.dot_notMem {text : String} (h : WellFormed text) :
    '.' ∉ text.toList := by
  intro hdot
  rcases h.consists '.' hdot with ⟨hlow, -⟩ | ⟨hlow, -⟩ | heq
  · exact absurd hlow (by decide)
  · exact absurd hlow (by decide)
  · exact absurd heq (by decide)

structure Table.WellNamed (table : Table) : Prop where
  database : Identifier.WellFormed table.database
  name : Identifier.WellFormed table.name

namespace Table

variable {table table' : Table}

theorem fullName_eq (table : Table) : table.fullName = table.database ++ "." ++ table.name := rfl

theorem fullName_inj (h : table.WellNamed) (h' : table'.WellNamed) :
    table.fullName = table'.fullName ↔
      table.database = table'.database ∧ table.name = table'.name :=
  Text.dotted_inj h.name.dot_notMem h'.name.dot_notMem

theorem dotted_fullName (catalog : String) (table : Table) :
    catalog ++ "." ++ table.fullName = catalog ++ "." ++ table.database ++ "." ++ table.name := by
  simp only [fullName_eq, String.append_assoc]

theorem dotted_fullName_inj (h : table.WellNamed) (h' : table'.WellNamed)
    {catalog catalog' : String} :
    catalog ++ "." ++ table.fullName = catalog' ++ "." ++ table'.fullName ↔
      catalog = catalog' ∧ table.database = table'.database ∧ table.name = table'.name := by
  rw [dotted_fullName, dotted_fullName, Text.dotted_inj h.name.dot_notMem h'.name.dot_notMem,
    Text.dotted_inj h.database.dot_notMem h'.database.dot_notMem, and_assoc]

theorem dotted_fullName_ne (h : table.WellNamed) (h' : table'.WellNamed) (catalog : String) :
    catalog ++ "." ++ table.fullName ≠ table'.fullName := by
  intro heq
  rw [dotted_fullName, fullName_eq] at heq
  obtain ⟨hdatabase, -⟩ := (Text.dotted_inj h.name.dot_notMem h'.name.dot_notMem).1 heq
  apply h'.database.dot_notMem
  rw [← hdatabase]
  simp

end Table

namespace Policy

theorem wellNamed_of_specs {policy : Policy} {path : StoragePath} {specs : List Spec}
    (h : (policy.specs path).outcome = .ok specs) : ∀ spec ∈ specs, spec.table.WellNamed := by
  obtain ⟨spec, rfl, -, htable, -⟩ := specs_eq_ok h
  obtain ⟨hdatabase, hname⟩ := wellFormed_of_tableFor htable
  intro other hother
  rw [List.mem_singleton.1 hother]
  exact ⟨hdatabase, hname⟩

end Policy

namespace Spec

theorem fullName_tableInfo (spec : Spec) (catalog : Option String) :
    (spec.tableInfo catalog).fullName = if catalog.getD "" = "" then spec.table.fullName
      else catalog.getD "" ++ "." ++ spec.table.fullName := by
  unfold tableInfo
  dsimp only
  split
  · rfl
  · rfl
  · rename_i name hne
    rw [Option.getD_some, if_neg hne]
    rfl

/-- The full name that a catalog is told of a spec says which table is meant and in which catalog,
the empty name being no catalog. -/
theorem tableInfo_fullName_eq_iff {policy policy' : Policy} {path path' : StoragePath}
    {specs specs' : List Spec} (h : (policy.specs path).outcome = .ok specs)
    (h' : (policy'.specs path').outcome = .ok specs') :
    ∀ spec ∈ specs, ∀ spec' ∈ specs',
      (∀ catalog catalog' : Option String,
        (spec.tableInfo catalog).fullName = (spec'.tableInfo catalog').fullName ↔
          spec.table.database = spec'.table.database ∧ spec.table.name = spec'.table.name ∧
            catalog.getD "" = catalog'.getD "") ∧
      (spec.table.fullName = spec'.table.fullName ↔
        spec.table.database = spec'.table.database ∧ spec.table.name = spec'.table.name) := by
  intro spec hspec spec' hspec'
  have hw := Policy.wellNamed_of_specs h spec hspec
  have hw' := Policy.wellNamed_of_specs h' spec' hspec'
  refine ⟨fun catalog catalog' ↦ ?_, Table.fullName_inj hw hw'⟩
  rw [fullName_tableInfo, fullName_tableInfo]
  by_cases hnone : catalog.getD "" = "" <;> by_cases hnone' : catalog'.getD "" = ""
  · rw [if_pos hnone, if_pos hnone', Table.fullName_inj hw hw', hnone, hnone']
    simp
  · rw [if_pos hnone, if_neg hnone']
    refine iff_of_false (Table.dotted_fullName_ne hw' hw _).symm ?_
    rintro ⟨-, -, heq⟩
    exact hnone' (heq.symm.trans hnone)
  · rw [if_neg hnone, if_pos hnone']
    refine iff_of_false (Table.dotted_fullName_ne hw hw' _) ?_
    rintro ⟨-, -, heq⟩
    exact hnone (heq.trans hnone')
  · rw [if_neg hnone, if_neg hnone', Table.dotted_fullName_inj hw hw']
    tauto

def spelledConfiguration : Configuration :=
  ⟨.ofList [(Key.databaseName, "K"), (Key.tableRegex, "/(1.)"), (Key.tablePrefix, "k")]⟩

section

attribute [local instance] Host.bare

theorem tableInfo_fullName_eq_iff_kelvin :
    ∃ policy policy' spec spec',
      Registry.default.create "base" Policy.kelvinConfiguration = .ok policy ∧
      Registry.default.create "parent_directory" spelledConfiguration = .ok policy' ∧
      (policy.specs (.text "/K/x")).outcome = .ok [spec] ∧
      (policy'.specs (.text "/a/1_")).outcome = .ok [spec'] ∧
      (spec.tableInfo (some "a.b")).fullName = "a.b.k.k1_" ∧
      (spec'.tableInfo (some "a.b")).fullName = "a.b.k.k1_" ∧
      spec.table.database = spec'.table.database ∧ spec.table.name = spec'.table.name := by
  have hrun : (do
      let policy ← Registry.default.create "base" Policy.kelvinConfiguration
      let policy' ← Registry.default.create "parent_directory" spelledConfiguration
      let specs ← (policy.specs (.text "/K/x")).outcome
      let specs' ← (policy'.specs (.text "/a/1_")).outcome
      return (specs, specs') : Except Fault (List Spec × List Spec)).toOption =
        some ([⟨"/K/x", ⟨"k", "k1_", .avro, "/K/x", .empty, .empty, .empty⟩, none⟩],
          [⟨"/a/1_", ⟨"k", "k1_", .avro, "/a", .empty, .empty, .empty⟩, none⟩]) := by
    decide +kernel
  obtain ⟨policy, hpolicy, hrun⟩ := bind_eq_ok_iff.1 (toOption_eq_some_iff.1 hrun)
  obtain ⟨policy', hpolicy', hrun⟩ := bind_eq_ok_iff.1 hrun
  obtain ⟨specs, hspecs, hrun⟩ := bind_eq_ok_iff.1 hrun
  obtain ⟨specs', hspecs', hrun⟩ := bind_eq_ok_iff.1 hrun
  cases hrun
  have hiff := tableInfo_fullName_eq_iff hspecs hspecs' _ (List.mem_singleton_self _) _
    (List.mem_singleton_self _)
  obtain ⟨hdatabase, hname, -⟩ := (hiff.1 (some "a.b") (some "a.b")).1 rfl
  exact ⟨policy, policy', _, _, hpolicy, hpolicy', hspecs, hspecs', rfl, rfl, hdatabase, hname⟩

end

end Spec

end Registrar
