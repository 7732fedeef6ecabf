import Registrar.Proofs.Coherence
import Registrar.Proofs.Separators
import Registrar.Table

namespace Registrar

open Text

namespace Pattern

theorem notMem_of_isGroupName {c : Char} {name : String}
    (hc : Character.continuesName c = false) (h : isGroupName name = true) : c ∉ name.toList := by
  intro hmem
  rw [isGroupName] at h
  cases hchars : name.toList with
  | nil =>
    rw [hchars] at hmem
    exact List.not_mem_nil hmem
  | cons first rest =>
    rw [hchars, Bool.and_eq_true, List.all_eq_true] at h
    rw [hchars] at hmem
    have hcontinues : Character.continuesName c = true := by
      rcases List.mem_cons.1 hmem with rfl | hrest
      · rw [Character.continuesName, h.1, Bool.true_or]
      · exact h.2 c hrest
    rw [hc] at hcontinues
    exact Bool.false_ne_true hcontinues

end Pattern

namespace Partition

variable {partition other : Partition}

/-- What the text of a spec says, piece by piece. -/
def readSpec (spec : String) : List (Option (String × String)) := (pieces '/' spec).map (cut? '=')

def Slashless (partition : Partition) : Prop := ∀ value ∈ partition.values, '/' ∉ value.2.toList

/-- There are keys, and neither a slash nor a sign of equality stands in any of them. -/
structure Keyed (partition : Partition) : Prop where
  values_ne : partition.values ≠ []
  slash_notMem : ∀ value ∈ partition.values, '/' ∉ value.1.toList
  sign_notMem : ∀ value ∈ partition.values, '=' ∉ value.1.toList

theorem spec_eq_join (partition : Partition) :
    partition.spec = join "/" (partition.values.map (assignment "=")) := rfl

theorem Keyed.readSpec_spec_iff (h : partition.Keyed) :
    readSpec partition.spec = partition.values.map some ↔ partition.Slashless := by
  constructor
  · -- What is read from a piece holds no slash, as the piece holds none.
    intro hread value hvalue
    have hmem : some value ∈ readSpec partition.spec := by
      rw [hread]
      exact List.mem_map_of_mem hvalue
    obtain ⟨piece, hpiece, hcut⟩ := List.mem_map.1 hmem
    have hslash := notMem_of_mem_pieces hpiece
    rw [(cut?_eq_some_iff.1 hcut).1, List.mem_append, List.mem_cons, not_or, not_or] at hslash
    exact hslash.2.2
  · intro hslashless
    have hslash : ∀ piece ∈ partition.values.map (assignment "="), '/' ∉ piece.toList := by
      rw [List.forall_mem_map]
      intro value hvalue
      rw [mem_assignment_iff rfl (by decide), not_or]
      exact ⟨h.slash_notMem value hvalue, hslashless value hvalue⟩
    rw [readSpec, spec_eq_join, pieces_join rfl (List.map_eq_nil_iff.not.2 h.values_ne) hslash,
      List.map_map]
    exact List.map_congr_left fun value hvalue ↦ cut?_assignment rfl (h.sign_notMem value hvalue)

theorem Keyed.values_eq_of_spec_eq (h : partition.Keyed) (h' : other.Keyed)
    (hslashless : partition.Slashless) (hslashless' : other.Slashless)
    (hspec : partition.spec = other.spec) : partition.values = other.values := by
  have hread : partition.values.map some = other.values.map some := by
    rw [← h.readSpec_spec_iff.2 hslashless, ← h'.readSpec_spec_iff.2 hslashless', hspec]
  exact List.map_injective_iff.2 (Option.some_injective _) hread

end Partition

namespace PartitionPattern

variable {layout : PartitionPattern} {path : StoragePath} {table : Table}
  {result : Option Partition}

theorem exists_of_partition
    (h : (Layout.partitioned layout).partition path table = .ok result) :
    ∃ partition, result = some partition ∧ partition.keys = layout.keys := by
  obtain ⟨location, hlocation, -⟩ := bind_eq_ok_iff.1 h
  obtain rfl := StoragePath.eq_text_of_location hlocation
  obtain ⟨found, values, hfind, rfl⟩ := Layout.partition_partitioned_eq_ok_iff.1 h
  exact ⟨_, rfl, map_fst_values? (find_eq_ok_iff.1 hfind).2⟩

theorem keyed_of_keys_eq {partition : Partition} (h : partition.keys = layout.keys) :
    partition.Keyed := by
  have hnamed : ∀ value ∈ partition.values, Pattern.isGroupName value.1 = true := by
    intro value hvalue
    have hkey : value.1 ∈ layout.keys := h ▸ List.mem_map_of_mem hvalue
    obtain ⟨entry, hentry, heq⟩ := List.mem_map.1 hkey
    exact heq ▸ layout.pattern.names.named entry hentry
  -- A name of a group is made of letters, digits and the like, so it holds neither sign.
  refine ⟨fun hnil ↦ layout.named ?_, fun value hvalue ↦ ?_, fun value hvalue ↦ ?_⟩
  · rw [Partition.keys, hnil] at h
    exact List.map_eq_nil_iff.1 h.symm
  · exact Pattern.notMem_of_isGroupName (by decide +kernel) (hnamed value hvalue)
  · exact Pattern.notMem_of_isGroupName (by decide +kernel) (hnamed value hvalue)

end PartitionPattern

def Json.Value.member? (name : String) : Value → Option Value
  | object members => members.lookup name
  | _ => none

def Spec.jsonValues? (spec : Spec) : Option Json.Value :=
  (spec.toJson.member? "partition").bind (Json.Value.member? "values")

theorem Spec.jsonValues?_eq {spec : Spec} {partition : Partition}
    (h : spec.partition = some partition) (hnodup : partition.keys.Nodup) :
    spec.jsonValues? =
      some (.object (partition.values.map fun value ↦ (value.1, .text value.2))) := by
  have hvalues : (OrderedMap.ofList partition.values).entries = partition.values :=
    congrArg OrderedMap.entries (OrderedMap.ofList_entries ⟨partition.values, hnodup⟩)
  have hmember : spec.jsonValues? = some (Bag.toJson (.ofList partition.values)) := by
    rw [jsonValues?, toJson, members, h]
    rfl
  rw [hmember, Bag.toJson, hvalues]

namespace Layout

/-- In a partitioned layout the spec of a partition says again what its values are exactly if no
slash stands in them; in JSON each key of the layout has its value in any case. Partitions of one
layout whose values are free of slashes are told apart by their specs. -/
theorem partition_faithful {layout : PartitionPattern} {path : StoragePath} {table : Table}
    {result : Option Partition} (h : (partitioned layout).partition path table = .ok result) :
    ∃ partition, result = some partition ∧
      (Partition.readSpec partition.spec = partition.values.map some ↔ partition.Slashless) ∧
      (layout.keys.Nodup ∧ partition.keys = layout.keys ∧
        ∀ spec : Spec, spec.partition = some partition → spec.jsonValues? =
          some (.object (partition.values.map fun value ↦ (value.1, .text value.2)))) ∧
      ∀ path' table' other, (partitioned layout).partition path' table' = .ok (some other) →
        partition.Slashless → other.Slashless → partition.spec = other.spec →
          partition.values = other.values := by
  obtain ⟨partition, rfl, hkeys⟩ := PartitionPattern.exists_of_partition h
  have hkeyed : partition.Keyed := PartitionPattern.keyed_of_keys_eq hkeys
  have hnodup : layout.keys.Nodup := layout.pattern.names.nodup
  refine ⟨partition, rfl, hkeyed.readSpec_spec_iff, ⟨hnodup, hkeys, fun spec hspec ↦ ?_⟩, ?_⟩
  · exact Spec.jsonValues?_eq hspec (hkeys ▸ hnodup)
  · intro path' table' other h' hslashless hslashless' hspec
    obtain ⟨found, hfound, hkeys'⟩ := PartitionPattern.exists_of_partition h'
    obtain rfl := Option.some.inj hfound
    exact hkeyed.values_eq_of_spec_eq (PartitionPattern.keyed_of_keys_eq hkeys') hslashless
      hslashless' hspec

def dayConfiguration : Configuration :=
  ⟨.ofList [(Key.partitionRegex, "ds=(?P<ds>[^/]*)/+hr=(?P<hr>[^/]*)")]⟩

section

attribute [local instance] Host.bare

theorem partition_faithful_day :
    ∃ layout table partition, PartitionPattern.ofConfiguration dayConfiguration = .ok layout ∧
      (partitioned layout).partition (.text "/t/ds=a=b//hr=") table = .ok (some partition) ∧
      partition.spec = "ds=a=b/hr=" ∧ partition.Slashless ∧
      Partition.readSpec "ds=a=b/hr=" = [some ("ds", "a=b"), some ("hr", "")] := by
  let table : Table := ⟨"d", "t", .avro, "/t", .empty, .empty, .empty⟩
  let partition : Partition :=
    ⟨"d", "t", [("ds", "a=b"), ("hr", "")], "/t/ds=a=b//hr=", .empty, .empty, .empty⟩
  have hrun : (do
      let layout ← PartitionPattern.ofConfiguration dayConfiguration
      (partitioned layout).partition (.text "/t/ds=a=b//hr=") table :
        Except Fault (Option Partition)).toOption = some (some partition) := by
    decide +kernel
  obtain ⟨layout, hlayout, hpartition⟩ := bind_eq_ok_iff.1 (toOption_eq_some_iff.1 hrun)
  obtain ⟨other, hother, hread, -⟩ := partition_faithful hpartition
  obtain rfl := Option.some.inj hother
  have hslashless : partition.Slashless := by
    simp [Partition.Slashless, partition]
  have hspec : partition.spec = "ds=a=b/hr=" := by decide +kernel
  exact ⟨layout, table, partition, hlayout, hpartition, hspec, hslashless,
    hspec ▸ hread.2 hslashless⟩

end

end Layout

end Registrar
