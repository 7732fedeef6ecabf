import Registrar.Proofs.OrderedMaps
import Registrar.Registry
import Registrar.Table

namespace Registrar

open OrderedMap

theorem Bag.keys_labelled (label : String) (bag : Bag) :
    (bag.labelled label).map Prod.fst = bag.keys.map (label ++ ·) := by
  rw [Bag.labelled, keys, List.map_map, List.map_map]
  rfl

theorem Bag.mem_labelled {label : String} {bag : Bag} {entry : String × String}
    (h : entry ∈ bag.entries) : (label ++ entry.1, entry.2) ∈ bag.labelled label :=
  List.mem_map_of_mem h

namespace Table

variable {table : Table}

def labelledProperties (table : Table) : List (String × String) :=
  Bag.labelled "storage." table.storageProperties ++ Bag.labelled "serde." table.formatProperties

/-- The names of the properties of a table that are also told of its storage or format. -/
def shadowed (table : Table) : List String :=
  table.properties.keys.filter (· ∈ table.labelledProperties.map Prod.fst)

theorem allProperties_eq (table : Table) :
    table.allProperties = table.properties.insertAll table.labelledProperties :=
  List.foldl_append.symm

theorem nodup_labelledProperties (table : Table) :
    (table.labelledProperties.map Prod.fst).Nodup := by
  have hlabel (label : String) (bag : Bag) : (bag.keys.map (label ++ ·)).Nodup :=
    bag.nodup.map fun _ _ ↦ (String.append_right_inj label).1
  rw [labelledProperties, List.map_append, Bag.keys_labelled, Bag.keys_labelled]
  refine List.nodup_append.2 ⟨hlabel _ _, hlabel _ _, ?_⟩
  -- The labels differ in their second letter.
  intro first hfirst second hsecond heq
  obtain ⟨name, -, rfl⟩ := List.mem_map.1 hfirst
  obtain ⟨name', -, rfl⟩ := List.mem_map.1 hsecond
  have hchars := congrArg String.toList heq
  simp at hchars

theorem mem_shadowed {key : String} :
    key ∈ table.shadowed ↔ key ∈ table.properties.keys ∧
      ((∃ name ∈ table.storageProperties.keys, key = "storage." ++ name) ∨
        ∃ name ∈ table.formatProperties.keys, key = "serde." ++ name) := by
  rw [shadowed, List.mem_filter, decide_eq_true_eq, labelledProperties, List.map_append,
    Bag.keys_labelled, Bag.keys_labelled, List.mem_append, List.mem_map, List.mem_map]
  simp only [eq_comm]

/-- What becomes of the bags of a table in the one bag of a catalog. -/
structure Folds (table : Table) (bag : Bag) : Prop where
  storage : ∀ entry ∈ table.storageProperties.entries,
    bag.get? ("storage." ++ entry.1) = some entry.2
  format : ∀ entry ∈ table.formatProperties.entries, bag.get? ("serde." ++ entry.1) = some entry.2
  own : ∀ entry ∈ table.properties.entries, entry.1 ∉ table.shadowed →
    bag.get? entry.1 = some entry.2
  nothing_else : ∀ entry ∈ bag.entries, entry ∈ table.labelledProperties ∨
    entry ∈ table.properties.entries ∧ entry.1 ∉ table.shadowed
  size : bag.size + table.shadowed.length =
    table.properties.size + table.storageProperties.size + table.formatProperties.size

theorem folds_allProperties (table : Table) : table.Folds table.allProperties := by
  have hnodup := table.nodup_labelledProperties
  have hlabelled : ∀ entry ∈ table.labelledProperties,
      table.allProperties.get? entry.1 = some entry.2 := by
    intro entry hentry
    rw [allProperties_eq]
    exact get?_insertAll_of_mem hnodup hentry
  constructor
  case storage =>
    intro entry hentry
    exact hlabelled _ (List.mem_append_left _ (Bag.mem_labelled hentry))
  case format =>
    intro entry hentry
    exact hlabelled _ (List.mem_append_right _ (Bag.mem_labelled hentry))
  case own =>
    intro entry hentry hkept
    have hkey : entry.1 ∈ table.properties.keys := List.mem_map_of_mem hentry
    have habsent : entry.1 ∉ table.labelledProperties.map Prod.fst := by
      intro hmem
      exact hkept (List.mem_filter.2 ⟨hkey, decide_eq_true hmem⟩)
    rw [allProperties_eq, get?_insertAll_of_notMem habsent]
    exact get?_of_mem hentry
  case nothing_else =>
    intro entry hentry
    rw [allProperties_eq] at hentry
    refine (mem_entries_insertAll hentry).imp_right (And.imp_right ?_)
    intro habsent hmem
    exact habsent (of_decide_eq_true (List.mem_filter.1 hmem).2)
  case size =>
    have hlength : table.labelledProperties.length =
        table.storageProperties.size + table.formatProperties.size := by
      rw [labelledProperties, List.length_append, Bag.labelled, Bag.labelled, List.length_map,
        List.length_map]
      rfl
    rw [allProperties_eq, Nat.add_assoc, ← hlength]
    exact size_insertAll table.properties hnodup

end Table

namespace Spec

/-- The bags of storage and format are told unchanged, and so is every property of the table whose
name they do not take. There are as many properties as in the three bags exactly if none is
taken. -/
theorem folds_tableInfo (spec : Spec) (catalog : Option String) :
    spec.table.Folds (spec.tableInfo catalog).properties ∧
      ((spec.tableInfo catalog).properties.size = spec.table.properties.size +
          spec.table.storageProperties.size + spec.table.formatProperties.size ↔
        ∀ key ∈ spec.table.properties.keys,
          (∀ name ∈ spec.table.storageProperties.keys, key ≠ "storage." ++ name) ∧
            ∀ name ∈ spec.table.formatProperties.keys, key ≠ "serde." ++ name) := by
  have hfolds : spec.table.Folds (spec.tableInfo catalog).properties :=
    spec.table.folds_allProperties
  refine ⟨hfolds, ?_⟩
  have hempty : (spec.tableInfo catalog).properties.size = spec.table.properties.size +
      spec.table.storageProperties.size + spec.table.formatProperties.size ↔
        spec.table.shadowed = [] := by
    rw [← List.length_eq_zero_iff]
    have hsize := hfolds.size
    omega
  rw [hempty, List.eq_nil_iff_forall_not_mem]
  simp only [Table.mem_shadowed, not_and, not_or, not_exists, ne_eq]

section

attribute [local instance] Host.bare

theorem tableInfo_overwrites :
    ∃ policy spec,
      (Registry.default.policyFor ⟨.ofList [("registration.policy", "base"),
        ("database.name", "d"), ("table.name", "t"), ("table.partition.props", "storage.k:1"),
        ("storage.props", "k:2")]⟩).outcome = .ok policy ∧
      (policy.specs (.text "/x")).outcome = .ok [spec] ∧
      spec.table.properties.entries = [("storage.k", "1")] ∧
      spec.table.storageProperties.entries = [("k", "2")] ∧
      (spec.tableInfo none).properties.entries = [("storage.k", "2")] :=
  ⟨_, _, rfl, rfl, rfl, rfl, rfl⟩

end

end Spec

end Registrar
