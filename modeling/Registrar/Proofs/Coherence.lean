import Registrar.Proofs.Construction
import Registrar.Proofs.Locations
import Registrar.Proofs.Resolution

namespace Registrar

namespace Pattern

theorem search_eq_some {pattern : Pattern} {text : String} {found : Match}
    (h : pattern.search text = some found) :
    found.text = text.toList.toArray ∧ found.start ≤ text.toList.length := by
  obtain ⟨start, hstart, hfound⟩ := List.exists_of_findSome?_eq_some h
  have hle : start < text.toList.length + 1 := by simpa using List.mem_range.1 hstart
  split at hfound
  · obtain ⟨⟨stop, captures⟩, -, rfl⟩ := Option.map_eq_some_iff.1 hfound
    exact ⟨rfl, Nat.le_of_lt_succ hle⟩
  · cases hfound

end Pattern

namespace PartitionPattern

theorem ofConfiguration_eq_ok [Host] {config : Configuration} {layout : PartitionPattern}
    (h : ofConfiguration config = .ok layout) :
    ∃ source, config.get? Key.partitionRegex = some source ∧
      Pattern.compile source = .ok layout.pattern := by
  unfold ofConfiguration at h
  split at h
  · cases h
  · rename_i source hsource
    obtain ⟨pattern, hpattern, h⟩ := bind_eq_ok_iff.1 h
    rw [lift_eq_mapError, mapError_eq_ok_iff, ofPattern] at h
    split at h
    · cases h
      exact ⟨source, hsource, mapError_eq_ok_iff.1 hpattern⟩
    · cases h

theorem map_values? {layout : PartitionPattern} {found : Pattern.Match}
    {values : List (String × String)} (h : layout.values? found = some values) :
    values.map (fun value ↦ (value.1, some value.2)) =
      layout.pattern.names.entries.map fun entry ↦ (entry.1, found.group? entry.2) := by
  unfold values? at h
  generalize layout.pattern.names.entries = entries at h ⊢
  induction entries generalizing values with
  | nil =>
    cases h
    rfl
  | cons entry rest ih =>
    rw [List.mapM_cons] at h
    obtain ⟨value, hvalue, h⟩ := Option.bind_eq_some_iff.1 h
    obtain ⟨more, hmore, h⟩ := Option.bind_eq_some_iff.1 h
    obtain ⟨text, htext, rfl⟩ := Option.map_eq_some_iff.1 hvalue
    cases h
    rw [List.map_cons, List.map_cons, ih hmore, htext]

theorem map_fst_values? {layout : PartitionPattern} {found : Pattern.Match}
    {values : List (String × String)} (h : layout.values? found = some values) :
    values.map Prod.fst = layout.keys := by
  have hfst := congrArg (List.map Prod.fst) (map_values? h)
  rw [List.map_map, List.map_map] at hfst
  exact hfst

end PartitionPattern

/-- A partition belongs to a table, and its values are what a match captures for the named groups of
a pattern, in the order of the groups. -/
structure Partition.Describes (partition : Partition) (table : Table) (pattern : Pattern)
    (found : Pattern.Match) : Prop where
  database_eq : partition.database = table.database
  table_eq : partition.table = table.name
  properties_eq : partition.properties = table.properties
  storageProperties_eq : partition.storageProperties = table.storageProperties
  formatProperties_eq : partition.formatProperties = table.formatProperties
  keys_eq : partition.keys = pattern.names.entries.map Prod.fst
  keys_nodup : partition.keys.Nodup
  groups_increasing : (pattern.names.entries.map Prod.snd).Pairwise (· < ·)
  values_eq : partition.values.map (fun value ↦ (value.1, some value.2)) =
    pattern.names.entries.map fun entry ↦ (entry.1, found.group? entry.2)

/-- A location is what stands in a path before a match, but for slashes at its end. -/
structure Location.EndsBefore (location path : String) (found : Pattern.Match) : Prop where
  start_le : found.start ≤ path.toList.length
  nonempty : location ≠ ""
  getLast?_ne : location.toList.getLast? ≠ some '/'
  path_eq : ∃ slashes : List Char, (∀ c ∈ slashes, c = '/') ∧
    path.toList = location.toList ++ slashes ++ path.toList.drop found.start

theorem PartitionPattern.endsBefore_of_tableLocation {layout : PartitionPattern}
    {location path : String} {found : Pattern.Match} {values : List (String × String)}
    (hfind : layout.find path = .ok (found, values))
    (h : layout.tableLocation path = .ok location) : Location.EndsBefore location path found := by
  obtain ⟨other, _, hother, hlocation, hne⟩ := tableLocation_eq_ok_iff.1 h
  obtain ⟨rfl, -⟩ := Prod.mk.inj (Except.ok.inj (hother.symm.trans hfind))
  obtain ⟨slashes, hslashes, hcut⟩ :=
    Text.exists_dropped (· == '/') (path.toList.take other.start)
  refine ⟨(Pattern.search_eq_some (find_eq_ok_iff.1 hfind).1).2, hne, ?_, slashes, ?_, ?_⟩
  · intro hlast
    rw [hlocation] at hlast
    exact absurd (Text.getLast?_dropWhileRight hlast) (by decide)
  · intro c hc
    simpa using hslashes c hc
  · rw [hlocation, cut, ← hcut, List.take_append_drop]

/-- What a spec of the built-in policy with a name is like: the table lies at a front part of the
path, and the policy decides which part that is and whether the path is a partition. -/
structure Spec.Coherent [Host] (spec : Spec) (config : Configuration) (name : String) :
    Prop where
  location_front : spec.table.location.toList <+: spec.path.toList
  base : name = "base" → spec.table.location = spec.path ∧ spec.partition = none
  parentDirectory : name = "parent_directory" → spec.partition = none
  partitioned : name = "partitioned" →
    ∃ source pattern found partition, config.get? Key.partitionRegex = some source ∧
      Pattern.compile source = .ok pattern ∧ pattern.search spec.path = some found ∧
        spec.partition = some partition ∧ partition.location = spec.path ∧
          partition.Describes spec.table pattern found ∧
            Location.EndsBefore spec.table.location spec.path found

namespace Layout

theorem partition_partitioned_eq_ok_iff {pattern : PartitionPattern} {location : String}
    {table : Table} {result : Option Partition} :
    (partitioned pattern).partition (.text location) table = .ok result ↔
      ∃ found values, pattern.find location = .ok (found, values) ∧
        result = some ⟨table.database, table.name, values, location, table.properties,
          table.storageProperties, table.formatProperties⟩ := by
  rw [partition, StoragePath.location, ok_bind]
  simp only [lift_eq_mapError, bind_eq_ok_iff, mapError_eq_ok_iff, Prod.exists]
  refine exists_congr fun found ↦ exists_congr fun values ↦ and_congr_right fun _ ↦ ?_
  exact ⟨fun h ↦ (Except.ok.inj h).symm, fun h ↦ congrArg Except.ok h.symm⟩

theorem exists_partition_of_tableLocation {layout : Layout} {location before : String}
    (h : layout.tableLocation (.text location) = .ok before) (table : Table) :
    ∃ result, layout.partition (.text location) table = .ok result := by
  cases layout with
  | flat => exact ⟨none, rfl⟩
  | parentDirectory => exact ⟨none, rfl⟩
  | partitioned pattern =>
    rw [tableLocation_partitioned_eq_ok_iff, PartitionPattern.tableLocation_eq_ok_iff] at h
    obtain ⟨found, values, hfind, -⟩ := h
    exact ⟨_, partition_partitioned_eq_ok_iff.2 ⟨found, values, hfind, rfl⟩⟩

theorem tableLocation_isPrefix {layout : Layout} {location before : String}
    (h : layout.tableLocation (.text location) = .ok before) :
    before.toList <+: location.toList := by
  cases layout with
  | flat =>
    obtain rfl := Except.ok.inj h
    exact List.prefix_rfl
  | parentDirectory =>
    exact (Location.parent?_eq_some (tableLocation_parentDirectory_eq_ok_iff.1 h)).2
  | partitioned pattern =>
    rw [tableLocation_partitioned_eq_ok_iff, PartitionPattern.tableLocation_eq_ok_iff] at h
    obtain ⟨found, -, -, hbefore, -⟩ := h
    rw [hbefore]
    exact PartitionPattern.prefix_cut location found

end Layout

theorem StoragePath.eq_text_of_location {path : StoragePath} {location : String}
    (h : path.location = .ok location) : path = .text location := by
  cases path with
  | text other => rw [Except.ok.inj h]
  | foreign kind => cases h

namespace Policy

theorem partitioned_coherent {pattern : PartitionPattern} {spec : Spec}
    (hlocation : (Layout.partitioned pattern).tableLocation (.text spec.path) =
      .ok spec.table.location)
    (hpartition : (Layout.partitioned pattern).partition (.text spec.path) spec.table =
      .ok spec.partition) :
    ∃ found partition, pattern.pattern.search spec.path = some found ∧
      spec.partition = some partition ∧ partition.location = spec.path ∧
        partition.Describes spec.table pattern.pattern found ∧
          Location.EndsBefore spec.table.location spec.path found := by
  obtain ⟨found, values, hfind, hspec⟩ := Layout.partition_partitioned_eq_ok_iff.1 hpartition
  have hsearch := PartitionPattern.find_eq_ok_iff.1 hfind
  have hkeys := PartitionPattern.map_fst_values? hsearch.2
  have hnodup : (values.map Prod.fst).Nodup := by
    rw [hkeys]
    exact pattern.pattern.names.nodup
  refine ⟨found, _, hsearch.1, hspec, rfl, ⟨rfl, rfl, rfl, rfl, rfl, hkeys, hnodup,
    pattern.pattern.names.increasing, PartitionPattern.map_values? hsearch.2⟩, ?_⟩
  exact PartitionPattern.endsBefore_of_tableLocation hfind
    (Layout.tableLocation_partitioned_eq_ok_iff.1 hlocation)

/-- What a built-in policy registers for a path is one spec whose parts fit together, and once the
table of a path has been found nothing keeps its partition from being found. -/
theorem specs_coherent [Host] {name : String} {config : Configuration} {policy : Policy}
    (h : Registry.default.create name config = .ok policy) (path : StoragePath) :
    (name = "base" ∨ name = "parent_directory" ∨ name = "partitioned") ∧
    (∀ specs, (policy.specs path).outcome = .ok specs →
      ∃ spec, specs = [spec] ∧ path = .text spec.path ∧ spec.Coherent config name) ∧
    ∀ table, (policy.tableFor path).outcome = .ok table →
      ∃ partition, policy.layout.partition path table = .ok partition := by
  obtain ⟨layout, hnamed, hbuilt⟩ := Registry.create_default_named h
  have hlayout := hbuilt.layout_eq
  refine ⟨?_, fun specs hspecs ↦ ?_, fun table htable ↦ ?_⟩
  · cases hnamed with
    | base => exact .inl rfl
    | parentDirectory => exact .inr (.inl rfl)
    | partitioned => exact .inr (.inr rfl)
  · obtain ⟨spec, rfl, hpath, htable, hpartition⟩ := specs_eq_ok hspecs
    obtain rfl := StoragePath.eq_text_of_location hpath
    have hlocation := (tableFor_eq_ok htable).2.2
    rw [hlayout] at hlocation hpartition
    have hfront := Layout.tableLocation_isPrefix hlocation
    refine ⟨spec, rfl, rfl, ?_⟩
    cases hnamed with
    | base =>
      have hwhole : spec.table.location = spec.path := (Except.ok.inj hlocation).symm
      have hnone : spec.partition = none := (Except.ok.inj hpartition).symm
      exact ⟨hfront, fun _ ↦ ⟨hwhole, hnone⟩, fun h ↦ absurd h (by decide),
        fun h ↦ absurd h (by decide)⟩
    | parentDirectory =>
      have hnone : spec.partition = none := (Except.ok.inj hpartition).symm
      exact ⟨hfront, fun h ↦ absurd h (by decide), fun _ ↦ hnone, fun h ↦ absurd h (by decide)⟩
    | partitioned hpattern =>
      refine ⟨hfront, fun h ↦ absurd h (by decide), fun h ↦ absurd h (by decide), fun _ ↦ ?_⟩
      obtain ⟨source, hsource, hcompile⟩ := PartitionPattern.ofConfiguration_eq_ok hpattern
      obtain ⟨found, partition, hfound⟩ := partitioned_coherent hlocation hpartition
      exact ⟨source, _, found, partition, hsource, hcompile, hfound⟩
  · have hlocation := (tableFor_eq_ok htable).2.2
    cases path with
    | text location => exact Layout.exists_partition_of_tableLocation hlocation table
    | foreign kind => cases hlocation

def hourConfiguration : Configuration :=
  ⟨.ofList [(Key.databaseName, "d"), (Key.tableName, "t"), (Key.storageProperties, "k:v"),
    (Key.partitionRegex, "hr=(?P<hr>\\d+)(,|/+)ds=(?P<ds>[^/]*)")]⟩

section

attribute [local instance] Host.bare

theorem specs_coherent_hour :
    ∃ policy table partition,
      Registry.default.create "partitioned" hourConfiguration = .ok policy ∧
      (policy.specs (.text "/t//hr=2,ds=")).outcome =
        .ok [⟨"/t//hr=2,ds=", table, some partition⟩] ∧
      table.location = "/t" ∧ partition.values = [("hr", "2"), ("ds", "")] ∧
      (⟨"/t//hr=2,ds=", table, some partition⟩ : Spec).Coherent hourConfiguration "partitioned" ∧
      ∃ result, policy.layout.partition (.text "/t//hr=2,ds=") table = .ok result := by
  let bag : Bag := ⟨[("k", "v")], by decide⟩
  let table : Table := ⟨"d", "t", .avro, "/t", .empty, bag, .empty⟩
  let partition : Partition :=
    ⟨"d", "t", [("hr", "2"), ("ds", "")], "/t//hr=2,ds=", .empty, bag, .empty⟩
  have hrun : (do
      let policy ← Registry.default.create "partitioned" hourConfiguration
      (policy.specs (.text "/t//hr=2,ds=")).outcome : Except Fault (List Spec)).toOption =
        some [⟨"/t//hr=2,ds=", table, some partition⟩] := by
    decide +kernel
  obtain ⟨policy, hpolicy, hspecs⟩ := bind_eq_ok_iff.1 (toOption_eq_some_iff.1 hrun)
  obtain ⟨-, hcoherent, hpartition⟩ := specs_coherent hpolicy (.text "/t//hr=2,ds=")
  obtain ⟨spec, hspec, -, hfits⟩ := hcoherent _ hspecs
  obtain rfl := (List.cons.inj hspec).1
  obtain ⟨_, hone, -, htable, -⟩ := specs_eq_ok hspecs
  obtain rfl := (List.cons.inj hone).1
  exact ⟨policy, table, partition, hpolicy, hspecs, rfl, rfl, hfits, hpartition table htable⟩

end

end Policy

end Registrar
