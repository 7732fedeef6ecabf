import Mathlib.Data.List.Perm.Subperm
import Registrar.Proofs.Layers

namespace Registrar

namespace OrderedMap

variable {α : Type} {m n : OrderedMap α}

theorem nodup_keys (m : OrderedMap α) : m.keys.Nodup := m.nodup

theorem mem_keys_iff_get? {key : String} : key ∈ m.keys ↔ m.get? key ≠ none := by
  rw [Ne, get?_eq_none_iff, not_not]

theorem keys_perm_of_get? (h : ∀ key, m.get? key = n.get? key) : m.keys.Perm n.keys := by
  refine (List.perm_ext_iff_of_nodup m.nodup_keys n.nodup_keys).2 fun key ↦ ?_
  rw [mem_keys_iff_get?, mem_keys_iff_get?, h key]

theorem size_eq_length_keys (m : OrderedMap α) : m.size = m.keys.length := by
  rw [size, keys, List.length_map]

theorem filterMap_some (m : OrderedMap α) : m.filterMap some = m := by
  refine ext_entries ?_
  change m.entries.filterMap some = m.entries
  rw [List.filterMap_some]

end OrderedMap

namespace Configuration

open OrderedMap

variable {config other : Configuration} {overrides : Settings}

theorem agrees_iff : config.agrees other = true ↔ ∀ key, config.get? key = other.get? key := by
  rw [agrees, Bool.and_eq_true, beq_iff_eq, List.all_eq_true]
  constructor
  · rintro ⟨hsize, hall⟩ key
    have hkeys : config.properties.keys ⊆ other.properties.keys := by
      intro name hname
      obtain ⟨entry, hentry, rfl⟩ := List.mem_map.1 hname
      have hget : other.get? entry.1 = some entry.2 := beq_iff_eq.1 (hall entry hentry)
      rw [mem_keys_iff_get?, ← get?, hget]
      exact Option.some_ne_none _
    -- As there are as many keys on either side, the other configuration has no further ones.
    have hperm : config.properties.keys.Perm other.properties.keys := by
      refine (config.properties.nodup_keys.subperm hkeys).perm_of_length_le (Nat.le_of_eq ?_)
      rw [← size_eq_length_keys, ← size_eq_length_keys]
      exact hsize.symm
    cases hget : config.get? key with
    | some value => exact (beq_iff_eq.1 (hall _ (mem_of_lookup hget))).symm
    | none =>
      have habsent : key ∉ other.properties.keys :=
        fun hmem ↦ get?_eq_none_iff.1 hget (hperm.mem_iff.2 hmem)
      exact (get?_eq_none_iff.2 habsent).symm
  · intro h
    constructor
    · rw [size, size, size_eq_length_keys, size_eq_length_keys]
      exact (keys_perm_of_get? h).length_eq
    · intro entry hentry
      rw [beq_iff_eq, ← h]
      exact get?_of_mem hentry

/-- One configuration is another one under overrides. A key with a setting has the text of its
value, or is absent if the setting is to have none; any other key is as it was. The keys that remain
keep their places, and new ones stand behind them in the order of the overrides. -/
structure Overlays (config : Configuration) (overrides : Settings) (next : Configuration) :
    Prop where
  given : ∀ key value, overrides.get? key = some (some value) →
    next.get? key = some value.render
  unset : ∀ key, overrides.get? key = some none → next.get? key = none
  kept : ∀ key, overrides.get? key = none → next.get? key = config.get? key
  keys_eq : next.properties.keys =
    config.properties.keys.filter (overrides.get? · ≠ some none) ++
      overrides.keys.filter fun key ↦
        key ∉ config.properties.keys ∧ overrides.get? key ≠ some none

theorem properties_withOverrides (config : Configuration) (overrides : Settings) :
    (config.withOverrides overrides).properties =
      (config.toSettings.insertAll overrides.entries).filterMap fun setting ↦
        setting.map Scalar.render :=
  rfl

theorem keys_withOverrides (config : Configuration) (overrides : Settings) :
    (config.withOverrides overrides).properties.keys =
      config.properties.keys.filter (overrides.get? · ≠ some none) ++
        overrides.keys.filter fun key ↦
          key ∉ config.properties.keys ∧ overrides.get? key ≠ some none := by
  have hkeys : config.toSettings.keys = config.properties.keys := keys_map _ _
  -- What remains is what the configuration under the overrides has a value for.
  have hsome (key : String) :
      ((config.toSettings.insertAll overrides.entries).get? key).bind
        (fun setting ↦ setting.map Scalar.render) = (config.withOverrides overrides).get? key := by
    rw [← get?_filterMap]
    rfl
  rw [properties_withOverrides, keys_filterMap, keys_insertAll_entries, hkeys, List.filter_append,
    List.filter_filter]
  simp only [hsome, get?_withOverrides]
  congr 1
  · refine List.filter_congr fun key hkey ↦ ?_
    have hset : (config.get? key).isSome = true := mem_keys_iff.1 hkey
    cases overrides.get? key with
    | none => simpa using hset
    | some setting => cases setting <;> simp
  · refine List.filter_congr fun key hkey ↦ ?_
    cases hsetting : overrides.get? key with
    | none => exact absurd hkey (get?_eq_none_iff.1 hsetting)
    | some setting => cases setting <;> simp

theorem overlays_withOverrides (config : Configuration) (overrides : Settings) :
    config.Overlays overrides (config.withOverrides overrides) where
  given key value h := by rw [get?_withOverrides, h]; rfl
  unset key h := by rw [get?_withOverrides, h]; rfl
  kept key h := by rw [get?_withOverrides, h]
  keys_eq := keys_withOverrides config overrides

theorem withOverrides_empty (config : Configuration) : config.withOverrides .empty = config := by
  have htexts : config.toSettings.filterMap (fun setting ↦ setting.map Scalar.render) =
      config.properties := by
    rw [toSettings, filterMap_map]
    exact filterMap_some config.properties
  exact congrArg Configuration.mk htexts

theorem get?_withOverrides_withOverrides (config : Configuration) (first second : Settings)
    (key : String) :
    ((config.withOverrides first).withOverrides second).get? key =
      (config.withOverrides (first.insertAll second.entries)).get? key := by
  rw [get?_withOverrides, get?_withOverrides, get?_withOverrides, get?_insertAll_entries]
  cases second.get? key <;> rfl

/-- Overrides act on configurations: a configuration under overrides is told by the two, none leave
it alone, and one layer on top of another is what the two are merged, the upper one being preferred.
The two ways of merging may differ in the order of the keys: a key that is unset and then set again
loses its place. A configuration is a value, so it is still there under its overrides. -/
theorem withOverrides_action (config : Configuration) :
    (∀ overrides, config.Overlays overrides (config.withOverrides overrides)) ∧
    config.withOverrides .empty = config ∧
    ∀ first second : Settings,
      ((config.withOverrides first).withOverrides second).agrees
        (config.withOverrides (first.insertAll second.entries)) = true :=
  ⟨config.overlays_withOverrides, config.withOverrides_empty, fun first second ↦
    agrees_iff.2 (config.get?_withOverrides_withOverrides first second)⟩

example :
    let config : Configuration := ⟨.ofList [("a", "1"), ("b", "2")]⟩
    let first : Settings := .ofList [("a", none)]
    let second : Settings := .ofList [("a", some (.integer 3))]
    ((config.withOverrides first).withOverrides second).properties.keys = ["b", "a"] ∧
      (config.withOverrides (first.insertAll second.entries)).properties.keys = ["a", "b"] := by
  decide +kernel

end Configuration

end Registrar
