import Mathlib.Data.Finset.Card
import Registrar.OrderedMap

namespace Registrar.OrderedMap

variable {α β : Type}

theorem lookup_cons_eq (key : String) (entry : String × α) (rest : List (String × α)) :
    (entry :: rest).lookup key = if key = entry.1 then some entry.2 else rest.lookup key := by
  obtain ⟨name, value⟩ := entry
  by_cases h : key = name
  · simp [h]
  · have hne : (key == name) = false := by simpa using h
    rw [List.lookup_cons, hne, if_neg h]

theorem lookup_insertEntry (key other : String) (value : α) (entries : List (String × α)) :
    (insertEntry key value entries).lookup other =
      if other = key then some value else entries.lookup other := by
  induction entries with
  | nil => exact lookup_cons_eq other (key, value) []
  | cons entry rest ih =>
    rw [insertEntry]
    split
    · rename_i hkey
      rw [lookup_cons_eq, lookup_cons_eq, hkey]
      split <;> rfl
    · rename_i hkey
      rw [lookup_cons_eq, lookup_cons_eq, ih]
      by_cases h : other = entry.1
      · have hne : ¬other = key := fun heq ↦ hkey (h.symm.trans heq)
        rw [if_neg hne, if_pos h, if_neg hne]
      · rw [if_neg h, if_neg h]

theorem get?_insert (m : OrderedMap α) (key other : String) (value : α) :
    (m.insert key value).get? other = if other = key then some value else m.get? other :=
  lookup_insertEntry key other value m.entries

theorem keys_insert (m : OrderedMap α) (key : String) (value : α) :
    (m.insert key value).keys = if key ∈ m.keys then m.keys else m.keys ++ [key] :=
  keys_insertEntry key value m.entries

theorem insertAll_cons (m : OrderedMap α) (entry : String × α) (rest : List (String × α)) :
    m.insertAll (entry :: rest) = (m.insert entry.1 entry.2).insertAll rest := rfl

theorem get?_insertAll (m : OrderedMap α) (entries : List (String × α)) (key : String) :
    (m.insertAll entries).get? key = (entries.reverse.lookup key).or (m.get? key) := by
  induction entries generalizing m with
  | nil => rfl
  | cons entry rest ih =>
    rw [insertAll_cons, ih, get?_insert, List.reverse_cons, List.lookup_append, Option.or_assoc,
      lookup_cons_eq]
    split <;> rfl

theorem get?_ofList (entries : List (String × α)) (key : String) :
    (ofList entries).get? key = entries.reverse.lookup key := by
  rw [ofList, get?_insertAll]
  exact Option.or_none

theorem keys_insertAll (m : OrderedMap α) (entries : List (String × α)) :
    (m.insertAll entries).keys =
      m.keys ++ ((entries.map Prod.fst).filter (· ∉ m.keys)).eraseDups := by
  induction entries generalizing m with
  | nil =>
    rw [List.map_nil, List.filter_nil, List.eraseDups_nil, List.append_nil]
    rfl
  | cons entry rest ih =>
    rw [insertAll_cons, ih, keys_insert, List.map_cons]
    -- A key that is there keeps its place; one that is not is put behind and is new only once.
    by_cases h : entry.1 ∈ m.keys
    · simp only [h, if_true]
      rw [List.filter_cons_of_neg (by simp [h])]
    · simp only [h, if_false]
      rw [List.filter_cons_of_pos (by simp [h]), List.eraseDups_cons, List.filter_filter,
        List.append_assoc, List.singleton_append]
      congr 3
      refine List.filter_congr fun key _ ↦ ?_
      rw [Bool.eq_iff_iff]
      simp [and_comm]

theorem keys_ofList (entries : List (String × α)) :
    (ofList entries).keys = (entries.map Prod.fst).eraseDups := by
  have hall : (entries.map Prod.fst).filter (· ∉ (empty : OrderedMap α).keys) =
      entries.map Prod.fst :=
    List.filter_eq_self.2 fun _ _ ↦ rfl
  rw [ofList, keys_insertAll, hall]
  rfl

theorem insertEntry_of_notMem {key : String} {entries : List (String × α)}
    (h : key ∉ entries.map Prod.fst) (value : α) :
    insertEntry key value entries = entries ++ [(key, value)] := by
  induction entries with
  | nil => rfl
  | cons entry rest ih =>
    rw [List.map_cons, List.mem_cons, not_or] at h
    rw [insertEntry, if_neg (Ne.symm h.1), ih h.2, List.cons_append]

theorem entries_insertAll_of_fresh (m : OrderedMap α) {entries : List (String × α)}
    (hnodup : (entries.map Prod.fst).Nodup) (hfresh : ∀ entry ∈ entries, entry.1 ∉ m.keys) :
    (m.insertAll entries).entries = m.entries ++ entries := by
  induction entries generalizing m with
  | nil => exact (List.append_nil m.entries).symm
  | cons entry rest ih =>
    obtain ⟨habsent, hrest⟩ := List.nodup_cons.1 hnodup
    have hentry : entry.1 ∉ m.keys := hfresh entry List.mem_cons_self
    have hinsert : (m.insert entry.1 entry.2).entries = m.entries ++ [entry] :=
      insertEntry_of_notMem hentry entry.2
    have hnext : ∀ next ∈ rest, next.1 ∉ (m.insert entry.1 entry.2).keys := by
      intro next hmem hin
      rw [keys_insert, if_neg hentry, List.mem_append, List.mem_singleton] at hin
      rcases hin with hin | heq
      · exact hfresh next (List.mem_cons_of_mem entry hmem) hin
      · exact habsent (heq ▸ List.mem_map_of_mem hmem)
    rw [insertAll_cons, ih _ hrest hnext, hinsert, List.append_assoc, List.singleton_append]

theorem ofList_entries (m : OrderedMap α) : ofList m.entries = m :=
  ext_entries (entries_insertAll_of_fresh empty m.nodup fun _ _ ↦ List.not_mem_nil)

theorem get?_insertAll_entries (m n : OrderedMap α) (key : String) :
    (m.insertAll n.entries).get? key = (n.get? key).or (m.get? key) := by
  rw [get?_insertAll, ← get?_ofList, ofList_entries]

theorem eraseDups_eq_self {keys : List String} (h : keys.Nodup) : keys.eraseDups = keys := by
  induction keys with
  | nil => rfl
  | cons key rest ih =>
    obtain ⟨habsent, hrest⟩ := List.nodup_cons.1 h
    have hall : rest.filter (fun other ↦ !other == key) = rest := by
      refine List.filter_eq_self.2 fun other hother ↦ ?_
      have hne : other ≠ key := fun heq ↦ habsent (heq ▸ hother)
      simpa using hne
    rw [List.eraseDups_cons, hall, ih hrest]

theorem keys_insertAll_entries (m n : OrderedMap α) :
    (m.insertAll n.entries).keys = m.keys ++ n.keys.filter (· ∉ m.keys) := by
  have hnodup : (n.keys.filter (· ∉ m.keys)).Nodup := n.nodup.filter _
  rw [keys_insertAll]
  exact congrArg (m.keys ++ ·) (eraseDups_eq_self hnodup)

theorem mem_of_lookup {key : String} {value : α} {entries : List (String × α)}
    (h : entries.lookup key = some value) : (key, value) ∈ entries := by
  obtain ⟨front, back, heq, -⟩ := List.lookup_eq_some_iff.1 h
  rw [heq]
  exact List.mem_append_right front List.mem_cons_self

theorem lookup_eq_some_of_mem {entry : String × α} {entries : List (String × α)}
    (hnodup : (entries.map Prod.fst).Nodup) (h : entry ∈ entries) :
    entries.lookup entry.1 = some entry.2 := by
  induction entries with
  | nil => cases h
  | cons first rest ih =>
    obtain ⟨habsent, hrest⟩ := List.nodup_cons.1 hnodup
    rw [lookup_cons_eq]
    rcases List.mem_cons.1 h with rfl | hmem
    · exact if_pos rfl
    · have hne : entry.1 ≠ first.1 := fun hkey ↦ habsent (hkey ▸ List.mem_map_of_mem hmem)
      rw [if_neg hne]
      exact ih hrest hmem

theorem get?_of_mem {m : OrderedMap α} {entry : String × α} (h : entry ∈ m.entries) :
    m.get? entry.1 = some entry.2 :=
  lookup_eq_some_of_mem m.nodup h

theorem lookup_eq_none_of_notMem {key : String} {entries : List (String × α)}
    (h : key ∉ entries.map Prod.fst) : entries.lookup key = none := by
  rw [List.lookup_eq_none_iff]
  intro entry hentry
  rw [bne_iff_ne]
  exact fun hkey ↦ h (hkey ▸ List.mem_map_of_mem hentry)

section Insertion

variable {m : OrderedMap α} {entries : List (String × α)}

theorem get?_insertAll_of_mem (hnodup : (entries.map Prod.fst).Nodup) {entry : String × α}
    (h : entry ∈ entries) : (m.insertAll entries).get? entry.1 = some entry.2 := by
  have hreverse : (entries.reverse.map Prod.fst).Nodup := by
    rw [List.map_reverse]
    exact List.nodup_reverse.2 hnodup
  rw [get?_insertAll, lookup_eq_some_of_mem hreverse (List.mem_reverse.2 h), Option.some_or]

theorem get?_insertAll_of_notMem {key : String} (h : key ∉ entries.map Prod.fst) :
    (m.insertAll entries).get? key = m.get? key := by
  have hnone : entries.reverse.lookup key = none := by
    apply lookup_eq_none_of_notMem
    rwa [List.map_reverse, List.mem_reverse]
  rw [get?_insertAll, hnone, Option.none_or]

theorem mem_entries_insertAll {entry : String × α} (h : entry ∈ (m.insertAll entries).entries) :
    entry ∈ entries ∨ entry ∈ m.entries ∧ entry.1 ∉ entries.map Prod.fst := by
  have hget := get?_of_mem h
  by_cases hkey : entry.1 ∈ entries.map Prod.fst
  · rw [get?_insertAll] at hget
    cases hlookup : entries.reverse.lookup entry.1 with
    | none =>
      rw [List.lookup_eq_none_iff] at hlookup
      obtain ⟨other, hother, heq⟩ := List.mem_map.1 hkey
      simpa [heq] using hlookup other (List.mem_reverse.2 hother)
    | some value =>
      rw [hlookup, Option.some_or] at hget
      obtain rfl := Option.some.inj hget
      exact .inl (List.mem_reverse.1 (mem_of_lookup hlookup))
  · rw [get?_insertAll_of_notMem hkey] at hget
    exact .inr ⟨mem_of_lookup hget, hkey⟩

theorem mem_of_mem_ofList {entry : String × α} (h : entry ∈ (ofList entries).entries) :
    entry ∈ entries := by
  rcases mem_entries_insertAll h with hmem | ⟨hmem, -⟩
  · exact hmem
  · cases hmem

theorem size_insertAll (m : OrderedMap α) (hnodup : (entries.map Prod.fst).Nodup) :
    (m.insertAll entries).size + (m.keys.filter (· ∈ entries.map Prod.fst)).length =
      m.size + entries.length := by
  have hkeys (n : OrderedMap α) : n.keys.Nodup := n.nodup
  have hsize (n : OrderedMap α) : n.size = n.keys.toFinset.card := by
    rw [List.toFinset_card_of_nodup (hkeys n), keys, List.length_map, size]
  have hunion : (m.insertAll entries).keys.toFinset =
      m.keys.toFinset ∪ (entries.map Prod.fst).toFinset := by
    ext key
    simp only [keys_insertAll, List.mem_toFinset, List.mem_append, List.mem_eraseDups,
      List.mem_filter, decide_eq_true_eq, Finset.mem_union]
    tauto
  have hinter : (m.keys.filter (· ∈ entries.map Prod.fst)).length =
      (m.keys.toFinset ∩ (entries.map Prod.fst).toFinset).card := by
    rw [← List.toFinset_card_of_nodup ((hkeys m).filter _)]
    congr 1
    ext key
    simp
  have hentries : entries.length = (entries.map Prod.fst).toFinset.card := by
    rw [List.toFinset_card_of_nodup hnodup, List.length_map]
  rw [hsize, hsize, hunion, hinter, hentries]
  exact Finset.card_union_add_card_inter _ _

end Insertion

section Keys

variable {m : OrderedMap α} {key : String}

theorem mem_keys_iff : key ∈ m.keys ↔ m.contains key = true := by
  constructor
  · intro h
    obtain ⟨entry, hentry, rfl⟩ := List.mem_map.1 h
    rw [contains, get?_of_mem hentry, Option.isSome_some]
  · intro h
    obtain ⟨value, hvalue⟩ := Option.isSome_iff_exists.1 h
    exact List.mem_map_of_mem (mem_of_lookup hvalue)

theorem contains_iff : m.contains key = true ↔ ∃ value, m.get? key = some value :=
  Option.isSome_iff_exists

theorem contains_eq_false_iff : m.contains key = false ↔ m.get? key = none := by
  rw [contains, Option.isSome_eq_false_iff, Option.isNone_iff_eq_none]

theorem get?_eq_none_iff : m.get? key = none ↔ key ∉ m.keys := by
  rw [mem_keys_iff, Bool.not_eq_true, contains_eq_false_iff]

theorem get?_erase (m : OrderedMap α) (key other : String) :
    (m.erase key).get? other = if other = key then none else m.get? other := by
  change (m.entries.filter (·.1 ≠ key)).lookup other = _
  rw [get?]
  induction m.entries with
  | nil => simp
  | cons entry rest ih =>
    by_cases hkey : entry.1 = key
    · rw [List.filter_cons_of_neg (by simpa using hkey), ih, lookup_cons_eq, hkey]
      split <;> simp_all
    · rw [List.filter_cons_of_pos (by simpa using hkey), lookup_cons_eq, ih, lookup_cons_eq]
      split <;> simp_all

theorem erase_of_notMem (h : key ∉ m.keys) : m.erase key = m := by
  refine ext_entries (List.filter_eq_self.2 fun entry hentry ↦ ?_)
  have hne : entry.1 ≠ key := fun heq ↦ h (heq ▸ List.mem_map_of_mem hentry)
  simpa using hne

end Keys

theorem lookup_filterMap (f : α → Option β) (key : String) (entries : List (String × α))
    (h : (entries.map Prod.fst).Nodup) :
    (entries.filterMap fun entry ↦ (f entry.2).map (entry.1, ·)).lookup key =
      (entries.lookup key).bind f := by
  induction entries with
  | nil => rfl
  | cons entry rest ih =>
    obtain ⟨habsent, hrest⟩ := List.nodup_cons.1 h
    rw [lookup_cons_eq, List.filterMap_cons]
    cases hvalue : f entry.2 with
    | none =>
      by_cases hkey : key = entry.1
      · -- The key has no image, and no later entry has the key.
        have hnone : rest.lookup key = none := lookup_eq_none_of_notMem (hkey ▸ habsent)
        rw [if_pos hkey, Option.map_none, Option.bind_some, hvalue]
        exact (ih hrest).trans (congrArg (Option.bind · f) hnone)
      · rw [if_neg hkey]
        exact ih hrest
    | some value =>
      by_cases hkey : key = entry.1
      · rw [if_pos hkey, Option.map_some, lookup_cons_eq, if_pos hkey, Option.bind_some, hvalue]
      · rw [if_neg hkey, Option.map_some, lookup_cons_eq, if_neg hkey]
        exact ih hrest

theorem get?_filterMap (f : α → Option β) (m : OrderedMap α) (key : String) :
    (m.filterMap f).get? key = (m.get? key).bind f :=
  lookup_filterMap f key m.entries m.nodup

theorem keys_filterMap (f : α → Option β) (m : OrderedMap α) :
    (m.filterMap f).keys = m.keys.filter fun key ↦ ((m.get? key).bind f).isSome := by
  rw [← List.filterMap_eq_filter, keys, keys, List.filterMap_map]
  change (m.entries.filterMap fun entry ↦ (f entry.2).map (entry.1, ·)).map Prod.fst = _
  rw [List.map_filterMap]
  refine List.filterMap_congr fun entry hentry ↦ ?_
  rw [Function.comp_apply, Option.guard, get?_of_mem hentry, Option.bind_some]
  cases f entry.2 <;> rfl

theorem filterMap_congr {f g : α → Option β} {m : OrderedMap α}
    (h : ∀ entry ∈ m.entries, f entry.2 = g entry.2) : m.filterMap f = m.filterMap g :=
  ext_entries (List.filterMap_congr fun entry hentry ↦ by rw [h entry hentry])

theorem get?_map (f : α → β) (m : OrderedMap α) (key : String) :
    (m.map f).get? key = (m.get? key).map f := by
  rw [map, get?_filterMap, Option.map_eq_bind]

theorem filterMap_map {γ : Type} (f : α → β) (g : β → Option γ) (m : OrderedMap α) :
    (m.map f).filterMap g = m.filterMap (g ∘ f) := by
  refine ext_entries ?_
  change (m.entries.filterMap _).filterMap _ = m.entries.filterMap _
  rw [List.filterMap_filterMap]
  rfl

theorem entries_map (f : α → β) (m : OrderedMap α) :
    (m.map f).entries = m.entries.map fun entry ↦ (entry.1, f entry.2) := by
  change m.entries.filterMap (some ∘ fun entry ↦ (entry.1, f entry.2)) = _
  rw [List.filterMap_eq_map]

theorem keys_map (f : α → β) (m : OrderedMap α) : (m.map f).keys = m.keys := by
  rw [keys, entries_map, List.map_map]
  rfl

section Collecting

variable {m n : OrderedMap α} {entries : List (String × α)}

theorem entries_eq_filterMap_keys (m : OrderedMap α) :
    m.entries = m.keys.filterMap fun key ↦ (m.get? key).map (key, ·) := by
  have hsome : ∀ entry ∈ m.entries, (m.get? entry.1).map (entry.1, ·) = some entry := by
    intro entry hentry
    rw [get?_of_mem hentry, Option.map_some]
  rw [keys, List.filterMap_map]
  exact (List.filterMap_some.symm.trans (List.filterMap_congr hsome).symm)

/-- A map is told by the order of its keys and by its lookups. -/
theorem ext_get? (hkeys : m.keys = n.keys) (hget : ∀ key, m.get? key = n.get? key) : m = n := by
  apply ext_entries
  rw [entries_eq_filterMap_keys m, entries_eq_filterMap_keys n, hkeys]
  simp only [hget]

theorem lookup_map (f : α → β) (key : String) (entries : List (String × α)) :
    (entries.map fun entry ↦ (entry.1, f entry.2)).lookup key = (entries.lookup key).map f := by
  induction entries with
  | nil => rfl
  | cons entry rest ih =>
    rw [List.map_cons, lookup_cons_eq, lookup_cons_eq, ih]
    split <;> rfl

theorem map_ofList (f : α → β) (entries : List (String × α)) :
    (ofList entries).map f = ofList (entries.map fun entry ↦ (entry.1, f entry.2)) := by
  apply ext_get?
  · rw [keys_map, keys_ofList, keys_ofList, List.map_map]
    rfl
  · intro key
    rw [get?_map, get?_ofList, get?_ofList, ← List.map_reverse, lookup_map]

/-- A map holds for every key the last value that entries give it, and its keys stand as they occur
first. -/
structure Collects (m : OrderedMap α) (entries : List (String × α)) : Prop where
  keys_eq : m.keys = (entries.map Prod.fst).eraseDups
  get?_iff : ∀ key value, m.get? key = some value ↔
    ∃ before after, entries = before ++ (key, value) :: after ∧ key ∉ after.map Prod.fst

theorem lookup_reverse_eq_some_iff {key : String} {value : α} :
    entries.reverse.lookup key = some value ↔
      ∃ before after, entries = before ++ (key, value) :: after ∧ key ∉ after.map Prod.fst := by
  rw [List.lookup_eq_some_iff]
  constructor
  · rintro ⟨front, back, hreverse, hfront⟩
    refine ⟨back.reverse, front.reverse, ?_, ?_⟩
    · rw [← List.reverse_reverse entries, hreverse]
      simp
    · intro hkey
      obtain ⟨entry, hentry, heq⟩ := List.mem_map.1 hkey
      simpa [heq] using hfront entry (List.mem_reverse.1 hentry)
  · rintro ⟨before, after, rfl, hafter⟩
    refine ⟨after.reverse, before.reverse, by simp, fun entry hentry ↦ ?_⟩
    rw [bne_iff_ne]
    exact fun hkey ↦ hafter (hkey ▸ List.mem_map_of_mem (List.mem_reverse.1 hentry))

theorem collects_iff : m.Collects entries ↔ ofList entries = m := by
  constructor
  · intro h
    apply ext_get?
    · rw [keys_ofList, h.keys_eq]
    · intro key
      apply Option.ext
      intro value
      rw [get?_ofList, lookup_reverse_eq_some_iff, h.get?_iff]
  · rintro rfl
    refine ⟨keys_ofList entries, fun key value ↦ ?_⟩
    rw [get?_ofList, lookup_reverse_eq_some_iff]

end Collecting

end Registrar.OrderedMap
