namespace Registrar

/-- A map whose entries stand in the order of their first insertion. -/
structure OrderedMap (α : Type) where
  entries : List (String × α)
  nodup : (entries.map Prod.fst).Nodup

namespace OrderedMap

variable {α β : Type}

def empty : OrderedMap α := ⟨[], .nil⟩

instance : Inhabited (OrderedMap α) := ⟨empty⟩

instance : EmptyCollection (OrderedMap α) := ⟨empty⟩

theorem ext_entries {m n : OrderedMap α} (h : m.entries = n.entries) : m = n := by
  cases m; cases n; cases h; rfl

instance [DecidableEq α] : DecidableEq (OrderedMap α) := fun m n ↦
  decidable_of_iff (m.entries = n.entries) ⟨ext_entries, fun h ↦ h ▸ rfl⟩

def keys (m : OrderedMap α) : List String := m.entries.map Prod.fst

def size (m : OrderedMap α) : Nat := m.entries.length

def get? (m : OrderedMap α) (key : String) : Option α := m.entries.lookup key

def contains (m : OrderedMap α) (key : String) : Bool := (m.get? key).isSome

/-- Replaces the value of a key, or appends the key. -/
def insertEntry (key : String) (value : α) : List (String × α) → List (String × α)
  | [] => [(key, value)]
  | entry :: rest =>
    if entry.1 = key then (key, value) :: rest else entry :: insertEntry key value rest

theorem keys_insertEntry (key : String) (value : α) (entries : List (String × α)) :
    (insertEntry key value entries).map Prod.fst =
      if key ∈ entries.map Prod.fst then entries.map Prod.fst
      else entries.map Prod.fst ++ [key] := by
  induction entries with
  | nil => rfl
  | cons entry rest ih =>
    by_cases h : entry.1 = key
    · simp [insertEntry, h]
    · have h' : ¬key = entry.1 := fun eq ↦ h eq.symm
      simp only [insertEntry, h, if_false, List.map_cons, ih, List.mem_cons, h', false_or]
      split <;> rfl

def insert (m : OrderedMap α) (key : String) (value : α) : OrderedMap α :=
  ⟨insertEntry key value m.entries, by
    rw [keys_insertEntry]
    split
    · exact m.nodup
    · rename_i absent
      exact List.nodup_append.2 ⟨m.nodup, by simp, fun a mem b mem' eq ↦
        absent (by rw [List.mem_singleton.1 mem'] at eq; exact eq ▸ mem)⟩⟩

def insertAll (m : OrderedMap α) (entries : List (String × α)) : OrderedMap α :=
  entries.foldl (fun m entry ↦ m.insert entry.1 entry.2) m

def ofList (entries : List (String × α)) : OrderedMap α := empty.insertAll entries

theorem nodup_filterMap (f : String × α → Option (String × β))
    (fst_eq : ∀ entry image, f entry = some image → image.1 = entry.1) :
    ∀ entries : List (String × α), (entries.map Prod.fst).Nodup →
      ((entries.filterMap f).map Prod.fst).Nodup
  | [], _ => .nil
  | entry :: rest, h => by
    rw [List.map_cons, List.nodup_cons] at h
    have ih := nodup_filterMap f fst_eq rest h.2
    cases eq : f entry with
    | none => simpa [List.filterMap_cons, eq] using ih
    | some image =>
      rw [List.filterMap_cons, eq, List.map_cons, List.nodup_cons]
      refine ⟨fun mem ↦ h.1 ?_, ih⟩
      obtain ⟨other, mem, fst⟩ := List.mem_map.1 mem
      obtain ⟨source, mem, image_eq⟩ := List.mem_filterMap.1 mem
      rw [← fst_eq entry image eq, ← fst, fst_eq source other image_eq]
      exact List.mem_map.2 ⟨source, mem, rfl⟩

def filterMap (f : α → Option β) (m : OrderedMap α) : OrderedMap β :=
  ⟨m.entries.filterMap fun entry ↦ (f entry.2).map (entry.1, ·), by
    refine nodup_filterMap _ (fun entry image h ↦ ?_) _ m.nodup
    obtain ⟨value, _, rfl⟩ := Option.map_eq_some_iff.1 h
    rfl⟩

def map (f : α → β) (m : OrderedMap α) : OrderedMap β := m.filterMap (some ∘ f)

def erase (m : OrderedMap α) (key : String) : OrderedMap α :=
  ⟨m.entries.filter (·.1 ≠ key), (List.filter_sublist.map Prod.fst).nodup m.nodup⟩

end OrderedMap

end Registrar
