import Registrar.Proofs.OrderedMaps
import Registrar.Proofs.Trimming
import Registrar.Registry

namespace Registrar.Registry

open OrderedMap

variable {registry next : Registry} {name : String} {factory : Factory} {replace : Bool}

section Names

theorem names_perm (registry : Registry) : registry.names.Perm registry.factories.keys :=
  List.mergeSort_perm _ _

theorem mem_names_iff : name ∈ registry.names ↔ name ∈ registry.factories.keys :=
  registry.names_perm.mem_iff

theorem names_increasing (registry : Registry) : registry.names.Pairwise (· < ·) := by
  have hsorted : registry.names.Pairwise fun a b ↦ decide (a ≤ b) = true := by
    apply List.pairwise_mergeSort
    · intro a b c hab hbc
      exact decide_eq_true (String.le_trans (of_decide_eq_true hab) (of_decide_eq_true hbc))
    · intro a b
      simpa using String.le_total a b
  have hnodup : registry.names.Nodup := registry.names_perm.nodup_iff.2 registry.factories.nodup
  refine (hsorted.and hnodup).imp ?_
  rintro a b ⟨hle, hne⟩
  exact String.not_le.1 fun hge ↦ hne (String.le_antisymm (of_decide_eq_true hle) hge)

theorem names_eq_of_perm {names keys : List String} (hkeys : registry.factories.keys = keys)
    (hperm : names.Perm keys) (h : names.Pairwise (· < ·)) : registry.names = names :=
  (registry.names_perm.trans (hkeys ▸ hperm.symm)).eq_of_pairwise
    (fun _ _ _ _ hab hba ↦ absurd hba (String.lt_asymm hab)) registry.names_increasing h

end Names

section Steps

structure Sets (registry next : Registry) (name : String) (entry : Option Factory) : Prop where
  entry : next.factories.get? name = entry
  others : ∀ other, other ≠ name → next.factories.get? other = registry.factories.get? other

theorem sets_insert (registry : Registry) (name : String) (factory : Factory) :
    registry.Sets ⟨registry.factories.insert name factory⟩ name (some factory) := by
  constructor
  · exact (get?_insert _ name name factory).trans (if_pos rfl)
  · intro other hne
    exact (get?_insert _ name other factory).trans (if_neg hne)

theorem sets_unregister (registry : Registry) (name : String) :
    registry.Sets (registry.unregister name) name none := by
  constructor
  · exact (get?_erase _ name name).trans (if_pos rfl)
  · intro other hne
    exact (get?_erase _ name other).trans (if_neg hne)

/-- What comes of registering a factory: a blank name is refused, and so is one that is taken unless
it may be replaced; any other one gets the factory under what is left of it by trimming. -/
inductive Registers (registry : Registry) (name : String) (factory : Factory) (replace : Bool)
    (reply : Reply) : Registry × Except Fault Reply → Prop
  | blank (hname : Text.trim name = "") :
      Registers registry name factory replace reply (registry, .error .blankPolicyName)
  | taken (hname : Text.trim name ≠ "") (htaken : Text.trim name ∈ registry.factories.keys)
      (hreplace : replace = false) :
      Registers registry name factory replace reply
        (registry, .error (.takenPolicyName (Text.trim name)))
  | stored {next : Registry} (hname : Text.trim name ≠ "")
      (hfree : replace = false → Text.trim name ∉ registry.factories.keys)
      (hnext : registry.Sets next (Text.trim name) (some factory)) :
      Registers registry name factory replace reply (next, .ok reply)

/-- What a call may do. -/
def Effect (registry : Registry) : Call → Registry × Except Fault Reply → Prop
  | .register name factory replace, result =>
    registry.Registers name factory replace .done result
  | .declare name factory replace, result =>
    registry.Registers name factory replace (.factory factory) result
  | .unregister name, result => registry.Sets result.1 name none ∧ result.2 = .ok .done
  | .create _ _, result => result.1 = registry
  | .contains name, result => ∃ value, result = (registry, .ok (.truth value)) ∧
      (value = true ↔ name ∈ registry.factories.keys)
  | .names, result => result = (registry, .ok (.names registry.names))

theorem registers_of_ok (h : registry.register name factory replace = .ok next) (reply : Reply) :
    registry.Registers name factory replace reply (next, .ok reply) := by
  unfold register at h
  dsimp only at h
  split at h
  · cases h
  · rename_i hname
    split at h
    · cases h
    · rename_i hfree
      cases h
      refine .stored hname ?_ (registry.sets_insert _ _)
      intro hreplace hmem
      rw [mem_keys_iff] at hmem
      exact hfree (by rw [hmem, hreplace]; rfl)

theorem registers_of_error {fault : Fault}
    (h : registry.register name factory replace = .error fault) (reply : Reply) :
    registry.Registers name factory replace reply (registry, .error fault) := by
  unfold register at h
  dsimp only at h
  split at h
  · rename_i hname
    cases h
    exact .blank hname
  · rename_i hname
    split at h
    · rename_i htaken
      cases h
      rw [Bool.and_eq_true, Bool.not_eq_true', ← mem_keys_iff] at htaken
      exact .taken hname htaken.1 htaken.2
    · cases h

theorem effect_step (registry : Registry) (call : Call) :
    registry.Effect call (registry.step call) := by
  cases call with
  | register name factory replace =>
    rw [step]
    cases h : registry.register name factory replace with
    | ok next => exact registers_of_ok h .done
    | error fault => exact registers_of_error h .done
  | declare name factory replace =>
    rw [step, declare]
    cases h : registry.register name factory replace with
    | ok next => exact registers_of_ok h (.factory factory)
    | error fault => exact registers_of_error h (.factory factory)
  | unregister name => exact ⟨registry.sets_unregister name, rfl⟩
  | create name config => rfl
  | contains name => exact ⟨registry.contains name, rfl, mem_keys_iff.symm⟩
  | names => rfl

end Steps

section Runs

structure Orderly (registry : Registry) : Prop where
  nonempty : ∀ name ∈ registry.factories.keys, name ≠ ""
  trimmed : ∀ name ∈ registry.factories.keys, Text.Trimmed name

theorem orderly_empty : empty.Orderly := by
  constructor
  · intro name hname
    cases hname
  · intro name hname
    cases hname

theorem Sets.mem_keys {entry : Option Factory} (h : registry.Sets next name entry) {other : String}
    (hother : other ∈ next.factories.keys) :
    other = name ∧ entry ≠ none ∨ other ∈ registry.factories.keys := by
  obtain ⟨stored, hstored⟩ := contains_iff.1 (mem_keys_iff.1 hother)
  by_cases heq : other = name
  · rw [heq, h.entry] at hstored
    exact .inl ⟨heq, by simp [hstored]⟩
  · rw [h.others other heq] at hstored
    exact .inr (mem_keys_iff.2 (contains_iff.2 ⟨stored, hstored⟩))

theorem Orderly.of_sets (h : registry.Orderly) {entry : Option Factory}
    (hsets : registry.Sets next name entry)
    (hname : entry ≠ none → name ≠ "" ∧ Text.Trimmed name) : next.Orderly := by
  have hall : ∀ other ∈ next.factories.keys, other ≠ "" ∧ Text.Trimmed other := by
    intro other hother
    rcases hsets.mem_keys hother with ⟨rfl, hentry⟩ | hold
    · exact hname hentry
    · exact ⟨h.nonempty other hold, h.trimmed other hold⟩
  exact ⟨fun other hother ↦ (hall other hother).1, fun other hother ↦ (hall other hother).2⟩

theorem Orderly.of_registers (h : registry.Orderly) {reply : Reply}
    {result : Registry × Except Fault Reply}
    (hresult : registry.Registers name factory replace reply result) : result.1.Orderly := by
  cases hresult with
  | blank hname => exact h
  | taken hname htaken hreplace => exact h
  | stored hname hfree hnext => exact h.of_sets hnext fun _ ↦ ⟨hname, Text.trimmed_trim name⟩

theorem Orderly.of_effect (h : registry.Orderly) {call : Call}
    {result : Registry × Except Fault Reply} (hresult : registry.Effect call result) :
    result.1.Orderly := by
  cases call with
  | register name factory replace => exact h.of_registers hresult
  | declare name factory replace => exact h.of_registers hresult
  | unregister name => exact h.of_sets hresult.1 fun hne ↦ absurd rfl hne
  | create name config => exact hresult ▸ h
  | contains name =>
    obtain ⟨value, rfl, -⟩ := hresult
    exact h
  | names => exact hresult ▸ h

theorem run_append_singleton (calls : List Call) (call : Call) :
    run (calls ++ [call]) = ((run calls).step call).1 := by
  rw [run, List.foldl_append]
  rfl

theorem orderly_run (calls : List Call) : (run calls).Orderly := by
  -- The last call is taken off, and nothing is used of it but what a call may do.
  induction calls using List.reverseRecOn with
  | nil => exact orderly_empty
  | append_singleton calls call ih =>
    rw [run_append_singleton]
    exact ih.of_effect ((run calls).effect_step call)

theorem trimmed_of_mem_names (calls : List Call) :
    ∀ name ∈ (run calls).names, Text.Trimmed name :=
  fun name hname ↦ (orderly_run calls).trimmed name (mem_names_iff.1 hname)

/-- Whatever calls have been made, the names of the registry are in order, they are listed once and
increasing, and the next call does no more than what it is for. -/
theorem run_invariant (calls : List Call) :
    (run calls).Orderly ∧ (run calls).names.Pairwise (· < ·) ∧
      (∀ name, name ∈ (run calls).names ↔ name ∈ (run calls).factories.keys) ∧
      ∀ call, (run calls).Effect call ((run calls).step call) :=
  ⟨orderly_run calls, names_increasing _, fun _ ↦ mem_names_iff, effect_step _⟩

def builtInCalls [Host] : List Call :=
  [.declare "base" (Factory.ofLayout .flat) false,
    .declare "parent_directory" (Factory.ofLayout .parentDirectory) false,
    .declare "partitioned" Factory.partitioned false]

theorem run_builtInCalls_append [Host] (calls : List Call) :
    run (builtInCalls ++ calls) =
      calls.foldl (fun registry call ↦ (registry.step call).1) default :=
  List.foldl_append

section

attribute [local instance] Host.bare

example : (run (builtInCalls ++ [.register " extra\n" Factory.partitioned false,
    .register "base" Factory.partitioned false, .unregister "base "])).factories.keys =
      ["base", "parent_directory", "partitioned", "extra"] := by
  decide +kernel

end

end Runs

end Registrar.Registry
