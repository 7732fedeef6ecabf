import Registrar.Policy

namespace Registrar

inductive Product
  | policy (policy : Policy)
  | other (kind : String)

abbrev Factory := Configuration → Except Fault Product

namespace Factory

def ofLayout [Host] (layout : Layout) : Factory := fun config ↦ do
  return .policy (← Policy.build config layout)

/-- Policies whose layout the configuration gives; it is looked at before anything else. -/
def partitioned [Host] : Factory := fun config ↦ do
  let pattern ← PartitionPattern.ofConfiguration config
  return .policy (← Policy.build config (.partitioned pattern))

end Factory

structure Registry where
  factories : OrderedMap Factory

namespace Registry

def empty : Registry := ⟨.empty⟩

def default [Host] : Registry :=
  ⟨.ofList [("base", Factory.ofLayout .flat),
    ("parent_directory", Factory.ofLayout .parentDirectory),
    ("partitioned", Factory.partitioned)]⟩

/-- Registers a factory; a name that is taken is given anew only if replacing is allowed. -/
def register (registry : Registry) (name : String) (factory : Factory) (replace : Bool) :
    Except Fault Registry :=
  let name := Text.trim name
  if name = "" then .error .blankPolicyName
  else if registry.factories.contains name && !replace then .error (.takenPolicyName name)
  else .ok ⟨registry.factories.insert name factory⟩

def declare (registry : Registry) (name : String) (factory : Factory) (replace : Bool) :
    Except Fault (Registry × Factory) := do
  return (← registry.register name factory replace, factory)

def unregister (registry : Registry) (name : String) : Registry := ⟨registry.factories.erase name⟩

def contains (registry : Registry) (name : String) : Bool := registry.factories.contains name

def names (registry : Registry) : List String :=
  registry.factories.keys.mergeSort fun a b ↦ a ≤ b

def create (registry : Registry) (name : String) (config : Configuration) : Except Fault Policy :=
  match registry.factories.get? name with
  | none => .error (.unknownPolicy name registry.names)
  | some factory => match factory config with
    | .error cause => .error (.policyFailed name cause)
    | .ok (.policy policy) => .ok policy
    | .ok (.other kind) => .error (.notAPolicy name kind)

def policyFor (registry : Registry) (config : Configuration) : Trace Policy := do
  match config.get? Key.policy with
  | none => Trace.fail (.configuration (.missing .policy))
  | some raw =>
    let name := Text.trim raw
    Trace.record (.resolvingPolicy name)
    registry.create name config

inductive Call
  | register (name : String) (factory : Factory) (replace : Bool)
  | declare (name : String) (factory : Factory) (replace : Bool)
  | unregister (name : String)
  | create (name : String) (config : Configuration)
  | contains (name : String)
  | names

inductive Reply
  | done
  | factory (factory : Factory)
  | policy (policy : Policy)
  | truth (value : Bool)
  | names (names : List String)

def step (registry : Registry) : Call → Registry × Except Fault Reply
  | .register name factory replace => match registry.register name factory replace with
    | .ok next => (next, .ok .done)
    | .error fault => (registry, .error fault)
  | .declare name factory replace => match registry.declare name factory replace with
    | .ok (next, factory) => (next, .ok (.factory factory))
    | .error fault => (registry, .error fault)
  | .unregister name => (registry.unregister name, .ok .done)
  | .create name config => (registry, (registry.create name config).map .policy)
  | .contains name => (registry, .ok (.truth (registry.contains name)))
  | .names => (registry, .ok (.names registry.names))

def run (calls : List Call) : Registry :=
  calls.foldl (fun registry call ↦ (registry.step call).1) empty

end Registry

end Registrar
