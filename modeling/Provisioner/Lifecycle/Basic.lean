import Provisioner.Gateway.Call
import Provisioner.Context

/-!
# Lifecycles

A lifecycle says how an operation on a family of resources goes from phase to phase. In each phase it waits
until the resource is in an awaited state, and then it acts to enter the next phase or is complete. What it
has to remember of the resource between phases are the identifiers.
-/
namespace Provisioner

/-- What is found of a resource. -/
inductive Observation (R : Type) where
  | found (remote : R)
  | absent
  deriving Repr

namespace Observation
variable {R S : Type}

/-- The observation with what is found changed. -/
def map (f : R → S) : Observation R → Observation S
  | found remote => found (f remote)
  | absent => absent

/-- The observation that the answer to a read amounts to. -/
def ofAnswer : Except GatewayError R → Action (Observation R)
  | .ok remote => .done (.found remote)
  | .error error => if error.isNotFound then .done .absent else .fail (.gateway error)

end Observation

/-- What is decided after acting. -/
inductive Transition (P I M : Type) where
  /-- To wait in a phase. -/
  | proceed (phase : P) (ids : I) (message : String)
  /-- The operation is done; a deletion leaves no model. -/
  | complete (model : Option M) (message : String)
  deriving Repr

/-- What time an operation has. -/
structure TimeoutSettings where
  budget : Option String
  deleteOnTimeout : Bool
  deriving DecidableEq, Repr

/-- How an operation on a family of resources goes. Its models are of type `M`, its phases of type `P`, its
identifiers of type `I`, and what it observes is of type `R`. -/
structure Lifecycle (M P I R : Type) where
  family : Family
  operation : Operation
  ids : Shape I
  /-- Whether a model makes sense; without any call. -/
  validate : M → Except ProvisionError Unit
  timeoutSettings : M → Option TimeoutSettings := fun _ => none
  /-- Looks at the resource before the first action, where that is needed. -/
  inspect : M → Action (Option (Observation R)) := fun _ => .done none
  /-- Whether the resource can get from where it is to the model. -/
  validateTransition : Option R → M → Except ProvisionError Unit := fun _ _ => .ok ()
  /-- The first action. -/
  start : M → Option R → Action (Transition P I M)
  /-- Looks at whatever a phase waits for. -/
  observe : P → I → Action (Observation R)
  /-- Whether a phase waits until the resource is gone. -/
  awaitsAbsence : P → Bool
  /-- Whether the resource is in the state a phase waits for. -/
  isReached : P → R → Bool
  /-- Why the resource can no longer reach the state that a phase waits for. -/
  fault? : P → R → Option RemoteFault
  /-- The action after a phase is reached. -/
  advance : P → I → M → Option R → Action (Transition P I M)
  /-- Removes a resource that was not ready in time. -/
  cleanup : I → Action Unit := fun _ => .done ()

/-- The text of a field that must not be missing or empty. -/
def required (field : String) (value : Option String) : Except ProvisionError String :=
  match value with
  | some text => if text = "" then .error (.validation (.missing field)) else .ok text
  | none => .error (.validation (.missing field))

end Provisioner
