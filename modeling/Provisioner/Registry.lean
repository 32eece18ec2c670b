import Provisioner.Settings
import Provisioner.Lifecycle.Cluster
import Provisioner.Lifecycle.StreamProcessor
import Provisioner.Lifecycle.PrivateEndpoint
import Provisioner.Lifecycle.ExportJob

/-!
# The registry

All families behind one door: a caller names a family by its tag and gives a model as a document, and gets
documents back.
-/
namespace Provisioner

/-- The model that a document holds. -/
def parseModel {M : Type} (shape : Shape M) (document : Json) : Except ProvisionError M :=
  (shape.ofJson document).mapError fun error => .validation (.invalidModel error)

/-- A step on a model that a document holds. -/
def Lifecycle.stepOn {M P I R : Type} [Tagged P] (lifecycle : Lifecycle M P I R) (shape : Shape M)
    (settings : StepSettings) (fresh : OperationId) (context : Fields) (document : Json) (now : Instant) :
    Program Gateway Empty (Outcome Json) := do
  match parseModel shape document with
  | .error error => return .ofError error
  | .ok model => return (← lifecycle.step settings fresh context model now).map shape.toJson

namespace Registry

/-- The family that a tag names. -/
def findFamily (tag : String) : Except ProvisionError Family :=
  match Family.ofTag? tag with
  | some family => .ok family
  | none => .error (.validation (.unknownFamily tag))

/-- A step on a resource of a family. -/
def stepFamily (settings : Settings) (family : Family) (operation : Operation) (fresh : OperationId)
    (context : Fields) (model : Json) (now : Instant) : Program Gateway Empty (Outcome Json) :=
  match family with
  | .cluster =>
    (clusterLifecycle settings.reservedLabel operation).stepOn ClusterModel.shape (settings.step family) fresh
      context model now
  | .streamProcessor =>
    (streamProcessorLifecycle settings.createTimeout operation).stepOn StreamProcessorModel.shape
      (settings.step family) fresh context model now
  | .privateEndpoint =>
    (privateEndpointLifecycle operation).stepOn PrivateEndpointModel.shape (settings.step family) fresh context
      model now
  | .exportJob =>
    (exportJobLifecycle settings.completionState operation).stepOn ExportJobModel.shape (settings.step family)
      fresh context model now

/-- A step on a resource of a family that a tag names, with the response to the caller. -/
def step (settings : Settings) (tag : String) (operation : Operation) (fresh : OperationId) (context : Fields)
    (model : Json) (now : Instant) : Program Gateway Empty (StepResponse Json) := do
  match findFamily tag with
  | .error error => return .ofOutcome (.ofError error)
  | .ok family => return .ofOutcome (← stepFamily settings family operation fresh context model now)

/-- The document of an existing resource. -/
def read (settings : Settings) (tag : String) (model : Json) : Action Json := do
  match ← findFamily tag with
  | .cluster =>
    let model ← parseModel ClusterModel.shape model
    return ClusterModel.shape.toJson (← ClusterLifecycle.read settings.reservedLabel model)
  | .streamProcessor =>
    let model ← parseModel StreamProcessorModel.shape model
    return StreamProcessorModel.shape.toJson (← StreamProcessorLifecycle.read model)
  | .privateEndpoint =>
    let model ← parseModel PrivateEndpointModel.shape model
    return PrivateEndpointModel.shape.toJson (← PrivateEndpointLifecycle.read model)
  | .exportJob =>
    let model ← parseModel ExportJobModel.shape model
    return ExportJobModel.shape.toJson (← ExportJobLifecycle.read model)

/-- A name that a list needs. -/
def parent (field : String) (value : Option String) : Except ProvisionError String :=
  match value with
  | some name => if name = "" then .error (.validation (.missingParent field)) else .ok name
  | none => .error (.validation (.missingParent field))

/-- The documents of all resources of a family that lie where a model says. -/
def list (settings : Settings) (tag : String) (model : Json) : Action (List Json) := do
  match ← findFamily tag with
  | .cluster =>
    let model ← parseModel ClusterModel.shape model
    let projectId ← parent "projectId" model.projectId
    return (← ClusterLifecycle.list settings.reservedLabel projectId).map ClusterModel.shape.toJson
  | .streamProcessor =>
    let model ← parseModel StreamProcessorModel.shape model
    let projectId ← parent "projectId" model.projectId
    match model.workspace with
    | none => .fail (.validation .missingWorkspace)
    | some workspace =>
      return (← StreamProcessorLifecycle.list projectId workspace).map StreamProcessorModel.shape.toJson
  | .privateEndpoint =>
    let model ← parseModel PrivateEndpointModel.shape model
    let projectId ← parent "projectId" model.projectId
    return (← PrivateEndpointLifecycle.list projectId).map PrivateEndpointModel.shape.toJson
  | .exportJob =>
    let model ← parseModel ExportJobModel.shape model
    let projectId ← parent "projectId" model.projectId
    let clusterName ← parent "clusterName" model.clusterName
    return (← ExportJobLifecycle.list projectId clusterName).map ExportJobModel.shape.toJson

end Registry

end Provisioner
