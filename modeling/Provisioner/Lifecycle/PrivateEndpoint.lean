import Provisioner.Lifecycle.Basic
import Provisioner.Text.Outline

/-!
# Private endpoints

A private endpoint is created in three phases: its service is waited for, then an endpoint of the network
provider is, and then its interface, which is attached to the service, until it is connected. Deletion goes
the other way: interfaces are detached one at a time, each waited for, then the network endpoints that they
belonged to are deleted and waited for, and then the service is.
-/
namespace Provisioner

/-- What an operation on a private endpoint waits for. -/
inductive PrivateEndpointPhase where
  | serviceProvisioning
  | creatingNetworkEndpoint
  | attachingInterface
  | detachingInterfaces
  | removingNetworkEndpoints
  | deletingService
  deriving DecidableEq, Repr

instance : Tagged PrivateEndpointPhase where
  variants :=
    [.serviceProvisioning, .creatingNetworkEndpoint, .attachingInterface, .detachingInterfaces,
      .removingNetworkEndpoints, .deletingService]
  tag
    | .serviceProvisioning => "SERVICE_PROVISIONING"
    | .creatingNetworkEndpoint => "CREATING_NETWORK_ENDPOINT"
    | .attachingInterface => "ATTACHING_INTERFACE"
    | .detachingInterfaces => "DETACHING_INTERFACES"
    | .removingNetworkEndpoints => "REMOVING_NETWORK_ENDPOINTS"
    | .deletingService => "DELETING_SERVICE"

/-- What is remembered of a private endpoint between phases. -/
structure PrivateEndpointIds where
  projectId : String
  region : String
  serviceId : Option String := none
  /-- The interface that was attached last, or the one that is being detached. -/
  interfaceEndpointId : Option String := none
  networkEndpointIds : List String := []
  deriving DecidableEq, Repr

namespace PrivateEndpointIds

/-- How the identifiers are read and written. -/
def record : Record PrivateEndpointIds where
  name := "PrivateEndpointIds"
  strict := true
  fields :=
    .cons (.required "projectId" .string) <|
    .cons (.required "region" .string) <|
    .cons { Field.optional "serviceId" .string with presence := .defaulted none } <|
    .cons { Field.optional "interfaceEndpointId" .string with presence := .defaulted none } <|
    .cons (.unlessEmpty "networkEndpointIds" .commaList) .none
  ofRow := fun (projectId, region, serviceId, interfaceEndpointId, networkEndpointIds, ()) =>
    { projectId, region, serviceId, interfaceEndpointId, networkEndpointIds }
  toRow := fun ids =>
    (ids.projectId, ids.region, ids.serviceId, ids.interfaceEndpointId, ids.networkEndpointIds, ())

/-- The identifiers as a document. -/
def shape : Shape PrivateEndpointIds := record.shape

/-- The identifiers that a model gives. -/
def ofModel (model : PrivateEndpointModel) : Except ProvisionError PrivateEndpointIds := do
  let projectId ← required "projectId" model.projectId
  let region ← required "region" model.region
  return { projectId, region, serviceId := model.id }

/-- An identifier without which a phase cannot go on. -/
def known (key : String) (value : Option String) : Except ProvisionError String :=
  match value with
  | some id => .ok id
  | none => .error (.context (.missingKey key))

/-- The id of the service. -/
def service (ids : PrivateEndpointIds) : Except ProvisionError String :=
  known "serviceId" ids.serviceId

/-- The id of the interface. -/
def interfaceEndpoint (ids : PrivateEndpointIds) : Except ProvisionError String :=
  known "interfaceEndpointId" ids.interfaceEndpointId

/-- The id of the first network endpoint. -/
def networkEndpoint (ids : PrivateEndpointIds) : Except ProvisionError String :=
  known "networkEndpointIds" ids.networkEndpointIds.head?

/-- The identifiers with those of more network endpoints, each once. -/
def remember (ids : PrivateEndpointIds) (endpointIds : List String) : PrivateEndpointIds :=
  { ids with
    networkEndpointIds := endpointIds.foldl (fun known id => if id ∈ known then known else known ++ [id])
      ids.networkEndpointIds }

end PrivateEndpointIds

/-- What is observed of a private endpoint, depending on the phase. -/
inductive EndpointObservation where
  | service (service : EndpointService)
  /-- The service, and the interface that may still be being detached from it. -/
  | detaching (service : EndpointService) (inFlight : Option String)
  | interface (interface : InterfaceEndpoint)
  | networkEndpoints (endpoints : List NetworkEndpoint)
  deriving DecidableEq, Repr

namespace EndpointObservation
open Text

/-- A service in messages. -/
def serviceOutline (service : EndpointService) : String :=
  outlineRecord "EndpointService"
    [("id", quoted service.id), ("region_name", outlineOption quoted service.regionName),
      ("endpoint_service_name", outlineOption quoted service.endpointServiceName),
      ("error_message", outlineOption quoted service.errorMessage), ("status", quoted service.status),
      ("interface_endpoints", outlineList quoted service.interfaceEndpoints)]

/-- An interface in messages. -/
def interfaceOutline (interface : InterfaceEndpoint) : String :=
  outlineRecord "InterfaceEndpoint"
    [("interface_endpoint_id", quoted interface.interfaceEndpointId),
      ("connection_status", quoted interface.connectionStatus),
      ("error_message", outlineOption quoted interface.errorMessage),
      ("delete_requested", outlineOption outlineBool interface.deleteRequested)]

/-- A network endpoint in messages. -/
def networkOutline (endpoint : NetworkEndpoint) : String :=
  outlineRecord "NetworkEndpoint" [("id", quoted endpoint.id), ("state", quoted endpoint.state)]

/-- An observation in messages. -/
def outline : EndpointObservation → String
  | .service found => outlineCase "Service" (serviceOutline found)
  | .detaching found inFlight =>
    outlineRecord "Detaching" [("service", serviceOutline found), ("in_flight", outlineOption quoted inFlight)]
  | .interface found => outlineCase "Interface" (interfaceOutline found)
  | .networkEndpoints found => outlineCase "NetworkEndpoints" (outlineList networkOutline found)

end EndpointObservation

/-- What is decided after acting on a private endpoint. -/
abbrev EndpointTransition := Transition PrivateEndpointPhase PrivateEndpointIds PrivateEndpointModel

namespace PrivateEndpointLifecycle

/-- An endpoint to create needs a network and subnets of it, one to delete an id. -/
def validate (operation : Operation) (model : PrivateEndpointModel) : Except ProvisionError Unit := do
  let _ ← PrivateEndpointIds.ofModel model
  match operation with
  | .create =>
    let _ ← required "vpcId" model.vpcId
    if (model.subnetIds.getD []).isEmpty then .error (.validation .noSubnets)
  | .delete => let _ ← required "id" model.id
  | .update => .error (.validation .endpointUpdate)

/-- Reads the service. -/
def look (ids : PrivateEndpointIds) : Action (Observation EndpointService) := do
  let service ← ids.service
  Observation.ofAnswer (← Action.control? (.getService ids.projectId service))

/-- Looks at what a phase waits for. -/
def observe (phase : PrivateEndpointPhase) (ids : PrivateEndpointIds) :
    Action (Observation EndpointObservation) := do
  match phase with
  | .attachingInterface =>
    let endpoint ← ids.interfaceEndpoint
    let service ← ids.service
    let answer ← Action.control? (.getInterface ids.projectId service endpoint)
    return (← Observation.ofAnswer answer).map .interface
  | .detachingInterfaces => return (← look ids).map (.detaching · ids.interfaceEndpointId)
  | .creatingNetworkEndpoint =>
    return .found (.networkEndpoints (← Action.network (.describeEndpoints ids.region ids.networkEndpointIds)))
  | .removingNetworkEndpoints =>
    return .found (.networkEndpoints (← Action.network (.describeEndpoints ids.region ids.networkEndpointIds)))
  | .serviceProvisioning => return (← look ids).map .service
  | .deletingService => return (← look ids).map .service

/-- Creates an endpoint of the network provider for a service, and remembers it. -/
def createNetworkEndpoint (ids : PrivateEndpointIds) (model : PrivateEndpointModel) (service : EndpointService) :
    Action EndpointTransition := do
  match service.endpointServiceName with
  | none => .fail (.remoteFailure (.serviceUnnamed service.id))
  | some serviceName =>
    let vpcId ← required "vpcId" model.vpcId
    Program.info "Creating network endpoint"
    let endpoint ← Action.network (.createEndpoint ids.region serviceName vpcId (model.subnetIds.getD []))
    return .proceed .creatingNetworkEndpoint { ids with networkEndpointIds := [endpoint.id] }
      "Network endpoint requested"

/-- Attaches the network endpoint to the service. -/
def attachInterface (ids : PrivateEndpointIds) : Action EndpointTransition := do
  let service ← ids.service
  let endpoint ← ids.networkEndpoint
  Program.info "Attaching interface endpoint"
  let interface ← Action.control (.attachInterface ids.projectId service endpoint)
  return .proceed .attachingInterface { ids with interfaceEndpointId := some interface.interfaceEndpointId }
    "Interface endpoint attached, waiting for connection"

/-- Deletes the network endpoints; there may be none left. -/
def removeNetworkEndpoints (ids : PrivateEndpointIds) : Action EndpointTransition := do
  Program.info "Deleting network endpoints"
  let answer ← Action.network? (.deleteEndpoints ids.region ids.networkEndpointIds)
  let _ ← Action.require (absentIfNotFound answer)
  return .proceed .removingNetworkEndpoints ids "Network endpoints deletion requested"

/-- Deletes the service; it may be gone already. -/
def deleteService (ids : PrivateEndpointIds) : Action EndpointTransition := do
  let service ← ids.service
  Program.info "Deleting endpoint service"
  let answer ← Action.control? (.deleteService ids.projectId service)
  match ← Action.require (absentIfNotFound answer) with
  | none => return .complete none "endpoint service does not exist"
  | some () => return .proceed .deletingService ids "Endpoint service deletion requested"

/-- Detaches the first interface that a service lists, or goes on once there is none. All interfaces that were
ever listed are remembered. -/
def detachNext (ids : PrivateEndpointIds) (service : EndpointService) : Action EndpointTransition := do
  let ids := ids.remember service.interfaceEndpoints
  match service.interfaceEndpoints with
  | [] =>
    let ids := { ids with interfaceEndpointId := none }
    if ids.networkEndpointIds.isEmpty then deleteService ids else removeNetworkEndpoints ids
  | endpoint :: _ =>
    Program.info "Detaching interface endpoint"
    let answer ← Action.control? (.detachInterface ids.projectId service.id endpoint)
    let _ ← Action.require (absentIfNotFound answer)
    return .proceed .detachingInterfaces { ids with interfaceEndpointId := some endpoint }
      s!"Interface endpoint {endpoint} detach requested"

/-- Requests a service, or begins to take one apart. -/
def start (operation : Operation) (model : PrivateEndpointModel) (current : Option EndpointObservation) :
    Action EndpointTransition := do
  let ids ← PrivateEndpointIds.ofModel model
  match operation, current with
  | .create, _ =>
    Program.info "Requesting endpoint service"
    let service ← Action.control (.createService ids.projectId ids.region)
    return .proceed .serviceProvisioning { ids with serviceId := some service.id } "Endpoint service requested"
  | .delete, some (.service service) => detachNext ids service
  | operation, _ => .fail (.validation (.unsupported Family.privateEndpoint.label operation.tag))

/-- A network endpoint that can be attached. -/
def isAttachable (endpoint : NetworkEndpoint) : Bool :=
  endpoint.state = "pendingacceptance" || endpoint.state = "available"

/-- A network endpoint that will never be attachable. -/
def isDead (endpoint : NetworkEndpoint) : Bool :=
  ["failed", "rejected", "expired", "deleting", "deleted"].contains endpoint.state

/-- When a phase is reached. -/
def isReached (phase : PrivateEndpointPhase) (observation : EndpointObservation) : Bool :=
  match phase, observation with
  | .serviceProvisioning, .service service => service.status = "AVAILABLE"
  | .attachingInterface, .interface interface => interface.connectionStatus = "AVAILABLE"
  | .creatingNetworkEndpoint, .networkEndpoints endpoints => !endpoints.isEmpty && endpoints.all isAttachable
  | .detachingInterfaces, .detaching service inFlight =>
    inFlight.all fun endpoint => !service.interfaceEndpoints.contains endpoint
  | .removingNetworkEndpoints, .networkEndpoints endpoints => endpoints.all (·.state = "deleted")
  | _, _ => false

/-- Why a phase can no longer be reached. -/
def fault? (phase : PrivateEndpointPhase) (observation : EndpointObservation) : Option RemoteFault :=
  match phase, observation with
  | .serviceProvisioning, .service service =>
    if service.status = "INITIATING" then none else some (.serviceFailed service.status service.errorMessage)
  | .creatingNetworkEndpoint, .networkEndpoints endpoints =>
    (endpoints.find? isDead).map fun endpoint => .networkEndpointDead endpoint.id endpoint.state
  | .attachingInterface, .interface interface =>
    if interface.connectionStatus = "PENDING" ∨ interface.connectionStatus = "PENDING_ACCEPTANCE" then none
    else
      some (.interfaceFailed interface.interfaceEndpointId interface.connectionStatus interface.errorMessage)
  | .removingNetworkEndpoints, .networkEndpoints endpoints =>
    (endpoints.find? (·.state = "failed")).map fun endpoint => .networkEndpointStays endpoint.id
  | _, _ => none

/-- The model of an endpoint whose interface is connected. -/
def connected (ids : PrivateEndpointIds) (model : PrivateEndpointModel) (interface : InterfaceEndpoint) :
    Action EndpointTransition := do
  let service ← Action.control (.getService ids.projectId (← ids.service))
  return .complete
    (some { model.merge service with interfaceEndpoints := ids.interfaceEndpointId.map fun id => [id] })
    s!"Private endpoint {interface.interfaceEndpointId} is {interface.connectionStatus}"

/-- What follows a phase that is reached. -/
def advance (phase : PrivateEndpointPhase) (ids : PrivateEndpointIds) (model : PrivateEndpointModel)
    (observation : Option EndpointObservation) : Action EndpointTransition :=
  match phase, observation with
  | .serviceProvisioning, some (.service service) => createNetworkEndpoint ids model service
  | .creatingNetworkEndpoint, some (.networkEndpoints _) => attachInterface ids
  | .attachingInterface, some (.interface interface) => connected ids model interface
  | .detachingInterfaces, some (.detaching service _) => detachNext ids service
  | .removingNetworkEndpoints, _ => deleteService ids
  | .deletingService, _ => return .complete none "Private endpoint deleted"
  | phase, observation =>
    .fail (.remoteFailure (.unexpectedObservation (Tagged.tag phase)
      (Text.outlineOption EndpointObservation.outline observation)))

end PrivateEndpointLifecycle

open PrivateEndpointLifecycle in
/-- How operations on private endpoints go. -/
def privateEndpointLifecycle (operation : Operation) :
    Lifecycle PrivateEndpointModel PrivateEndpointPhase PrivateEndpointIds EndpointObservation where
  family := .privateEndpoint
  operation := operation
  ids := PrivateEndpointIds.shape
  validate := validate operation
  inspect model := do
    if operation ≠ .delete then return none
    return some ((← look (← PrivateEndpointIds.ofModel model)).map .service)
  start := start operation
  observe := observe
  awaitsAbsence phase := phase = .deletingService
  isReached := isReached
  fault? := fault?
  advance := advance

namespace PrivateEndpointLifecycle

/-- The model of an existing private endpoint. -/
def read (model : PrivateEndpointModel) : Action PrivateEndpointModel := do
  let projectId ← required "projectId" model.projectId
  let serviceId ← required "id" model.id
  match ← Observation.ofAnswer (← Action.control? (.getService projectId serviceId)) with
  | .found service => return model.merge service
  | .absent => .fail (.notFound (.resource s!"endpoint service {serviceId}"))

/-- The models of all private endpoints of a project. -/
def list (projectId : String) : Action (List PrivateEndpointModel) := do
  let services ← Action.control (.listServices projectId)
  return services.map (PrivateEndpointModel.ofService projectId)

end PrivateEndpointLifecycle

end Provisioner
