import Provisioner.Json.Record

/-!
# Private endpoints

The records of private endpoints. An endpoint has a service on the side of the database and interfaces on the
side of the network provider, which are attached to the service.
-/
namespace Provisioner

/-- A private endpoint as a caller wants it; the last five fields are assigned by the control plane. -/
structure PrivateEndpointModel where
  projectId : Option String := none
  region : Option String := none
  vpcId : Option String := none
  subnetIds : Option (List String) := none
  /-- The id of the service. -/
  id : Option String := none
  endpointServiceName : Option String := none
  status : Option String := none
  errorMessage : Option String := none
  /-- The ids of the interfaces attached to the service. -/
  interfaceEndpoints : Option (List String) := none
  deriving DecidableEq, Repr

namespace PrivateEndpointModel

/-- How private endpoint models are read and written. The project may also be given as a group. -/
def record : Record PrivateEndpointModel where
  name := "PrivateEndpointModel"
  fields :=
    .cons { Field.nullable "projectId" .string with aliases := ["groupId"] } <|
    .cons (.nullable "region" .string) <|
    .cons (.nullable "vpcId" .string) <|
    .cons (.nullable "subnetIds" Shape.string.list) <|
    .cons (.nullable "id" .string) <|
    .cons (.nullable "endpointServiceName" .string) <|
    .cons (.nullable "status" .string) <|
    .cons (.nullable "errorMessage" .string) <|
    .cons (.nullable "interfaceEndpoints" Shape.string.list) .none
  ofRow := fun (projectId, region, vpcId, subnetIds, id, endpointServiceName, status, errorMessage,
      interfaceEndpoints, ()) =>
    { projectId, region, vpcId, subnetIds, id, endpointServiceName, status, errorMessage, interfaceEndpoints }
  toRow := fun model =>
    (model.projectId, model.region, model.vpcId, model.subnetIds, model.id, model.endpointServiceName,
      model.status, model.errorMessage, model.interfaceEndpoints, ())

/-- A private endpoint model as a document. -/
def shape : Shape PrivateEndpointModel := record.shape

end PrivateEndpointModel

/-- An endpoint service as the control plane reports it. -/
structure EndpointService where
  id : String
  regionName : Option String := none
  endpointServiceName : Option String := none
  errorMessage : Option String := none
  status : String
  interfaceEndpoints : List String := []
  deriving DecidableEq, Repr

namespace EndpointService

/-- How endpoint services are read and written. -/
def record : Record EndpointService where
  name := "EndpointService"
  fields :=
    .cons (.required "id" .string) <|
    .cons (.nullable "regionName" .string) <|
    .cons (.nullable "endpointServiceName" .string) <|
    .cons (.nullable "errorMessage" .string) <|
    .cons (.required "status" .string) <|
    .cons (.listed "interfaceEndpoints" .string) .none
  ofRow := fun (id, regionName, endpointServiceName, errorMessage, status, interfaceEndpoints, ()) =>
    { id, regionName, endpointServiceName, errorMessage, status, interfaceEndpoints }
  toRow := fun service =>
    (service.id, service.regionName, service.endpointServiceName, service.errorMessage, service.status,
      service.interfaceEndpoints, ())

/-- An endpoint service as a document. -/
def shape : Shape EndpointService := record.shape

end EndpointService

/-- An interface attached to a service. -/
structure InterfaceEndpoint where
  interfaceEndpointId : String
  connectionStatus : String
  errorMessage : Option String := none
  deleteRequested : Option Bool := none
  deriving DecidableEq, Repr

namespace InterfaceEndpoint

/-- How interfaces are read and written. -/
def record : Record InterfaceEndpoint where
  name := "InterfaceEndpoint"
  fields :=
    .cons (.required "interfaceEndpointId" .string) <|
    .cons (.required "connectionStatus" .string) <|
    .cons (.nullable "errorMessage" .string) <|
    .cons (.nullable "deleteRequested" .bool) .none
  ofRow := fun (interfaceEndpointId, connectionStatus, errorMessage, deleteRequested, ()) =>
    { interfaceEndpointId, connectionStatus, errorMessage, deleteRequested }
  toRow := fun interface =>
    (interface.interfaceEndpointId, interface.connectionStatus, interface.errorMessage,
      interface.deleteRequested, ())

/-- An interface as a document. -/
def shape : Shape InterfaceEndpoint := record.shape

end InterfaceEndpoint

/-- An endpoint as the network provider reports it. -/
structure NetworkEndpoint where
  id : String
  state : String
  deriving DecidableEq, Repr

namespace NetworkEndpoint

/-- How network endpoints are read and written. -/
def record : Record NetworkEndpoint where
  name := "NetworkEndpoint"
  fields := .cons (.required "id" .string) <| .cons (.required "state" .string) .none
  ofRow := fun (id, state, ()) => { id, state }
  toRow := fun endpoint => (endpoint.id, endpoint.state, ())

/-- A network endpoint as a document. -/
def shape : Shape NetworkEndpoint := record.shape

end NetworkEndpoint

namespace PrivateEndpointModel

/-- A model with what the control plane says of its service. The caller's region stays. -/
def merge (model : PrivateEndpointModel) (service : EndpointService) : PrivateEndpointModel :=
  { model with
    id := some service.id
    endpointServiceName := service.endpointServiceName
    status := some service.status
    errorMessage := service.errorMessage
    interfaceEndpoints := some service.interfaceEndpoints
    region := model.region.orElse fun _ => service.regionName }

/-- The model that an endpoint service of a project amounts to. -/
def ofService (projectId : String) (service : EndpointService) : PrivateEndpointModel :=
  merge { projectId := some projectId } service

end PrivateEndpointModel

end Provisioner
