import Provisioner.Proofs.Account
import Provisioner.Proofs.Dismantling
import Provisioner.Proofs.Pattern

/-!
# Connecting private endpoints

A creation requests a service, creates a network endpoint for it, attaches that to it and reads it once more, and waits
in between (`connecting`). When it makes a call, and with which ids, is said by `Allows`: the ids come from the answers
to earlier calls (`Created`), since what is remembered in each phase does (`Awaits`). From this follows what a private
endpoint looks like that was created (`Family.endpoint_connected_in_order`).
-/
namespace Provisioner
open Pattern

/-- What is created by the answer to a call, and its id. -/
def Answered.created? : Answered Gateway → Option (Creation × String)
  | ⟨.control (.createService ..), .ok service⟩ => some (.service, service.id)
  | ⟨.network (.createEndpoint ..), .ok endpoint⟩ => some (.networkEndpoint, endpoint.id)
  | ⟨.control (.attachInterface ..), .ok interface⟩ => some (.interface, interface.interfaceEndpointId)
  | _ => none

/-- A call of a trace created something with an id. -/
def Created (creation : Creation) (id : String) (trace : Trace Gateway) : Prop :=
  ∃ answered ∈ trace, answered.created? = some (creation, id)

theorem Created.append {creation : Creation} {id : String} {before : Trace Gateway} (created : Created creation id before)
    (after : Trace Gateway) : Created creation id (before ++ after) := by
  obtain ⟨answered, member, same⟩ := created
  exact ⟨answered, List.mem_append_left after member, same⟩

theorem created_concat {creation : Creation} {id : String} {answered : Answered Gateway}
    (same : answered.created? = some (creation, id)) (before : Trace Gateway) :
    Created creation id (before ++ [answered]) :=
  ⟨answered, List.mem_append_right before List.mem_cons_self, same⟩

/-- A look creates nothing. -/
theorem Created.of_concat {creation : Creation} {id : String} {before : Trace Gateway} {answered : Answered Gateway}
    (created : Created creation id (before ++ [answered])) (none : answered.created? = none) :
    Created creation id before := by
  obtain ⟨maker, member, same⟩ := created
  rcases List.mem_append.mp member with earlier | last
  · exact ⟨maker, earlier, same⟩
  · rw [List.mem_singleton.mp last, none] at same
    cases same

/-- Something is known by the id that a call of a trace created it with. -/
def Known (creation : Creation) (value : Option String) (trace : Trace Gateway) : Prop :=
  ∃ id, value = some id ∧ Created creation id trace

theorem Known.append {creation : Creation} {value : Option String} {before : Trace Gateway}
    (known : Known creation value before) (after : Trace Gateway) : Known creation value (before ++ after) := by
  obtain ⟨id, same, created⟩ := known
  exact ⟨id, same, created.append after⟩

/-- The id of a network endpoint that is created can stand in a list between commas. -/
def Answered.NamesItem : Answered Gateway → Prop
  | ⟨.network (.createEndpoint ..), .ok endpoint⟩ => IsItem endpoint.id
  | _ => True

namespace PrivateEndpointLifecycle

/-- The calls that create a private endpoint, in order. -/
def connecting : Language String :=
  once "create_service" * many "get_service" * once "create_endpoint" * many "describe_endpoints" *
    once "attach_interface" * many "get_interface" * once "get_service"

/-- The calls of a creation up to a phase. -/
def connectingUpTo : PrivateEndpointPhase → Language String
  | .serviceProvisioning => once "create_service" * many "get_service"
  | .creatingNetworkEndpoint =>
    once "create_service" * many "get_service" * once "create_endpoint" * many "describe_endpoints"
  | .attachingInterface =>
    once "create_service" * many "get_service" * once "create_endpoint" * many "describe_endpoints" *
      once "attach_interface" * many "get_interface"
  | _ => 0

/-- When a creation makes its calls, and for what. A network endpoint is created right after its service was found to be
available, and attached right after it was found that it can be. -/
def Allows (model : PrivateEndpointModel) (before : Trace Gateway) : Call → Prop
  | .network (.createEndpoint region serviceName vpcId subnetIds) =>
    (∃ earlier project id service, before = earlier ++ [⟨.control (.getService project id), .ok service⟩] ∧
      service.status = "AVAILABLE" ∧ service.endpointServiceName = some serviceName) ∧
    model.region = some region ∧ model.vpcId = some vpcId ∧ model.subnetIds = some subnetIds
  | .control (.attachInterface _ service endpoint) =>
    (∃ earlier region ids endpoints,
      before = earlier ++ [⟨.network (.describeEndpoints region ids), .ok endpoints⟩] ∧ endpoints ≠ [] ∧
      ∀ endpoint ∈ endpoints, endpoint.state = "pendingacceptance" ∨ endpoint.state = "available") ∧
    Created .service service before ∧ Created .networkEndpoint endpoint before
  | _ => True

/-- What a creation remembers in a phase comes from the answers to its calls. -/
structure Awaits (model : PrivateEndpointModel) (past : Trace Gateway) (phase : PrivateEndpointPhase)
    (ids : PrivateEndpointIds) : Prop where
  makes : Makes (connectingUpTo phase) past
  region : model.region = some ids.region
  service : Known .service ids.serviceId past
  networkEndpoint : phase = .serviceProvisioning ∨
    ∃ id, ids.networkEndpointIds = [id] ∧ IsItem id ∧ Created .networkEndpoint id past
  interface : phase = .attachingInterface → Known .interface ids.interfaceEndpointId past

/-- A private endpoint was created: its interface, which was attached before, was found to be connected, and the model
tells what was read of its service after that. -/
def Connected (trace : Trace Gateway) (result : Option PrivateEndpointModel) : Prop :=
  ∃ earlier project id endpoint interface project' id' service model,
    trace = earlier ++ [⟨.control (.getInterface project id endpoint), .ok interface⟩,
      ⟨.control (.getService project' id'), .ok service⟩] ∧
    interface.connectionStatus = "AVAILABLE" ∧ Created .interface endpoint earlier ∧ result = some model ∧
    model.interfaceEndpoints = some [endpoint] ∧ model.id = some service.id ∧ model.status = some service.status ∧
    model.endpointServiceName = service.endpointServiceName

/-- What is told of creating a private endpoint. -/
def connection (model : PrivateEndpointModel) : Account PrivateEndpointModel PrivateEndpointPhase PrivateEndpointIds where
  calls trace := Follows connecting trace ∧ Guarded (Allows model) trace
  waits := Awaits model
  succeeds := Connected

variable {model : PrivateEndpointModel} {past : Trace Gateway} {phase : PrivateEndpointPhase} {ids : PrivateEndpointIds}

theorem allows_of_reads (before : Trace Gateway) (c : Call) (reads : c.isMutating = false) : Allows model before c := by
  unfold Allows
  split
  · cases reads
  · cases reads
  · trivial

instance : Possible connecting := by
  unfold connecting
  infer_instance

theorem follows_of_upTo (makes : Makes (connectingUpTo phase) past) : Follows connecting past := by
  cases phase with
  | serviceProvisioning => exact makes.follows.mul.mul.mul.mul.mul
  | creatingNetworkEndpoint => exact makes.follows.mul.mul.mul
  | attachingInterface => exact makes.follows.mul
  | detachingInterfaces | removingNetworkEndpoints | deletingService => exact makes.elim

/-! ## The actions of a creation -/

/-- The kind of the call by which a phase looks. -/
def polled : PrivateEndpointPhase → String
  | .creatingNetworkEndpoint | .removingNetworkEndpoints => "describe_endpoints"
  | .attachingInterface => "get_interface"
  | .serviceProvisioning | .detachingInterfaces | .deletingService => "get_service"

theorem polls_observe (phase : PrivateEndpointPhase) (ids : PrivateEndpointIds) :
    (observe phase ids).Always fun look _ => Polls (polled phase) look := by
  cases phase <;> simp [observe, look, Polls, polled]

section
variable {current : Option EndpointObservation} {service : EndpointService} {interface : InterfaceEndpoint}
  {after : Trace Gateway} {result : Except ProvisionError EndpointTransition}

theorem ends_start_create (ends : (start .create model current).Ends after result) : FailsSilently after result ∨
    ∃ ids, PrivateEndpointIds.ofModel model = .ok ids ∧
      CallsOnce (.control (.createService ids.projectId ids.region))
        (fun service => .proceed .serviceProvisioning { ids with serviceId := some service.id }
          "Endpoint service requested") after result := by
  rcases failsSilently_or_lift ends with fails | ⟨ids, known, later⟩
  · exact .inl fails
  · exact .inr ⟨ids, known, callsOnce_ask (Program.ends_note.mp later)⟩

theorem ends_createNetworkEndpoint (ends : (createNetworkEndpoint ids model service).Ends after result) :
    FailsSilently after result ∨ ∃ serviceName vpcId, service.endpointServiceName = some serviceName ∧
      model.vpcId = some vpcId ∧
      CallsOnce (.network (.createEndpoint ids.region serviceName vpcId (model.subnetIds.getD [])))
        (fun endpoint => .proceed .creatingNetworkEndpoint { ids with networkEndpointIds := [endpoint.id] }
          "Network endpoint requested") after result := by
  rw [createNetworkEndpoint] at ends
  split at ends
  · exact .inl ⟨(Program.ends_fail.mp ends).1, _, (Program.ends_fail.mp ends).2⟩
  · next serviceName named =>
    rcases failsSilently_or_lift ends with fails | ⟨vpcId, known, later⟩
    · exact .inl fails
    · exact .inr ⟨serviceName, vpcId, named, (required_eq_ok.mp known).1,
        callsOnce_ask (Program.ends_note.mp later)⟩

theorem ends_attachInterface (ends : (attachInterface ids).Ends after result) : FailsSilently after result ∨
    ∃ service endpoint, ids.serviceId = some service ∧ ids.networkEndpointIds.head? = some endpoint ∧
      CallsOnce (.control (.attachInterface ids.projectId service endpoint))
        (fun interface => .proceed .attachingInterface
          { ids with interfaceEndpointId := some interface.interfaceEndpointId }
          "Interface endpoint attached, waiting for connection") after result := by
  rcases failsSilently_or_lift ends with fails | ⟨service, known, later⟩
  · exact .inl fails
  rcases failsSilently_or_lift later with fails | ⟨endpoint, first, later⟩
  · exact .inl fails
  · exact .inr ⟨service, endpoint, known_eq_ok.mp known, known_eq_ok.mp first,
      callsOnce_ask (Program.ends_note.mp later)⟩

theorem ends_connected (ends : (connected ids model interface).Ends after result) : FailsSilently after result ∨
    ∃ id message, CallsOnce (.control (.getService ids.projectId id))
      (fun service => .complete
        (some { model.merge service with interfaceEndpoints := ids.interfaceEndpointId.map fun id => [id] }) message)
      after result := by
  rcases failsSilently_or_lift ends with fails | ⟨id, known, later⟩
  · exact .inl fails
  · exact .inr ⟨id, _, callsOnce_ask later⟩

end

/-! ## A creation in order -/

/-- A model that can be created names subnets. -/
theorem subnetIds_of_valid (valid : validate .create model = .ok ()) :
    model.subnetIds = some (model.subnetIds.getD []) := by
  simp only [validate, bind_eq_ok] at valid
  obtain ⟨_, _, _, _, named⟩ := valid
  cases subnets : model.subnetIds with
  | none => simp [subnets] at named
  | some => rfl

theorem Awaits.reread (waits : Awaits model past phase ids) :
    Awaits model past phase (PrivateEndpointLifecycle.reread ids) where
  makes := waits.makes
  region := waits.region
  service := waits.service
  networkEndpoint := by
    refine waits.networkEndpoint.imp_right ?_
    rintro ⟨id, single, item, created⟩
    have items : AllItems ids.networkEndpointIds := by simp [single, item]
    exact ⟨id, by rw [reread_of_items items, single], item, created⟩
  interface := waits.interface

/-- Looking keeps what is remembered. -/
theorem Awaits.poll {look : Trace Gateway} (waits : Awaits model past phase ids) (polls : Polls (polled phase) look) :
    Awaits model (past ++ look) phase ids where
  makes := by
    have makes := waits.makes
    cases phase with
    | serviceProvisioning | creatingNetworkEndpoint | attachingInterface => exact makes.poll polls
    | detachingInterfaces | removingNetworkEndpoints | deletingService => exact makes.elim
  region := waits.region
  service := waits.service.append look
  networkEndpoint := by
    refine waits.networkEndpoint.imp_right ?_
    rintro ⟨id, single, item, created⟩
    exact ⟨id, single, item, created.append look⟩
  interface attaching := (waits.interface attaching).append look

section
variable {earlier after : Trace Gateway} {result : Except ProvisionError EndpointTransition}

theorem calls_nil (model : PrivateEndpointModel) : (connection model).calls [] :=
  ⟨follows_nil, guarded_nil⟩

theorem acts_start (ends : (start .create model none).Ends after result) :
    (connection model).Acts [] after result := by
  rcases ends_start_create ends with fails | ⟨ids, known, called⟩
  · exact Account.acts_of_failsSilently (calls_nil model) fails
  · have makes (answer : Except GatewayError EndpointService) : Makes (connectingUpTo .serviceProvisioning)
        [⟨.control (.createService ids.projectId ids.region), answer⟩] := Makes.wait (makes_once rfl)
    refine Account.acts_of_callsOnce called ?_ ?_
    · intro answer
      exact ⟨follows_of_upTo (makes answer), guarded_concat.mpr ⟨guarded_nil, trivial⟩⟩
    · intro service _
      have region : model.region = some ids.region := (named_of_ofModel known).2
      exact ⟨makes _, region, ⟨_, rfl, created_concat rfl []⟩, .inl rfl, nofun⟩

/-- Once the service is available, a network endpoint is created for it. -/
theorem acts_createNetworkEndpoint {project id : String} {service : EndpointService}
    (valid : validate .create model = .ok ())
    (seen : past = earlier ++ [⟨.control (.getService project id), .ok service⟩])
    (available : service.status = "AVAILABLE") (calls : (connection model).calls past)
    (waits : Awaits model past .serviceProvisioning ids) (fits : ∀ answered ∈ after, answered.NamesItem)
    (ends : (createNetworkEndpoint ids model service).Ends after result) : (connection model).Acts past after result := by
  rcases ends_createNetworkEndpoint ends with fails | ⟨serviceName, vpcId, named, known, called⟩
  · exact Account.acts_of_failsSilently calls fails
  · have makes (answer : Except GatewayError NetworkEndpoint) : Makes (connectingUpTo .creatingNetworkEndpoint)
        (past ++ [⟨.network (.createEndpoint ids.region serviceName vpcId (model.subnetIds.getD [])), answer⟩]) :=
      waits.makes.enter rfl
    refine Account.acts_of_callsOnce called ?_ ?_
    · intro answer
      refine ⟨follows_of_upTo (makes answer), guarded_concat.mpr ⟨calls.2, ?_⟩⟩
      exact ⟨⟨earlier, project, id, service, seen, available, named⟩, waits.region, known, subnetIds_of_valid valid⟩
    · rintro endpoint rfl
      have item : IsItem endpoint.id := fits _ List.mem_cons_self
      exact ⟨makes _, waits.region, waits.service.append _, .inr ⟨endpoint.id, rfl, item, created_concat rfl past⟩, nofun⟩

/-- Once the network endpoint can be attached, it is. -/
theorem acts_attachInterface {region : String} {endpointIds : List String} {endpoints : List NetworkEndpoint}
    (seen : past = earlier ++ [⟨.network (.describeEndpoints region endpointIds), .ok endpoints⟩])
    (present : endpoints ≠ []) (ready : ∀ endpoint ∈ endpoints, isAttachable endpoint = true)
    (calls : (connection model).calls past) (waits : Awaits model past .creatingNetworkEndpoint ids)
    (ends : (attachInterface ids).Ends after result) : (connection model).Acts past after result := by
  obtain ⟨id, single, item, created⟩ := waits.networkEndpoint.resolve_left nofun
  obtain ⟨serviceId, same, created'⟩ := waits.service
  rcases ends_attachInterface ends with fails | ⟨service, endpoint, known, first, called⟩
  · exact Account.acts_of_failsSilently calls fails
  · obtain rfl : serviceId = service := Option.some.inj (same.symm.trans known)
    obtain rfl : id = endpoint := by simpa [single] using first
    have makes (answer : Except GatewayError InterfaceEndpoint) : Makes (connectingUpTo .attachingInterface)
        (past ++ [⟨.control (.attachInterface ids.projectId serviceId id), answer⟩]) := waits.makes.enter rfl
    refine Account.acts_of_callsOnce called ?_ ?_
    · intro answer
      refine ⟨follows_of_upTo (makes answer), guarded_concat.mpr ⟨calls.2, ?_⟩⟩
      refine ⟨⟨earlier, region, endpointIds, endpoints, seen, present, ?_⟩, created', created⟩
      intro endpoint member
      simpa [isAttachable] using ready endpoint member
    · intro interface _
      exact ⟨makes _, waits.region, waits.service.append _, .inr ⟨id, single, item, created.append _⟩,
        fun _ => ⟨_, rfl, created_concat rfl past⟩⟩

/-- Once the interface is connected, the service is read and the endpoint is there. -/
theorem acts_connected {project id endpoint : String} {interface : InterfaceEndpoint}
    (seen : past = earlier ++ [⟨.control (.getInterface project id endpoint), .ok interface⟩])
    (available : interface.connectionStatus = "AVAILABLE") (attached : ids.interfaceEndpointId = some endpoint)
    (created : Created .interface endpoint earlier) (calls : (connection model).calls past)
    (waits : Awaits model past .attachingInterface ids) (ends : (connected ids model interface).Ends after result) :
    (connection model).Acts past after result := by
  rcases ends_connected ends with fails | ⟨id', message, called⟩
  · exact Account.acts_of_failsSilently calls fails
  · refine Account.acts_of_callsOnce called ?_ ?_
    · intro answer
      have makes : Makes connecting (past ++ [⟨.control (.getService ids.projectId id'), answer⟩]) :=
        waits.makes.concat rfl
      exact ⟨makes.follows, guarded_concat.mpr ⟨calls.2, trivial⟩⟩
    · intro service _
      have whole : past ++ [⟨.control (.getService ids.projectId id'), .ok service⟩] =
          earlier ++ [⟨.control (.getInterface project id endpoint), .ok interface⟩,
            ⟨.control (.getService ids.projectId id'), .ok service⟩] := by
        simp [seen]
      exact ⟨earlier, project, id, endpoint, interface, _, id', service, _, whole, available, created, rfl,
        congrArg (Option.map _) attached, rfl, rfl, rfl⟩

end

theorem upholds_connection (model : PrivateEndpointModel) :
    (privateEndpointLifecycle .create).Upholds reread Answered.NamesItem model (connection model) where
  unopened := calls_nil model
  reread waits := waits.reread
  inspect valid := by
    intro look seen inspected _
    obtain ⟨rfl, rfl⟩ := Program.ends_done.mp inspected
    exact ⟨calls_nil model, nofun⟩
  start := by
    intro look seen valid inspected present allowed after result ends fits
    obtain ⟨rfl, ⟨⟩⟩ := Program.ends_done.mp inspected
    exact acts_start ends
  observe := by
    intro past phase ids calls waits look result ends
    have polls : Polls (polled phase) look := polls_observe phase ids _ _ ends
    have waits : Awaits model (past ++ look) phase ids := Awaits.poll waits polls
    exact ⟨⟨follows_of_upTo waits.makes, calls.2.poll polls allows_of_reads⟩, waits⟩
  advance := by
    intro past look phase ids seen valid calls waits observed due after result ends fits
    have found := always_observe phase ids _ _ observed
    cases phase with
    | serviceProvisioning =>
      rcases seen with remote | _
      · obtain ⟨id, service, looked, rfl⟩ := found _ rfl
        have available : service.status = "AVAILABLE" := of_decide_eq_true due
        exact acts_createNetworkEndpoint valid (congrArg (past ++ ·) looked) available calls waits fits ends
      · cases due
    | creatingNetworkEndpoint =>
      rcases seen with remote | _
      · obtain ⟨endpoints, looked, rfl⟩ := found _ rfl
        obtain ⟨present, ready⟩ := Bool.and_eq_true_iff.mp due
        exact acts_attachInterface (congrArg (past ++ ·) looked) (by simpa using present) (List.all_eq_true.mp ready) calls
          waits ends
      · cases due
    | attachingInterface =>
      rcases seen with remote | _
      · obtain ⟨id, endpoint, interface, attached, looked, rfl⟩ := found _ rfl
        have available : interface.connectionStatus = "AVAILABLE" := of_decide_eq_true due
        obtain ⟨id', same, created⟩ := waits.interface rfl
        obtain rfl : id' = endpoint := Option.some.inj (same.symm.trans attached)
        rw [looked] at created
        exact acts_connected (congrArg (past ++ ·) looked) available attached (created.of_concat rfl) calls waits ends
      · cases due
    | detachingInterfaces | removingNetworkEndpoints | deletingService => exact waits.makes.elim
  cleanup timed _ _ := by cases timed

end PrivateEndpointLifecycle

open PrivateEndpointLifecycle in
/-- The calls that create a private endpoint are the first ones of a fixed order. A network endpoint is only created and
only attached right after a look that allows it, with the name of the service that was found and with the ids that came
from the answers to earlier calls. Whoever succeeds has just found the attached interface to be connected, and tells its
id and what was read of the service last. -/
theorem Family.endpoint_connected_in_order (settings : Settings) {model : PrivateEndpointModel}
    {steps : List (Taken PrivateEndpointModel)} {next : Option Fields}
    (run : (Family.privateEndpoint.lifecycle settings .create).Run (settings.step .privateEndpoint) .plain steps next)
    (same : ∀ taken ∈ steps, taken.model = model) (fits : ∀ answered ∈ traceOf steps, answered.NamesItem) :
    Follows connecting (traceOf steps) ∧ Guarded (Allows model) (traceOf steps) ∧
    ∀ taken ∈ steps, ∀ result message, taken.outcome = .success result message → Connected (traceOf steps) result := by
  have keeps := Family.privateEndpoint.keeps settings .create
  have upholds : (Family.privateEndpoint.lifecycle settings .create).Upholds reread Answered.NamesItem model
    (connection model) := upholds_connection model
  obtain ⟨⟨follows, guarded⟩, succeeds⟩ := upholds.holds keeps run same fits
  exact ⟨follows, guarded, succeeds⟩

/-- A private endpoint that is to be created. -/
def freshModel : PrivateEndpointModel where
  projectId := some "p"
  region := some "r"
  vpcId := some "v"
  subnetIds := some ["u"]

/-- The operation on it, in a phase. -/
def freshWaiting (phase : PrivateEndpointPhase) (interface : Option String) (endpoints : List String) :
    Continuation PrivateEndpointPhase PrivateEndpointIds where
  operationId := .nil
  phase := phase
  ids :=
    { projectId := "p", region := "r", serviceId := some "s", interfaceEndpointId := interface,
      networkEndpointIds := endpoints }
  timing := none

/-- The context in which the operation waits. -/
def freshContext (phase : PrivateEndpointPhase) (interface : Option String) (endpoints : List String) : Fields :=
  (Family.privateEndpoint.lifecycle {} .create).write Family.privateEndpoint.idsRecord
    (freshWaiting phase interface endpoints)

/-- A step in creating it. -/
def freshStep (context : Fields) (trace : Trace Gateway) (outcome : Outcome PrivateEndpointModel) :
    Taken PrivateEndpointModel where
  fresh := .nil
  context := context
  model := freshModel
  now := .epoch
  trace := trace
  outcome := outcome

/-- The first step requests the service. -/
def freshRequested : Taken PrivateEndpointModel :=
  freshStep [] [⟨.control (.createService "p" "r"), .ok { id := "s", status := "INITIATING" }⟩]
    (.inProgress (freshContext .serviceProvisioning none []) (.ofSeconds 10) "Endpoint service requested")

/-- The service once it is available. -/
def freshService : EndpointService where
  id := "s"
  endpointServiceName := some "n"
  status := "AVAILABLE"

/-- The second step finds it available and creates the network endpoint. -/
def freshCreated : Taken PrivateEndpointModel :=
  freshStep (freshContext .serviceProvisioning none [])
    [⟨.control (.getService "p" "s"), .ok freshService⟩,
      ⟨.network (.createEndpoint "r" "n" "v" ["u"]), .ok { id := "e", state := "pending" }⟩]
    (.inProgress (freshContext .creatingNetworkEndpoint none ["e"]) (.ofSeconds 10) "Network endpoint requested")

/-- The third step attaches it. -/
def freshAttached : Taken PrivateEndpointModel :=
  freshStep (freshContext .creatingNetworkEndpoint none ["e"])
    [⟨.network (.describeEndpoints "r" ["e"]), .ok [{ id := "e", state := "available" }]⟩,
      ⟨.control (.attachInterface "p" "s" "e"), .ok { interfaceEndpointId := "i", connectionStatus := "PENDING" }⟩]
    (.inProgress (freshContext .attachingInterface (some "i") ["e"]) (.ofSeconds 10)
      "Interface endpoint attached, waiting for connection")

/-- The last step finds the interface connected. -/
def freshConnected : Taken PrivateEndpointModel :=
  freshStep (freshContext .attachingInterface (some "i") ["e"])
    [⟨.control (.getInterface "p" "s" "i"), .ok { interfaceEndpointId := "i", connectionStatus := "AVAILABLE" }⟩,
      ⟨.control (.getService "p" "s"), .ok freshService⟩]
    (.success (some { freshModel.merge freshService with interfaceEndpoints := some ["i"] })
      ("Private endpoint " ++ "i" ++ " is " ++ "AVAILABLE"))

theorem decode_freshContext (phase : PrivateEndpointPhase) (interface : Option String) {endpoints : List String}
    (items : AllItems endpoints) :
    Context.decode (Family.privateEndpoint.lifecycle {} .create).target (Family.privateEndpoint.lifecycle {} .create).ids
      (freshContext phase interface endpoints) = .ok (some (freshWaiting phase interface endpoints)) := by
  have same : Family.rereadIds .privateEndpoint (freshWaiting phase interface endpoints).ids =
      (freshWaiting phase interface endpoints).ids := PrivateEndpointLifecycle.reread_of_items items
  have read := (Family.privateEndpoint.keeps {} .create).decode_write
    (show (freshWaiting phase interface endpoints).HasPlainStart by rintro _ ⟨⟩)
  rw [Continuation.reread, same] at read
  exact read

theorem takes_freshRequested :
    (Family.privateEndpoint.lifecycle {} .create).Takes (Settings.step {} .privateEndpoint) freshRequested := by
  refine Lifecycle.takes_of_ends (.note (.call (.note ?_)))
  exact (Family.privateEndpoint.keeps {} .create).ends_waiting (freshWaiting .serviceProvisioning none []) _

theorem takes_freshCreated :
    (Family.privateEndpoint.lifecycle {} .create).Takes (Settings.step {} .privateEndpoint) freshCreated := by
  apply Lifecycle.takes_of_ends
  rw [freshCreated, freshStep, Lifecycle.tryStep, decode_freshContext _ _ (List.forall_mem_nil _)]
  refine .call (.note (.call (.note ?_)))
  exact (Family.privateEndpoint.keeps {} .create).ends_waiting (freshWaiting .creatingNetworkEndpoint none ["e"]) _

theorem allItems_fresh : AllItems ["e"] := by
  have item : IsItem "e" := by decide
  simp [item]

theorem takes_freshAttached :
    (Family.privateEndpoint.lifecycle {} .create).Takes (Settings.step {} .privateEndpoint) freshAttached := by
  apply Lifecycle.takes_of_ends
  rw [freshAttached, freshStep, Lifecycle.tryStep, decode_freshContext _ _ allItems_fresh]
  refine .call (.note (.call (.note ?_)))
  exact (Family.privateEndpoint.keeps {} .create).ends_waiting (freshWaiting .attachingInterface (some "i") ["e"]) _

theorem takes_freshConnected :
    (Family.privateEndpoint.lifecycle {} .create).Takes (Settings.step {} .privateEndpoint) freshConnected := by
  apply Lifecycle.takes_of_ends
  rw [freshConnected, freshStep, Lifecycle.tryStep, decode_freshContext _ _ allItems_fresh]
  exact .call (.call (.note (.done _)))

/-- The four steps. -/
def freshSteps : List (Taken PrivateEndpointModel) :=
  [freshRequested] ++ [freshCreated] ++ [freshAttached] ++ [freshConnected]

theorem run_fresh : (Family.privateEndpoint.lifecycle {} .create).Run (Settings.step {} .privateEndpoint) .plain freshSteps
    (Caller.plain.next freshConnected) :=
  .step (.step (.step (.step .start takes_freshRequested) takes_freshCreated) takes_freshAttached) takes_freshConnected

/-- They connect the endpoint. -/
theorem fresh_connected_in_order : PrivateEndpointLifecycle.Connected (traceOf freshSteps)
    (some { freshModel.merge freshService with interfaceEndpoints := some ["i"] }) := by
  have item : IsItem "e" := by decide
  have fits : ∀ answered ∈ traceOf freshSteps, answered.NamesItem := by
    simp [freshSteps, freshRequested, freshCreated, freshAttached, freshConnected, freshStep, Answered.NamesItem, item]
  have same : ∀ taken ∈ freshSteps, taken.model = freshModel := by
    simp [freshSteps, freshRequested, freshCreated, freshAttached, freshConnected, freshStep]
  obtain ⟨_, _, connected⟩ := Family.endpoint_connected_in_order {} run_fresh same fits
  exact connected freshConnected (by simp [freshSteps]) _ _ rfl

end Provisioner
