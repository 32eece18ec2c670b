import Provisioner.Proofs.Closure
import Provisioner.Proofs.Interfaces

/-!
# Taking private endpoints apart

A deletion detaches the interfaces of a private endpoint one after the other, then deletes the network endpoints that
they belonged to, and then the service. Every step of a deletion is one of a few deeds (`Deed.of_moves`), each of which
keeps the deletion orderly (`Deed.orderly`): only the interface that is remembered may be being detached, and what is
remembered of network endpoints are all interfaces that steps took note of (`Remembers`). From this follows what is
deleted when (`Family.endpoint_taken_apart_in_order`).
-/
namespace Provisioner

/-! ## What is remembered -/

theorem eraseDups_concat (known : List String) (id : String) :
    (known ++ [id]).eraseDups = if id ∈ known.eraseDups then known.eraseDups else known.eraseDups ++ [id] := by
  rw [List.eraseDups_append]
  by_cases old : id ∈ known
  · simp [List.removeAll, old]
  · simp [List.removeAll, List.eraseDups_cons, old]

/-- Ids are remembered in the order in which they first appear. -/
theorem PrivateEndpointIds.remember_eraseDups {ids : PrivateEndpointIds} {known : List String}
    (remembered : ids.networkEndpointIds = known.eraseDups) (endpointIds : List String) :
    (ids.remember endpointIds).networkEndpointIds = (known ++ endpointIds).eraseDups := by
  show endpointIds.foldl _ ids.networkEndpointIds = _
  rw [remembered]
  clear remembered
  induction endpointIds generalizing known with
  | nil => simp
  | cons id endpointIds ih =>
    rw [List.foldl_cons, ← eraseDups_concat, ih, List.append_assoc, List.singleton_append]

namespace PrivateEndpointLifecycle

/-- An operation on a private endpoint between two steps. -/
abbrev EndpointContinuation := Continuation PrivateEndpointPhase PrivateEndpointIds

/-- Where a run on a private endpoint stands. -/
abbrev EndpointStage := Stage PrivateEndpointPhase PrivateEndpointIds

/-- What a step on a private endpoint decides. -/
abbrev EndpointVerdict := Verdict PrivateEndpointPhase PrivateEndpointIds PrivateEndpointModel

/-- The identifiers that are read back. -/
abbrev reread : PrivateEndpointIds → PrivateEndpointIds := Family.rereadIds .privateEndpoint

/-- The step acts on the service that it finds: it is the first one, or no interface is being detached any more. -/
def actsOn (taken : Taken PrivateEndpointModel) (service : EndpointService) : Bool :=
  match Context.decode (P := PrivateEndpointPhase) (privateEndpointLifecycle .delete).target
    (privateEndpointLifecycle .delete).ids taken.context with
  | .ok none => true
  | .ok (some continuation) =>
    continuation.phase = .detachingInterfaces &&
      isReached continuation.phase (.detaching service continuation.ids.interfaceEndpointId)
  | .error _ => false

theorem actsOn_of_empty {taken : Taken PrivateEndpointModel} (empty : taken.context = []) (service : EndpointService) :
    actsOn taken service = true := by
  rw [actsOn, empty]
  rfl

theorem actsOn_of_decoded {taken : Taken PrivateEndpointModel} {continuation : EndpointContinuation}
    (decoded : Context.decode (privateEndpointLifecycle .delete).target (privateEndpointLifecycle .delete).ids
      taken.context = .ok (some continuation)) (service : EndpointService) : actsOn taken service =
      (continuation.phase = .detachingInterfaces &&
        isReached continuation.phase (.detaching service continuation.ids.interfaceEndpointId) : Bool) := by
  rw [actsOn, decoded]

/-- The interfaces that a step takes note of: those of the service that it acts on. -/
def noted (taken : Taken PrivateEndpointModel) : List String :=
  match taken.trace with
  | ⟨.control (.getService ..), .ok service⟩ :: _ => if actsOn taken service then service.interfaceEndpoints else []
  | _ => []

/-! ## The actions of a deletion -/

/-- Deleting a service is one call, and leads nowhere but to waiting for it. -/
theorem always_deleteService (ids : PrivateEndpointIds) : (deleteService ids).Always fun trace result =>
    (trace = [] ∧ ∃ error, result = .error error) ∨
      (∃ id answer, trace = [⟨.control (.deleteService ids.projectId id), answer⟩]) ∧
        ∀ phase ids message, result = .ok (.proceed phase ids message) → phase = .deletingService := by
  simp [deleteService]

/-- Deleting network endpoints is one call, and leads nowhere but to waiting for them. -/
theorem always_removeNetworkEndpoints (ids : PrivateEndpointIds) : (removeNetworkEndpoints ids).Always fun trace result =>
    (∃ answer, trace = [⟨.network (.deleteEndpoints ids.region ids.networkEndpointIds), answer⟩]) ∧
      ∀ phase ids' message, result = .ok (.proceed phase ids' message) →
        phase = .removingNetworkEndpoints ∧ ids' = ids := by
  simp [removeNetworkEndpoints]

/-- Where the service lists interfaces, the first one is detached and waited for. -/
theorem always_detachNext {service : EndpointService} {endpoint : String} {rest : List String}
    (listed : service.interfaceEndpoints = endpoint :: rest) (ids : PrivateEndpointIds) :
    (detachNext ids service).Always fun trace result =>
      (∃ answer, trace = [⟨.control (.detachInterface ids.projectId service.id endpoint), answer⟩]) ∧
        ∀ phase ids' message, result = .ok (.proceed phase ids' message) → phase = .detachingInterfaces ∧
          ids' = { ids.remember service.interfaceEndpoints with interfaceEndpointId := some endpoint } := by
  simp [detachNext, listed, PrivateEndpointIds.remember]

/-- Where the service lists none, the network endpoints are deleted, and the service if there are none. -/
theorem detachNext_of_empty {service : EndpointService} (empty : service.interfaceEndpoints = [])
    (ids : PrivateEndpointIds) : detachNext ids service =
      if ids.networkEndpointIds = [] then deleteService { ids with interfaceEndpointId := none }
      else removeNetworkEndpoints { ids with interfaceEndpointId := none } := by
  simp [detachNext, empty, PrivateEndpointIds.remember]

/-- What is found in a phase, and by which call. -/
theorem always_observe (phase : PrivateEndpointPhase) (ids : PrivateEndpointIds) :
    (observe phase ids).Always fun trace result => ∀ remote, result = .ok (.found remote) →
      match phase with
      | .detachingInterfaces => ∃ id service, trace = [⟨.control (.getService ids.projectId id), .ok service⟩] ∧
        remote = .detaching service ids.interfaceEndpointId
      | .attachingInterface => ∃ id endpoint interface, ids.interfaceEndpointId = some endpoint ∧
        trace = [⟨.control (.getInterface ids.projectId id endpoint), .ok interface⟩] ∧ remote = .interface interface
      | .creatingNetworkEndpoint | .removingNetworkEndpoints => ∃ endpoints,
        trace = [⟨.network (.describeEndpoints ids.region ids.networkEndpointIds), .ok endpoints⟩] ∧
          remote = .networkEndpoints endpoints
      | .serviceProvisioning | .deletingService => ∃ id service,
        trace = [⟨.control (.getService ids.projectId id), .ok service⟩] ∧ remote = .service service := by
  cases phase with
  | creatingNetworkEndpoint | removingNetworkEndpoints => simp [observe]
  | serviceProvisioning | detachingInterfaces | deletingService => simp [observe, look, Observation.map]
  | attachingInterface =>
    simp only [observe, Program.always_lift_bind]
    refine ⟨by simp, ?_⟩
    intro endpoint known
    have attached : ids.interfaceEndpointId = some endpoint := known_eq_ok.mp known
    simp [Observation.map, attached]

theorem always_inspect (model : PrivateEndpointModel) :
    ((privateEndpointLifecycle .delete).inspect model).Always fun trace result =>
      ∀ remote, result = .ok (some (.found remote)) → ∃ project id service,
        trace = [⟨.control (.getService project id), .ok service⟩] ∧ remote = .service service := by
  simp [privateEndpointLifecycle, look, Observation.map]

theorem always_start (model : PrivateEndpointModel) (current : Option EndpointObservation) :
    (start .delete model current).Always fun trace result => (trace = [] ∧ ∃ error, result = .error error) ∨
      ∃ ids service, current = some (.service service) ∧ ids.networkEndpointIds = [] ∧
        (detachNext ids service).Ends trace result := by
  simp only [start, Program.always_lift_bind]
  refine ⟨by simp, ?_⟩
  intro ids known
  rcases current with _ | (service | _ | _ | _)
  · simp
  · intro trace result ends
    exact .inr ⟨ids, service, rfl, (of_ofModel known).2, ends⟩
  · simp
  · simp
  · simp

/-! ## The steps of a deletion -/

/-- A step begins to take the service apart, or goes on with it: nothing has been remembered before, or the interface is
gone that was to be detached. -/
inductive Begins (service : EndpointService) : EndpointStage → PrivateEndpointIds → Prop where
  | first {ids : PrivateEndpointIds} (nothing : ids.networkEndpointIds = []) : Begins service .unopened ids
  | next {continuation : EndpointContinuation} (phase : continuation.phase = .detachingInterfaces)
    (released : ∀ endpoint, continuation.ids.interfaceEndpointId = some endpoint →
      endpoint ∉ service.interfaceEndpoints) : Begins service (.waiting continuation) (reread continuation.ids)

/-- What a step of a deletion does: its calls, and where it leads. -/
inductive Deed (taken : Taken PrivateEndpointModel) : EndpointStage → EndpointVerdict → Prop where
  /-- The step only looks, and no other follows. -/
  | looked {stage : EndpointStage} {verdict : EndpointVerdict} (reads : Reads taken.trace)
    (leads : verdict.All fun _ => False) : Deed taken stage verdict
  /-- The step only looks, and waits. -/
  | waited {continuation : EndpointContinuation} {message : String} (reads : Reads taken.trace)
    (unnoted : noted taken = []) : Deed taken (.waiting continuation) (.waits (continuation.reread reread) message)
  /-- The step detaches the first interface that the service lists. -/
  | detached {stage : EndpointStage} {verdict : EndpointVerdict} {ids : PrivateEndpointIds} {service : EndpointService}
    {project id project' id' endpoint : String} {rest : List String} {answer : Except GatewayError Unit}
    (begins : Begins service stage ids) (listed : service.interfaceEndpoints = endpoint :: rest)
    (calls : taken.trace = [⟨.control (.getService project id), .ok service⟩,
      ⟨.control (.detachInterface project' id' endpoint), answer⟩])
    (notes : noted taken = service.interfaceEndpoints)
    (leads : verdict.All fun continuation => continuation.phase = .detachingInterfaces ∧
      continuation.ids = { ids.remember service.interfaceEndpoints with interfaceEndpointId := some endpoint }) :
    Deed taken stage verdict
  /-- The service lists none, and the step deletes the network endpoints. -/
  | removed {stage : EndpointStage} {verdict : EndpointVerdict} {ids : PrivateEndpointIds} {service : EndpointService}
    {project id : String} {answer : Except GatewayError Unit} (begins : Begins service stage ids)
    (empty : service.interfaceEndpoints = [])
    (calls : taken.trace = [⟨.control (.getService project id), .ok service⟩,
      ⟨.network (.deleteEndpoints ids.region ids.networkEndpointIds), answer⟩])
    (notes : noted taken = [])
    (leads : verdict.All fun continuation => continuation.phase = .removingNetworkEndpoints ∧
      continuation.ids = { ids with interfaceEndpointId := none }) : Deed taken stage verdict
  /-- There are no network endpoints either, and the step deletes the service. -/
  | emptied {stage : EndpointStage} {verdict : EndpointVerdict} {ids : PrivateEndpointIds} {service : EndpointService}
    {project id project' id' : String} {answer : Except GatewayError Unit} (begins : Begins service stage ids)
    (empty : service.interfaceEndpoints = []) (nothing : ids.networkEndpointIds = [])
    (calls : taken.trace = [⟨.control (.getService project id), .ok service⟩,
      ⟨.control (.deleteService project' id'), answer⟩])
    (leads : verdict.All fun continuation => continuation.phase = .deletingService) : Deed taken stage verdict
  /-- All network endpoints are deleted, and the step deletes the service. -/
  | cleared {continuation : EndpointContinuation} {verdict : EndpointVerdict} {project id : String}
    {endpoints : List NetworkEndpoint} {answer : Except GatewayError Unit}
    (phase : continuation.phase = .removingNetworkEndpoints)
    (gone : ∀ endpoint ∈ endpoints, endpoint.state = "deleted")
    (calls : taken.trace = [⟨.network (.describeEndpoints continuation.ids.region
      (reread continuation.ids).networkEndpointIds), .ok endpoints⟩, ⟨.control (.deleteService project id), answer⟩])
    (leads : verdict.All fun continuation => continuation.phase = .deletingService) :
    Deed taken (.waiting continuation) verdict

variable {settings : StepSettings} {taken : Taken PrivateEndpointModel} {stage : EndpointStage}
  {verdict : EndpointVerdict}

/-- Taking apart a service that a step acts on: an interface is detached, or else the network endpoints are deleted, or
else the service. -/
theorem Deed.of_detachNext {ids : PrivateEndpointIds} {service : EndpointService} {project id : String}
    {after : Trace Gateway} {result : Except ProvisionError EndpointTransition}
    {place : PrivateEndpointPhase → PrivateEndpointIds → EndpointContinuation} (begins : Begins service stage ids)
    (placed : ∀ phase ids, (place phase ids).phase = phase ∧ (place phase ids).ids = ids)
    (calls : taken.trace = ⟨.control (.getService project id), .ok service⟩ :: after)
    (acts : actsOn taken service = true) (ends : (detachNext ids service).Ends after result) :
    Deed taken stage (.ofTransition place result) := by
  have notes : noted taken = service.interfaceEndpoints := by
    rw [noted, calls]
    exact if_pos acts
  cases listed : service.interfaceEndpoints with
  | cons endpoint rest =>
    obtain ⟨⟨answer, rfl⟩, leads⟩ := always_detachNext listed ids _ _ ends
    refine .detached begins listed calls notes (Verdict.all_ofTransition ?_)
    intro phase ids' message proceeded
    rw [(placed phase ids').1, (placed phase ids').2]
    exact leads _ _ _ proceeded
  | nil =>
    rw [detachNext_of_empty listed] at ends
    split at ends
    · next nothing =>
      rcases always_deleteService _ _ _ ends with ⟨rfl, error, rfl⟩ | ⟨⟨id', answer, rfl⟩, leads⟩
      · exact .looked (by simp [calls]) trivial
      · refine .emptied begins listed nothing calls (Verdict.all_ofTransition ?_)
        intro phase ids' message proceeded
        rw [(placed phase ids').1]
        exact leads _ _ _ proceeded
    · obtain ⟨⟨answer, rfl⟩, leads⟩ := always_removeNetworkEndpoints _ _ _ ends
      refine .removed begins listed calls (notes.trans listed)
        (Verdict.all_ofTransition ?_)
      intro phase ids' message proceeded
      rw [(placed phase ids').1, (placed phase ids').2]
      exact leads _ _ _ proceeded

/-- The phases of a deletion. -/
def IsDeletion (phase : PrivateEndpointPhase) : Prop :=
  phase = .detachingInterfaces ∨ phase = .removingNetworkEndpoints ∨ phase = .deletingService

/-- A step that finds that it has to go on waiting takes note of nothing. -/
theorem noted_of_pending {continuation : EndpointContinuation} {remote : EndpointObservation}
    (decoded : Context.decode (privateEndpointLifecycle .delete).target (privateEndpointLifecycle .delete).ids
      taken.context = .ok (some continuation)) (deletes : IsDeletion continuation.phase)
    (observed : (observe continuation.phase continuation.ids).Ends taken.trace (.ok (.found remote)))
    (unreached : isReached continuation.phase remote = false) : noted taken = [] := by
  have seen := always_observe _ _ _ _ observed _ rfl
  rcases deletes with phase | phase | phase <;> rw [phase] at seen unreached
  · obtain ⟨id, service, calls, rfl⟩ := seen
    have acts : actsOn taken service = false := by
      rw [actsOn_of_decoded decoded, phase, unreached, Bool.and_false]
    rw [noted, calls]
    exact if_neg (by simp [acts])
  · obtain ⟨endpoints, calls, rfl⟩ := seen
    rw [noted, calls]
  · have acts (service : EndpointService) : actsOn taken service = false := by
      simp [actsOn_of_decoded decoded, phase]
    rw [noted]
    split
    · exact if_neg (by simp [acts])
    · rfl

/-- Every step of a deletion is a deed. -/
theorem Deed.of_moves (moves : (privateEndpointLifecycle .delete).Moves settings reread taken stage verdict)
    (deletes : stage.All fun continuation => IsDeletion continuation.phase) : Deed taken stage verdict := by
  have looks : (privateEndpointLifecycle .delete).Looks := Family.looks {} .delete .privateEndpoint
  cases moves with
  | opened empty opening =>
    cases opening with
    | invalid _ silent => exact .looked (by simp [silent]) trivial
    | uninspected _ inspected | alreadyGone _ inspected | missing _ inspected | refused _ inspected =>
      exact .looked (looks.inspect _ _ _ inspected) trivial
    | @acted before after _ seen _ _ inspected _ _ started calls decided =>
      rw [decided]
      rcases always_start _ _ _ _ started with ⟨rfl, error, rfl⟩ | ⟨ids, service, shown, nothing, ends⟩
      · rw [List.append_nil] at calls
        refine .looked ?_ trivial
        rw [calls]
        exact looks.inspect _ _ _ inspected
      · rcases seen with _ | (remote | _) <;> cases shown
        obtain ⟨project, id, service, rfl, ⟨⟩⟩ := always_inspect _ _ _ inspected _ rfl
        exact .of_detachNext (.first nothing) (fun _ _ => ⟨rfl, rfl⟩) calls (actsOn_of_empty empty _) ends
  | rejected _ _ _ silent => exact .looked (by simp [silent]) trivial
  | @resumed continuation _ _ decoded resumption =>
    cases resumption with
    | overrun _ cleaned =>
      rcases Lifecycle.ends_cleanUp cleaned with ⟨_, silent, _⟩ | ⟨_, _, tried, _⟩
      · exact .looked (by simp [silent]) trivial
      · obtain ⟨silent, _⟩ := Program.ends_done.mp tried
        exact .looked (by simp [silent]) trivial
    | unobserved _ observed | vanished _ observed | faulty _ observed =>
      exact .looked (looks.observe _ _ _ _ observed) trivial
    | pending _ observed unreached =>
      exact .waited (looks.observe _ _ _ _ observed) (noted_of_pending decoded deletes observed unreached)
    | @acted before after _ seen _ _ observed due advanced calls decided =>
      rw [decided]
      have same : (continuation.reread reread).phase = continuation.phase := rfl
      rcases deletes with phase | phase | phase <;> rw [same, phase] at observed due advanced
      · rcases seen with remote | _
        · obtain ⟨id, service, rfl, rfl⟩ := always_observe .detachingInterfaces _ _ _ observed _ rfl
          have acts : actsOn taken service = true := by
            rw [actsOn_of_decoded decoded, same, phase]
            exact due
          refine .of_detachNext (.next phase ?_) (fun _ _ => ⟨rfl, rfl⟩) calls acts advanced
          intro endpoint known
          have released : (continuation.ids.interfaceEndpointId.all fun endpoint =>
            !service.interfaceEndpoints.contains endpoint) = true := due
          simpa [known] using released
        · cases due
      · rcases seen with remote | _
        · obtain ⟨endpoints, rfl, rfl⟩ := always_observe .removingNetworkEndpoints _ _ _ observed _ rfl
          have gone : (endpoints.all fun endpoint => endpoint.state = "deleted") = true := due
          rcases always_deleteService _ _ _ advanced with ⟨rfl, error, rfl⟩ | ⟨⟨id, answer, rfl⟩, leads⟩
          · exact .looked (by simp [calls]) trivial
          · exact .cleared phase (by simpa using gone) calls (Verdict.all_ofTransition leads)
        · cases due
      · obtain ⟨rfl, rfl⟩ := Program.ends_done.mp advanced
        rw [List.append_nil] at calls
        refine .looked ?_ trivial
        rw [calls]
        exact looks.observe _ _ _ _ observed

/-! ## Where a deletion stands -/

/-- The ids of interfaces that services list can stand in a list between commas. -/
def InterfacesFit (trace : Trace Gateway) : Prop :=
  ∀ project id service, ⟨.control (.getService project id), .ok service⟩ ∈ trace → AllItems service.interfaceEndpoints

/-- What is remembered while an operation waits: the interfaces that were noted, of which one is being detached, or the
network endpoints that are being deleted. -/
inductive Remembers (steps : List (Taken PrivateEndpointModel)) (continuation : EndpointContinuation) : Prop where
  | detaching {endpoint : String} (phase : continuation.phase = .detachingInterfaces)
    (remembered : continuation.ids.networkEndpointIds = (steps.flatMap noted).eraseDups)
    (items : AllItems continuation.ids.networkEndpointIds)
    (inFlight : continuation.ids.interfaceEndpointId = some endpoint)
    (member : endpoint ∈ continuation.ids.networkEndpointIds)
    (only : ∀ other, IsPending other (traceOf steps) → other = endpoint) (intact : removed (traceOf steps) = [])
  | removing {answer : Except GatewayError Unit} (phase : continuation.phase = .removingNetworkEndpoints)
    (items : AllItems continuation.ids.networkEndpointIds)
    (asked : ⟨.network (.deleteEndpoints continuation.ids.region continuation.ids.networkEndpointIds), answer⟩ ∈
      traceOf steps)
  | deleting (phase : continuation.phase = .deletingService)

/-- What holds in a deletion wherever it stands. -/
structure Orderly (steps : List (Taken PrivateEndpointModel)) (stage : EndpointStage) : Prop where
  patient : Patient (traceOf steps)
  noticed : ∀ endpoint ∈ detached (traceOf steps), endpoint ∈ steps.flatMap noted
  covered : ∀ endpointIds ∈ removed (traceOf steps), ∀ endpoint ∈ detached (traceOf steps), endpoint ∈ endpointIds
  opens : stage = .unopened → steps = []
  remembers : stage.All (Remembers steps)

theorem Remembers.isDeletion {steps : List (Taken PrivateEndpointModel)} {continuation : EndpointContinuation}
    (remembers : Remembers steps continuation) : IsDeletion continuation.phase := by
  cases remembers with
  | detaching phase => exact .inl phase
  | removing phase => exact .inr (.inl phase)
  | deleting phase => exact .inr (.inr phase)

theorem reread_of_items {ids : PrivateEndpointIds} (items : AllItems ids.networkEndpointIds) : reread ids = ids := by
  simp [Family.rereadIds, Shape.flatMap_splitItems items]

/-- What a step takes the service apart with: nothing is being detached of what the service lists. -/
structure Ready (steps : List (Taken PrivateEndpointModel)) (service : EndpointService) (ids : PrivateEndpointIds) :
    Prop where
  remembered : ids.networkEndpointIds = (steps.flatMap noted).eraseDups
  items : AllItems ids.networkEndpointIds
  intact : removed (traceOf steps) = []
  released : ∀ endpoint, IsPending endpoint (traceOf steps) → endpoint ∉ service.interfaceEndpoints
  first : ids.networkEndpointIds = [] → steps = []

theorem Begins.ready {steps : List (Taken PrivateEndpointModel)} {service : EndpointService} {ids : PrivateEndpointIds}
    (begins : Begins service stage ids) (orderly : Orderly steps stage) : Ready steps service ids := by
  cases begins with
  | first nothing =>
    obtain rfl := orderly.opens rfl
    exact ⟨nothing, by simp [nothing], rfl, fun _ pending => absurd pending not_isPending_nil, fun _ => rfl⟩
  | @next continuation phase released =>
    have remembers : Remembers steps continuation := orderly.remembers
    cases remembers with
    | detaching _ remembered items inFlight member only intact =>
      rw [reread_of_items items]
      refine ⟨remembered, items, intact, ?_, ?_⟩
      · intro other pending
        rw [only other pending]
        exact released _ inFlight
      · intro nothing
        rw [nothing] at member
        cases member
    | removing other | deleting other =>
      rw [phase] at other
      cases other

section
variable {steps : List (Taken PrivateEndpointModel)}

/-- Where a step takes nothing apart, what was asked for stays as it was. -/
theorem Orderly.of_leaves {next : EndpointStage} (orderly : Orderly steps stage) (leaves : Leaves taken.trace)
    (opened : next ≠ .unopened) (remembers : next.All (Remembers (steps ++ [taken]))) :
    Orderly (steps ++ [taken]) next where
  patient := by
    rw [traceOf_concat]
    exact leaves.patient orderly.patient
  noticed := by
    rw [traceOf_concat, detached_append, leaves.detached_eq_nil, List.append_nil, List.flatMap_append]
    exact fun endpoint member => List.mem_append_left _ (orderly.noticed endpoint member)
  covered := by
    rw [traceOf_concat, detached_append, removed_append, leaves.detached_eq_nil, leaves.removed_eq_nil,
      List.append_nil, List.append_nil]
    exact orderly.covered
  opens equal := absurd equal opened
  remembers := remembers

/-- Waiting changes nothing of what is remembered. -/
theorem Remembers.waited {continuation : EndpointContinuation} (remembers : Remembers steps continuation)
    (leaves : Leaves taken.trace) (unnoted : noted taken = []) :
    Remembers (steps ++ [taken]) (continuation.reread reread) := by
  have trace := traceOf_concat steps taken
  cases remembers with
  | detaching phase remembered items inFlight member only intact =>
    have same : (continuation.reread reread).ids = continuation.ids := reread_of_items items
    have sameNotes : (steps ++ [taken]).flatMap noted = steps.flatMap noted := by
      simp [unnoted]
    rw [← same] at remembered items inFlight member
    refine .detaching phase (by rw [remembered, sameNotes]) items inFlight member ?_ ?_
    · intro other pending
      rw [trace] at pending
      exact only other (leaves.of_isPending pending)
    · rw [trace, removed_append, intact, leaves.removed_eq_nil, List.append_nil]
  | removing phase items asked =>
    have same : (continuation.reread reread).ids = continuation.ids := reread_of_items items
    rw [← same] at items asked
    have still := List.mem_append_left taken.trace asked
    rw [← trace] at still
    exact .removing phase items still
  | deleting phase => exact .deleting phase

/-- Detaching the first interface that a service lists. -/
theorem Orderly.of_detached {ids : PrivateEndpointIds} {service : EndpointService}
    {project id project' id' endpoint : String} {rest : List String} {answer : Except GatewayError Unit}
    (orderly : Orderly steps stage) (ready : Ready steps service ids)
    (listed : service.interfaceEndpoints = endpoint :: rest) (items : AllItems service.interfaceEndpoints)
    (calls : taken.trace = [⟨.control (.getService project id), .ok service⟩,
      ⟨.control (.detachInterface project' id' endpoint), answer⟩])
    (notes : noted taken = service.interfaceEndpoints)
    (leads : verdict.All fun continuation => continuation.phase = .detachingInterfaces ∧
      continuation.ids = { ids.remember service.interfaceEndpoints with interfaceEndpointId := some endpoint }) :
    Orderly (steps ++ [taken]) (verdict.stage .plain stage) := by
  have trace : traceOf (steps ++ [taken]) = traceOf steps ++ [⟨.control (.getService project id), .ok service⟩] ++
      [⟨.control (.detachInterface project' id' endpoint), answer⟩] := by
    simp [calls]
  have sameNotes : (steps ++ [taken]).flatMap noted = steps.flatMap noted ++ service.interfaceEndpoints := by
    simp [notes]
  have first : endpoint ∈ service.interfaceEndpoints := by
    rw [listed]
    exact List.mem_cons_self
  have free (other : String) : ¬ IsPending other (traceOf steps ++ [⟨.control (.getService project id), .ok service⟩]) := by
    intro pending
    obtain ⟨before, still⟩ := isPending_concat_look.mp pending
    exact ready.released other before still
  have intact : removed (traceOf (steps ++ [taken])) = [] := by
    rw [trace, removed_append, removed_append, ready.intact]
    rfl
  refine ⟨?_, ?_, ?_, fun equal => absurd equal (verdict.stage_plain_ne stage), ?_⟩
  · rw [trace, patient_concat, patient_concat]
    exact ⟨⟨orderly.patient, by simp [Call.takesApart, Call.detached?, Call.removed?]⟩, fun _ => free⟩
  · have added : detached (traceOf (steps ++ [taken])) = detached (traceOf steps) ++ [endpoint] := by
      rw [trace, detached_append, detached_append, List.append_assoc]
      rfl
    intro other member
    rw [added] at member
    rw [sameNotes]
    rcases List.mem_append.mp member with old | new
    · exact List.mem_append_left _ (orderly.noticed other old)
    · obtain rfl := List.mem_singleton.mp new
      exact List.mem_append_right _ first
  · rw [intact]
    simp
  · refine Verdict.All.next ?_ stage
    cases verdict with
    | fails | succeeds => trivial
    | waits continuation message =>
      obtain ⟨phase, same⟩ := leads
      refine .detaching phase ?_ ?_ (by rw [same]) ?_ ?_ intact
      · rw [same, sameNotes]
        exact PrivateEndpointIds.remember_eraseDups ready.remembered _
      · rw [same]
        exact allItems_remember ready.items items
      · rw [same]
        exact mem_remember.mpr (.inr first)
      · intro other pending
        rw [trace] at pending
        rcases isPending_concat_detach.mp pending with before | equal
        · exact absurd before (free other)
        · exact equal.symm

/-- Deleting the network endpoints once a service lists no interface. -/
theorem Orderly.of_removed {ids : PrivateEndpointIds} {service : EndpointService} {project id : String}
    {answer : Except GatewayError Unit} (orderly : Orderly steps stage) (ready : Ready steps service ids)
    (empty : service.interfaceEndpoints = [])
    (calls : taken.trace = [⟨.control (.getService project id), .ok service⟩,
      ⟨.network (.deleteEndpoints ids.region ids.networkEndpointIds), answer⟩])
    (leads : verdict.All fun continuation => continuation.phase = .removingNetworkEndpoints ∧
      continuation.ids = { ids with interfaceEndpointId := none }) :
    Orderly (steps ++ [taken]) (verdict.stage .plain stage) := by
  have trace : traceOf (steps ++ [taken]) = traceOf steps ++ [⟨.control (.getService project id), .ok service⟩] ++
      [⟨.network (.deleteEndpoints ids.region ids.networkEndpointIds), answer⟩] := by
    simp [calls]
  have free (other : String) : ¬ IsPending other (traceOf steps ++ [⟨.control (.getService project id), .ok service⟩]) := by
    intro pending
    obtain ⟨_, still⟩ := isPending_concat_look.mp pending
    rw [empty] at still
    cases still
  have same : detached (traceOf (steps ++ [taken])) = detached (traceOf steps) := by
    rw [trace, detached_append, detached_append, List.append_assoc]
    exact List.append_nil _
  refine ⟨?_, ?_, ?_, fun equal => absurd equal (verdict.stage_plain_ne stage), ?_⟩
  · rw [trace, patient_concat, patient_concat]
    exact ⟨⟨orderly.patient, by simp [Call.takesApart, Call.detached?, Call.removed?]⟩, fun _ => free⟩
  · rw [same, List.flatMap_append]
    exact fun other member => List.mem_append_left _ (orderly.noticed other member)
  · have added : removed (traceOf (steps ++ [taken])) = [ids.networkEndpointIds] := by
      rw [trace, removed_append, removed_append, ready.intact]
      rfl
    intro endpointIds asked other member
    rw [added] at asked
    obtain rfl := List.mem_singleton.mp asked
    rw [same] at member
    rw [ready.remembered, List.mem_eraseDups]
    exact orderly.noticed other member
  · refine Verdict.All.next ?_ stage
    cases verdict with
    | fails | succeeds => trivial
    | waits continuation message =>
      obtain ⟨phase, known⟩ := leads
      have asked : (⟨.network (.deleteEndpoints continuation.ids.region continuation.ids.networkEndpointIds), answer⟩ :
          Answered Gateway) ∈ traceOf (steps ++ [taken]) := by
        rw [known, trace]
        exact List.mem_append_right _ List.mem_cons_self
      exact .removing phase (by rw [known]; exact ready.items) asked

/-- A deletion is orderly after every step with fitting answers. -/
theorem Deed.orderly (orderly : Orderly steps stage) (fits : InterfacesFit taken.trace)
    (deed : Deed taken stage verdict) : Orderly (steps ++ [taken]) (verdict.stage .plain stage) := by
  have opened := verdict.stage_plain_ne stage
  cases deed with
  | looked reads leads => exact orderly.of_leaves reads.leaves opened ((leads.imp nofun).next stage)
  | waited reads unnoted =>
    exact orderly.of_leaves reads.leaves opened (Remembers.waited orderly.remembers reads.leaves unnoted)
  | detached begins listed calls notes leads =>
    have items := fits _ _ _ (calls ▸ List.mem_cons_self)
    exact orderly.of_detached (begins.ready orderly) listed items calls notes leads
  | removed begins empty calls notes leads => exact orderly.of_removed (begins.ready orderly) empty calls leads
  | emptied begins empty nothing calls leads =>
    have leaves : Leaves taken.trace := by
      simp [Leaves, calls, Call.takesApart, Call.detached?, Call.removed?]
    exact orderly.of_leaves leaves opened ((leads.imp fun _ => .deleting).next stage)
  | cleared phase gone calls leads =>
    have leaves : Leaves taken.trace := by
      simp [Leaves, calls, Call.takesApart, Call.detached?, Call.removed?]
    exact orderly.of_leaves leaves opened ((leads.imp fun _ => .deleting).next _)

end

section
variable {steps : List (Taken PrivateEndpointModel)}

/-- Network endpoints are deleted once a service lists no interface: those of all interfaces noted before. -/
theorem Deed.of_removal {region : String} {endpointIds : List String} {answer : Except GatewayError Unit}
    (deed : Deed taken stage verdict) (orderly : Orderly steps stage)
    (member : ⟨.network (.deleteEndpoints region endpointIds), answer⟩ ∈ taken.trace) :
    (∃ project id service, service.interfaceEndpoints = [] ∧
      taken.trace = [⟨.control (.getService project id), .ok service⟩,
        ⟨.network (.deleteEndpoints region endpointIds), answer⟩]) ∧
      endpointIds = ((steps ++ [taken]).flatMap noted).eraseDups := by
  cases deed with
  | looked reads | waited reads => exact absurd (reads _ member) (by simp)
  | detached _ _ calls | emptied _ _ _ calls | cleared _ _ calls =>
    rw [calls] at member
    rcases List.mem_pair.mp member with first | second
    · cases first
    · cases second
  | removed begins empty calls notes =>
    rw [calls] at member
    rcases List.mem_pair.mp member with first | second
    · cases first
    cases second
    refine ⟨⟨_, _, _, empty, calls⟩, ?_⟩
    rw [(begins.ready orderly).remembered]
    simp [notes]

/-- The service is deleted in the first step, if it has no interface, or once the network endpoints are deleted. -/
theorem Deed.of_deletion {project id : String} {answer : Except GatewayError Unit} (deed : Deed taken stage verdict)
    (orderly : Orderly steps stage) (member : ⟨.control (.deleteService project id), answer⟩ ∈ taken.trace) :
    (steps = [] ∧ ∃ project' id' service, service.interfaceEndpoints = [] ∧
      taken.trace = [⟨.control (.getService project' id'), .ok service⟩,
        ⟨.control (.deleteService project id), answer⟩]) ∨
    ∃ region endpointIds endpoints,
      (∃ answer', ⟨.network (.deleteEndpoints region endpointIds), answer'⟩ ∈ traceOf steps) ∧
      (∀ endpoint ∈ endpoints, endpoint.state = "deleted") ∧
      taken.trace = [⟨.network (.describeEndpoints region endpointIds), .ok endpoints⟩,
        ⟨.control (.deleteService project id), answer⟩] := by
  cases deed with
  | looked reads | waited reads => exact absurd (reads _ member) (by simp)
  | detached _ _ calls | removed _ _ calls =>
    rw [calls] at member
    rcases List.mem_pair.mp member with first | second
    · cases first
    · cases second
  | emptied begins empty nothing calls =>
    rw [calls] at member
    rcases List.mem_pair.mp member with first | second
    · cases first
    cases second
    exact .inl ⟨(begins.ready orderly).first nothing, _, _, _, empty, calls⟩
  | @cleared continuation _ _ _ _ _ phase gone calls =>
    rw [calls] at member
    rcases List.mem_pair.mp member with first | second
    · cases first
    cases second
    have remembers : Remembers steps continuation := orderly.remembers
    cases remembers with
    | removing _ items asked =>
      rw [reread_of_items items] at calls
      exact .inr ⟨_, _, _, ⟨_, asked⟩, gone, calls⟩
    | detaching other | deleting other =>
      rw [phase] at other
      cases other

end

theorem invariant_orderly : (privateEndpointLifecycle .delete).Invariant settings reread .plain fun steps stage =>
    InterfacesFit (traceOf steps) → Orderly steps stage where
  start _ := ⟨patient_nil, nofun, nofun, fun _ => rfl, trivial⟩
  step := by
    intro steps stage taken verdict holds moves fits
    rw [traceOf_concat] at fits
    have before := holds fun project id service member => fits project id service (List.mem_append_left _ member)
    have deed : Deed taken stage verdict := .of_moves moves (before.remembers.imp fun _ => Remembers.isDeletion)
    exact deed.orderly before fun project id service member => fits project id service (List.mem_append_right _ member)

end PrivateEndpointLifecycle

open PrivateEndpointLifecycle in
/-- A private endpoint is taken apart in order. While an interface is being detached, no other is, and no network
endpoints are deleted. The network endpoints that are deleted once the service lists no interface are those of all
interfaces that it listed before, in the order in which they first appeared. The service is deleted when it had no
interface from the beginning, or when the network endpoints are. -/
theorem Family.endpoint_taken_apart_in_order (settings : Settings) {steps : List (Taken PrivateEndpointModel)}
    {next : Option Fields}
    (run : (Family.privateEndpoint.lifecycle settings .delete).Run (settings.step .privateEndpoint) .plain steps next)
    (fits : InterfacesFit (traceOf steps)) :
    (∀ before project service endpoint answer between last after,
      traceOf steps = before ++ ⟨.control (.detachInterface project service endpoint), answer⟩ :: (between ++ last :: after) →
      last.call.takesApart = true → ∃ project id service,
        ⟨.control (.getService project id), .ok service⟩ ∈ between ∧ endpoint ∉ service.interfaceEndpoints) ∧
    (∀ before taken after region endpointIds answer, steps = before ++ taken :: after →
      ⟨.network (.deleteEndpoints region endpointIds), answer⟩ ∈ taken.trace →
      (∃ project id service, service.interfaceEndpoints = [] ∧
        taken.trace = [⟨.control (.getService project id), .ok service⟩,
          ⟨.network (.deleteEndpoints region endpointIds), answer⟩]) ∧
      endpointIds = ((before ++ [taken]).flatMap noted).eraseDups ∧
      ∀ endpoint ∈ detached (traceOf steps), endpoint ∈ endpointIds) ∧
    (∀ before taken after project id answer, steps = before ++ taken :: after →
      ⟨.control (.deleteService project id), answer⟩ ∈ taken.trace →
      (before = [] ∧ ∃ project' id' service, service.interfaceEndpoints = [] ∧
        taken.trace = [⟨.control (.getService project' id'), .ok service⟩,
          ⟨.control (.deleteService project id), answer⟩]) ∨
      ∃ region endpointIds endpoints,
        (∃ answer', ⟨.network (.deleteEndpoints region endpointIds), answer'⟩ ∈ traceOf before) ∧
        (∀ endpoint ∈ endpoints, endpoint.state = "deleted") ∧
        taken.trace = [⟨.network (.describeEndpoints region endpointIds), .ok endpoints⟩,
          ⟨.control (.deleteService project id), answer⟩]) := by
  have keeps := Family.privateEndpoint.keeps settings .delete
  obtain ⟨stage, holds, _⟩ := keeps.holds invariant_orderly run
  have orderly := holds fits
  have deed {before after : List (Taken PrivateEndpointModel)} {taken : Taken PrivateEndpointModel}
      (split : steps = before ++ taken :: after) :
      ∃ stage verdict, Orderly before stage ∧ Deed taken stage verdict := by
    subst split
    obtain ⟨stage, verdict, holds, _, moves, _⟩ := keeps.exists_move invariant_orderly run
    have orderly := holds fun project id service member => fits project id service (by simp [member])
    exact ⟨stage, verdict, orderly, .of_moves moves (orderly.remembers.imp fun _ => Remembers.isDeletion)⟩
  refine ⟨?_, ?_, ?_⟩
  · intro before project service endpoint answer between last after whole apart
    have begins : (before ++ ⟨.control (.detachInterface project service endpoint), answer⟩ :: between) ++ [last] <+:
        traceOf steps := ⟨after, by simp [whole]⟩
    exact exists_release (orderly.patient _ last begins apart endpoint)
  · intro before taken after region endpointIds answer split member
    obtain ⟨stage, verdict, earlier, deed⟩ := deed split
    have asked : endpointIds ∈ removed (traceOf steps) := by
      refine List.mem_filterMap.mpr ⟨⟨.network (.deleteEndpoints region endpointIds), answer⟩, ?_, rfl⟩
      rw [split, traceOf_append, traceOf_cons]
      exact List.mem_append_right _ (List.mem_append_left _ member)
    obtain ⟨calls, same⟩ := deed.of_removal earlier member
    exact ⟨calls, same, orderly.covered endpointIds asked⟩
  · intro before taken after project id answer split member
    obtain ⟨stage, verdict, earlier, deed⟩ := deed split
    exact deed.of_deletion earlier member

/-- A private endpoint that is to be deleted. -/
def apartModel : PrivateEndpointModel where
  projectId := some "p"
  region := some "r"
  id := some "s"

/-- The operation on it, in a phase. -/
def apartWaiting (phase : PrivateEndpointPhase) (inFlight : Option String) :
    Continuation PrivateEndpointPhase PrivateEndpointIds where
  operationId := .nil
  phase := phase
  ids :=
    { projectId := "p", region := "r", serviceId := some "s", interfaceEndpointId := inFlight,
      networkEndpointIds := ["e"] }
  timing := none

/-- The context in which the operation waits. -/
def apartContext (phase : PrivateEndpointPhase) (inFlight : Option String) : Fields :=
  (Family.privateEndpoint.lifecycle {} .delete).write Family.privateEndpoint.idsRecord (apartWaiting phase inFlight)

/-- The first step detaches the interface that the service lists. -/
def apartDetached : Taken PrivateEndpointModel where
  fresh := .nil
  context := []
  model := apartModel
  now := .epoch
  trace := [⟨.control (.getService "p" "s"), .ok { id := "s", status := "AVAILABLE", interfaceEndpoints := ["e"] }⟩,
    ⟨.control (.detachInterface "p" "s" "e"), .ok ()⟩]
  outcome := .inProgress (apartContext .detachingInterfaces (some "e")) (.ofSeconds 10)
    ("Interface endpoint " ++ "e" ++ " detach requested")

/-- The service lists no interface any more. -/
def apartLook : Answered Gateway :=
  ⟨.control (.getService "p" "s"), .ok { id := "s", status := "AVAILABLE" }⟩

/-- The second step finds it gone, and deletes the network endpoint. -/
def apartRemoved : Taken PrivateEndpointModel where
  fresh := .nil
  context := apartContext .detachingInterfaces (some "e")
  model := apartModel
  now := .epoch
  trace := [apartLook, ⟨.network (.deleteEndpoints "r" ["e"]), .ok ()⟩]
  outcome := .inProgress (apartContext .removingNetworkEndpoints none) (.ofSeconds 10)
    "Network endpoints deletion requested"

theorem takes_apartDetached :
    (Family.privateEndpoint.lifecycle {} .delete).Takes (Settings.step {} .privateEndpoint) apartDetached := by
  refine Lifecycle.takes_of_ends (.call (.note (.call (.note ?_))))
  exact (Family.privateEndpoint.keeps {} .delete).ends_waiting (apartWaiting .detachingInterfaces (some "e")) _

theorem decode_apartContext :
    Context.decode (Family.privateEndpoint.lifecycle {} .delete).target (Family.privateEndpoint.lifecycle {} .delete).ids
      (apartContext .detachingInterfaces (some "e")) = .ok (some (apartWaiting .detachingInterfaces (some "e"))) := by
  have item : IsItem "e" := by decide
  have items : AllItems (apartWaiting .detachingInterfaces (some "e")).ids.networkEndpointIds := by
    simp [apartWaiting, item]
  have same : Family.rereadIds .privateEndpoint (apartWaiting .detachingInterfaces (some "e")).ids =
      (apartWaiting .detachingInterfaces (some "e")).ids := PrivateEndpointLifecycle.reread_of_items items
  have read := (Family.privateEndpoint.keeps {} .delete).decode_write
    (show (apartWaiting .detachingInterfaces (some "e")).HasPlainStart by rintro _ ⟨⟩)
  rw [Continuation.reread, same] at read
  exact read

theorem takes_apartRemoved :
    (Family.privateEndpoint.lifecycle {} .delete).Takes (Settings.step {} .privateEndpoint) apartRemoved := by
  apply Lifecycle.takes_of_ends
  rw [apartRemoved, Lifecycle.tryStep, decode_apartContext]
  refine .call (.note (.call (.note ?_)))
  exact (Family.privateEndpoint.keeps {} .delete).ends_waiting (apartWaiting .removingNetworkEndpoints none) _

/-- The interface is gone before the network endpoint is deleted that was noted. -/
theorem apart_in_order :
    (∃ (project id : String) (service : EndpointService), ⟨.control (.getService project id), .ok service⟩ ∈ [apartLook] ∧
      "e" ∉ service.interfaceEndpoints) ∧
    ["e"] = ([apartDetached, apartRemoved].flatMap PrivateEndpointLifecycle.noted).eraseDups := by
  have run : (Family.privateEndpoint.lifecycle {} .delete).Run (Settings.step {} .privateEndpoint) .plain
      ([apartDetached] ++ [apartRemoved]) (Caller.plain.next apartRemoved) :=
    .step (.step .start takes_apartDetached) takes_apartRemoved
  have item : IsItem "e" := by decide
  have fits : PrivateEndpointLifecycle.InterfacesFit (traceOf ([apartDetached] ++ [apartRemoved])) := by
    intro project id service member
    rw [traceOf_concat, List.mem_append] at member
    rcases member with first | second
    · rcases List.mem_pair.mp first with look | detachment
      · cases look
        simp [item]
      · cases detachment
    · rcases List.mem_pair.mp second with look | removal
      · cases look
        simp
      · cases removal
  obtain ⟨patient, removed, _⟩ := Family.endpoint_taken_apart_in_order {} run fits
  refine ⟨patient [_] _ _ _ _ [apartLook] _ [] rfl rfl, ?_⟩
  obtain ⟨_, same, _⟩ := removed [apartDetached] apartRemoved [] "r" ["e"] (.ok ()) rfl (by simp [apartRemoved])
  exact same

end Provisioner
