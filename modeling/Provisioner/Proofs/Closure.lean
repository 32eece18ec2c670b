import Provisioner.Proofs.Rejection

/-!
# Runs are closed

Whatever a run returns it can go on with: a context that a step returns is accepted by the next one, and no step fails
because of its context (`Family.run_closed`). What a lifecycle has to do for that is to remember in each phase what
the phase looks at and what follows needs (`Lifecycle.Closed`), which all families do (`Family.closed`); then what is
remembered is sound in all runs (`invariant_sound`). Only private endpoints have identifiers that may be missing
(`PrivateEndpointLifecycle.Suffices`).
-/
namespace Provisioner

/-- The ids of network endpoints and of interfaces in an answer can stand in a list between commas. -/
def Answered.HasItems : Answered Gateway → Prop
  | ⟨.network (.createEndpoint ..), .ok endpoint⟩ => IsItem endpoint.id
  | ⟨.network (.describeEndpoints ..), .ok endpoints⟩ => AllItems (endpoints.map (·.id))
  | ⟨.control (.createService ..), .ok service⟩ => AllItems service.interfaceEndpoints
  | ⟨.control (.getService ..), .ok service⟩ => AllItems service.interfaceEndpoints
  | ⟨.control (.listServices ..), .ok services⟩ => ∀ service ∈ services, AllItems service.interfaceEndpoints
  | ⟨.control (.attachInterface ..), .ok interface⟩ => IsItem interface.interfaceEndpointId
  | ⟨.control (.getInterface ..), .ok interface⟩ => IsItem interface.interfaceEndpointId
  | _ => True

/-- The ids in all answers of a trace can stand in a list between commas. -/
def HasItems (trace : Trace Gateway) : Prop :=
  ∀ answered ∈ trace, answered.HasItems

@[simp] theorem hasItems_nil : HasItems [] := by
  simp [HasItems]

@[simp] theorem hasItems_cons {answered : Answered Gateway} {trace : Trace Gateway} :
    HasItems (answered :: trace) ↔ answered.HasItems ∧ HasItems trace := by
  simp [HasItems]

@[simp] theorem hasItems_append {before after : Trace Gateway} :
    HasItems (before ++ after) ↔ HasItems before ∧ HasItems after := by
  simp only [HasItems, List.forall_mem_append]

/-! ## Failures that are not the context's -/

/-- The failure is not one of a context. -/
def Sane {α : Type} : Except ProvisionError α → Prop
  | .error (.context _) => False
  | _ => True

section
variable {α β : Type} {x : Except ProvisionError α}

@[simp] theorem sane_ok (value : α) : Sane (.ok value) := trivial

@[simp] theorem sane_validation (cause : Rejection) : Sane (.error (.validation cause) : Except _ α) := trivial

@[simp] theorem sane_notFound (cause : Absence) : Sane (.error (.notFound cause) : Except _ α) := trivial

@[simp] theorem sane_gateway (cause : GatewayError) : Sane (.error (.gateway cause) : Except _ α) := trivial

@[simp] theorem sane_remoteFailure (cause : RemoteFault) : Sane (.error (.remoteFailure cause) : Except _ α) := trivial

/-- An error is as sane where it is passed on. -/
@[simp] theorem sane_error_of_eq : (∀ error, x = .error error → Sane (.error error : Except _ β)) ↔ Sane x := by
  cases x with
  | ok value => simp
  | error error => cases error <;> simp [Sane]

/-- Only the failures of contexts belong to their category. -/
theorem Sane.category_ne {error : ProvisionError} (sane : Sane (.error error : Except ProvisionError α)) :
    error.category ≠ .malformedContext := by
  cases error with
  | context => exact sane.elim
  | gateway cause =>
    rw [ProvisionError.category]
    split
    · simp
    · split <;> simp
  | _ => simp [ProvisionError.category]

/-- A rejected input is not the context's fault. -/
@[simp] theorem Rejects.sane (rejects : Rejects x) : Sane x := by
  rcases x with error | value
  · obtain ⟨cause, rfl⟩ := rejects error rfl
    trivial
  · trivial

end

/-! ## Closed lifecycles -/

section
variable {M P I R : Type}

/-- An action does not fail because of the context, and what it remembers for the phase it enters is sound. -/
def Closes (sound : P → I → Prop) (trace : Trace Gateway) (result : Except ProvisionError (Transition P I M)) : Prop :=
  HasItems trace → Sane result ∧ ∀ phase ids message, result = .ok (.proceed phase ids message) → sound phase ids

/-- A look does not fail because of the context, and what it finds is clear. -/
def Shows (clear : R → Prop) (trace : Trace Gateway) (result : Except ProvisionError (Observation R)) : Prop :=
  HasItems trace → Sane result ∧ ∀ remote, result = .ok (.found remote) → clear remote

end

/-- What is remembered in a phase is sound: it is read back as it is and suffices for what the phase looks at and for
what follows. This depends on what is found of the resource, which is clear where its ids can be remembered. -/
structure Lifecycle.Closed {M P I R : Type} [Tagged P] (lifecycle : Lifecycle M P I R) (reread : I → I)
    (sound : P → I → Prop) (clear : R → Prop) : Prop where
  reread_eq {phase : P} {ids : I} (kept : sound phase ids) : reread ids = ids
  validate (model : M) : Sane (lifecycle.validate model)
  validateTransition (current : Option R) (model : M) : Sane (lifecycle.validateTransition current model)
  inspect (model : M) (valid : lifecycle.validate model = .ok ()) : (lifecycle.inspect model).Always fun trace result =>
    HasItems trace → Sane result ∧ ∀ remote, result = .ok (some (.found remote)) → clear remote
  start (model : M) (current : Option R) (valid : lifecycle.validate model = .ok ())
    (seen : ∀ remote, current = some remote → clear remote) : (lifecycle.start model current).Always (Closes sound)
  observe (phase : P) (ids : I) (kept : sound phase ids) : (lifecycle.observe phase ids).Always (Shows clear)
  advance (phase : P) (ids : I) (model : M) (remote : Option R) (kept : sound phase ids)
    (seen : ∀ found, remote = some found → clear found) :
    (lifecycle.advance phase ids model remote).Always (Closes sound)

attribute [local simp] Closes Shows Observation.map

theorem ClusterLifecycle.closed (reserved : Label) (operation : Operation) :
    (clusterLifecycle reserved operation).Closed id (fun _ _ => True) (fun _ => True) where
  reread_eq _ := rfl
  validate model := (rejects_validate reserved operation model).sane
  validateTransition _ _ := trivial
  inspect _ _ := by simp [clusterLifecycle, look]
  start model current _ _ := by cases operation <;> simp [clusterLifecycle, start]
  observe phase ids _ := by simp [clusterLifecycle, look, Observation.ofAnswer]
  advance phase ids model remote _ _ := by
    simp only [clusterLifecycle, advance, afterIdle]
    split
    · simp
    · rw [Program.always_ite]
      refine ⟨by simp, ?_⟩
      intro _
      split <;> simp
    · simp

theorem StreamProcessorLifecycle.closed (budget : String) (operation : Operation) :
    (streamProcessorLifecycle budget operation).Closed id (fun _ _ => True) (fun _ => True) where
  reread_eq _ := rfl
  validate model := (rejects_validate operation model).sane
  validateTransition current model := (rejects_validateTransition budget operation current model).sane
  inspect _ _ := by simp [streamProcessorLifecycle, look]
  start model current _ _ := by cases operation <;> simp [streamProcessorLifecycle, start, change]
  observe phase ids _ := by simp [streamProcessorLifecycle, look, Observation.ofAnswer]
  advance phase ids model remote _ _ := by
    simp only [streamProcessorLifecycle, advance]
    split
    · simp
    · rw [Program.always_ite]
      refine ⟨by simp [startUp], ?_⟩
      intro _
      split <;> simp [change]

theorem ExportJobLifecycle.closed (completion : String) (operation : Operation) :
    (exportJobLifecycle completion operation).Closed id (fun _ _ => True) (fun _ => True) where
  reread_eq _ := rfl
  validate model := (rejects_validate operation model).sane
  validateTransition _ _ := trivial
  inspect _ _ := by simp [exportJobLifecycle, look]
  start model current _ _ := by cases operation <;> cases current <;> simp [exportJobLifecycle, start]
  observe phase ids _ := by simp [exportJobLifecycle, look, Observation.ofAnswer]
  advance phase ids model remote _ _ := by
    cases phase <;> cases remote <;> simp [exportJobLifecycle, advance]

namespace PrivateEndpointLifecycle

/-- What is remembered in a phase suffices for it and can be kept in a context. -/
@[mk_iff]
structure Suffices (phase : PrivateEndpointPhase) (ids : PrivateEndpointIds) : Prop where
  service : ids.serviceId.isSome
  interface : phase = .attachingInterface → ids.interfaceEndpointId.isSome
  networkEndpoint : phase = .creatingNetworkEndpoint → ids.networkEndpointIds ≠ []
  items : AllItems ids.networkEndpointIds

/-- The interfaces that an observation lists can be remembered. -/
def ListsItems : EndpointObservation → Prop
  | .service service => AllItems service.interfaceEndpoints
  | .detaching service _ => AllItems service.interfaceEndpoints
  | _ => True

/-- What was remembered, with what is remembered in addition. -/
theorem mem_remember {ids : PrivateEndpointIds} {endpointIds : List String} {id : String} :
    id ∈ (ids.remember endpointIds).networkEndpointIds ↔ id ∈ ids.networkEndpointIds ∨ id ∈ endpointIds := by
  simp only [PrivateEndpointIds.remember]
  generalize ids.networkEndpointIds = known
  induction endpointIds generalizing known with
  | nil => simp
  | cons endpointId endpointIds ih =>
    rw [List.foldl_cons, ih, List.mem_cons]
    by_cases old : endpointId ∈ known
    · rw [if_pos old]
      constructor
      · exact Or.imp_right .inr
      · rintro (member | rfl | member)
        · exact .inl member
        · exact .inl old
        · exact .inr member
    · rw [if_neg old, List.mem_append, List.mem_singleton, or_assoc]

theorem allItems_remember {ids : PrivateEndpointIds} {endpointIds : List String}
    (items : AllItems ids.networkEndpointIds) (listed : AllItems endpointIds) :
    AllItems (ids.remember endpointIds).networkEndpointIds := by
  intro id member
  exact (mem_remember.mp member).elim (items id) (listed id)

theorem known_eq_ok {key id : String} {value : Option String} :
    PrivateEndpointIds.known key value = .ok id ↔ value = some id := by
  cases value <;> simp [PrivateEndpointIds.known]

theorem service_eq {ids : PrivateEndpointIds} {id : String} (known : ids.serviceId = some id) : ids.service = .ok id := by
  rw [PrivateEndpointIds.service, known, PrivateEndpointIds.known]

/-- A model that can be deleted has an id. -/
theorem exists_id {model : PrivateEndpointModel} (valid : validate .delete model = .ok ()) : ∃ id, model.id = some id := by
  simp only [validate, bind_eq_ok, required_eq_ok] at valid
  obtain ⟨_, _, id, ⟨known, _⟩, _⟩ := valid
  exact ⟨id, known⟩

theorem of_ofModel {model : PrivateEndpointModel} {ids : PrivateEndpointIds}
    (known : PrivateEndpointIds.ofModel model = .ok ids) : ids.serviceId = model.id ∧ ids.networkEndpointIds = [] := by
  simp only [PrivateEndpointIds.ofModel, bind_eq_ok] at known
  obtain ⟨_, _, _, _, ⟨⟩⟩ := known
  exact ⟨rfl, rfl⟩

/-- A model names the project and the region of what it gives identifiers for. -/
theorem named_of_ofModel {model : PrivateEndpointModel} {ids : PrivateEndpointIds}
    (known : PrivateEndpointIds.ofModel model = .ok ids) :
    model.projectId = some ids.projectId ∧ model.region = some ids.region := by
  simp only [PrivateEndpointIds.ofModel, bind_eq_ok, required_eq_ok] at known
  obtain ⟨_, ⟨project, _⟩, _, ⟨region, _⟩, ⟨⟩⟩ := known
  exact ⟨project, region⟩

theorem closes_detachNext {ids : PrivateEndpointIds} {service : EndpointService} {serviceId : String}
    (known : ids.serviceId = some serviceId) (items : AllItems ids.networkEndpointIds)
    (listed : AllItems service.interfaceEndpoints) :
    (detachNext ids service).Always (Closes Suffices) := by
  have remembered : AllItems (ids.remember service.interfaceEndpoints).networkEndpointIds :=
    allItems_remember items listed
  have same : (ids.remember service.interfaceEndpoints).serviceId = some serviceId := known
  simp only [detachNext, deleteService, removeNetworkEndpoints]
  generalize ids.remember service.interfaceEndpoints = ids at remembered same
  split
  · by_cases nothing : ids.networkEndpointIds = [] <;> simp [service_eq, same, suffices_iff, remembered, nothing]
  · simp [same, suffices_iff, remembered]

theorem closed (operation : Operation) :
    (privateEndpointLifecycle operation).Closed (Family.rereadIds .privateEndpoint) Suffices ListsItems where
  reread_eq := by
    intro phase ids kept
    simp [Family.rereadIds, Shape.flatMap_splitItems kept.items]
  validate model := (rejects_validate operation model).sane
  validateTransition _ _ := trivial
  inspect model valid := by
    cases operation with
    | create | update => simp [privateEndpointLifecycle]
    | delete =>
      obtain ⟨id, named⟩ := exists_id valid
      simp only [privateEndpointLifecycle, look, ne_eq, not_true_eq_false, if_false, Program.bind_bind,
        Program.always_lift_bind]
      refine ⟨by simp, ?_⟩
      intro ids known
      rw [service_eq ((of_ofModel known).1.trans named)]
      simp [Answered.HasItems, ListsItems]
  start model current valid seen := by
    cases operation with
    | create =>
      simp only [privateEndpointLifecycle, start, Program.always_lift_bind]
      refine ⟨by simp, ?_⟩
      intro ids known
      simp [suffices_iff, (of_ofModel known).2]
    | update => simp [privateEndpointLifecycle, start]
    | delete =>
      obtain ⟨id, named⟩ := exists_id valid
      simp only [privateEndpointLifecycle, start, Program.always_lift_bind]
      refine ⟨by simp, ?_⟩
      intro ids known
      obtain ⟨same, nothing⟩ := of_ofModel known
      have items : AllItems ids.networkEndpointIds := by simp [nothing]
      rcases current with _ | (service | _ | _ | _)
      · simp
      · exact closes_detachNext (same.trans named) items (seen _ rfl)
      · simp
      · simp
      · simp
  observe phase ids kept := by
    obtain ⟨serviceId, known⟩ := Option.isSome_iff_exists.mp kept.service
    cases phase with
    | attachingInterface =>
      obtain ⟨interfaceId, attached⟩ := Option.isSome_iff_exists.mp (kept.interface rfl)
      simp [privateEndpointLifecycle, observe, service_eq known, PrivateEndpointIds.interfaceEndpoint,
        PrivateEndpointIds.known, attached, ListsItems]
    | serviceProvisioning | creatingNetworkEndpoint | detachingInterfaces | removingNetworkEndpoints | deletingService =>
      simp [privateEndpointLifecycle, observe, look, service_eq known, ListsItems, Answered.HasItems]
  advance phase ids model remote kept seen := by
    obtain ⟨serviceId, known⟩ := Option.isSome_iff_exists.mp kept.service
    simp only [privateEndpointLifecycle, advance]
    split
    · simp only [createNetworkEndpoint]
      split <;> simp [suffices_iff, known, Answered.HasItems]
    · obtain ⟨id, rest, created⟩ := List.exists_cons_of_ne_nil (kept.networkEndpoint rfl)
      have first : ids.networkEndpoint = .ok id := by
        rw [PrivateEndpointIds.networkEndpoint, created]
        rfl
      simp [attachInterface, service_eq known, first, suffices_iff, known, kept.items]
    · simp [connected, service_eq known]
    · exact closes_detachNext known kept.items (seen _ rfl)
    · simp [deleteService, service_eq known, suffices_iff, known, kept.items]
    · simp
    · simp

end PrivateEndpointLifecycle

namespace Family

/-- What is remembered in a phase of a family suffices for it. Only private endpoints have identifiers that may be
missing. -/
def Suffices : (family : Family) → family.Phase → family.Ids → Prop
  | .privateEndpoint, phase, ids => PrivateEndpointLifecycle.Suffices phase ids
  | _, _, _ => True

/-- The ids that an observation lists can be remembered. -/
def ListsItems : (family : Family) → family.Remote → Prop
  | .privateEndpoint, observation => PrivateEndpointLifecycle.ListsItems observation
  | _, _ => True

/-- The lifecycles of all families are closed. -/
theorem closed (settings : Settings) (operation : Operation) (family : Family) :
    (family.lifecycle settings operation).Closed family.rereadIds family.Suffices family.ListsItems := by
  cases family with
  | cluster => exact ClusterLifecycle.closed _ _
  | streamProcessor => exact StreamProcessorLifecycle.closed _ _
  | privateEndpoint => exact PrivateEndpointLifecycle.closed _
  | exportJob => exact ExportJobLifecycle.closed _ _

end Family

/-! ## Runs -/

namespace Lifecycle
variable {M P I R : Type} [Tagged P] {lifecycle : Lifecycle M P I R} {settings : StepSettings} {record : Record I}
  {reread : I → I} {sound : P → I → Prop} {clear : R → Prop} {caller : Caller} {taken : Taken M} {trace : Trace Gateway}
  {verdict : Verdict P I M} {model : M} {now : Instant}

/-- An operation in a phase with identifiers that are sound there, and with a start that can be kept. -/
def Sound (sound : P → I → Prop) (continuation : Continuation P I) : Prop :=
  continuation.HasPlainStart ∧ sound continuation.phase continuation.ids

/-- A step does not fail because of the context, and what it leaves is sound. -/
def Decides (sound : P → I → Prop) : Verdict P I M → Prop
  | .fails error => Sane (.error error : Except ProvisionError Unit)
  | .waits continuation _ => Sound sound continuation
  | .succeeds _ _ => True

omit [Tagged P] in
theorem decides_ofTransition {place : P → I → Continuation P I} {result : Except ProvisionError (Transition P I M)}
    (closes : Sane result ∧ ∀ phase ids message, result = .ok (.proceed phase ids message) → sound phase ids)
    (kept : ∀ phase ids, (place phase ids).HasPlainStart ∧ (place phase ids).phase = phase ∧ (place phase ids).ids = ids) :
    Decides sound (.ofTransition place result) := by
  obtain ⟨sane, sounds⟩ := closes
  rcases result with error | ⟨phase, ids, message⟩ | _
  · exact sane_error_of_eq.mpr sane error rfl
  · obtain ⟨start, same, same'⟩ := kept phase ids
    refine ⟨start, ?_⟩
    rw [same, same']
    exact sounds phase ids message rfl
  · trivial

theorem Opening.decides (closed : lifecycle.Closed reread sound clear) {fresh : OperationId}
    (opening : lifecycle.Opening fresh model now trace verdict) (plain : now.HasPlainYear) (items : HasItems trace) :
    Decides sound verdict := by
  cases opening with
  | invalid invalid => exact sane_error_of_eq.mpr (closed.validate model) _ invalid
  | uninspected valid inspected => exact sane_error_of_eq.mpr (closed.inspect model valid _ _ inspected items).1 _ rfl
  | alreadyGone => trivial
  | missing => trivial
  | refused _ _ _ refused => exact sane_error_of_eq.mpr (closed.validateTransition _ model) _ refused
  | @acted before after _ seen _ valid inspected present _ started calls decided =>
    rw [calls, hasItems_append] at items
    have shown : ∀ remote, seen.bind Observation.remote? = some remote → clear remote := by
      intro remote found
      refine (closed.inspect model valid _ _ inspected items.1).2 remote ?_
      rcases seen with _ | _ | _ <;> cases found
      rfl
    rw [decided]
    refine decides_ofTransition (closed.start model _ valid shown _ _ started items.2) fun phase ids => ⟨?_, rfl, rfl⟩
    intro timing member
    obtain ⟨settings, _, rfl⟩ := Option.mem_map.mp member
    exact plain

theorem Resumption.decides (closed : lifecycle.Closed reread sound clear) {continuation : Continuation P I}
    (resumption : lifecycle.Resumption settings continuation model now trace verdict)
    (kept : Sound sound continuation) (items : HasItems trace) : Decides sound verdict := by
  obtain ⟨plain, enough⟩ := kept
  cases resumption with
  | overrun => trivial
  | unobserved _ observed => exact sane_error_of_eq.mpr (closed.observe _ _ enough _ _ observed items).1 _ rfl
  | vanished => trivial
  | faulty => trivial
  | pending => exact ⟨plain, enough⟩
  | @acted before after _ seen _ _ observed due advanced calls decided =>
    rw [calls, hasItems_append] at items
    have shown : ∀ remote, seen.remote? = some remote → clear remote := by
      intro remote found
      refine (closed.observe _ _ enough _ _ observed items.1).2 remote ?_
      cases seen <;> cases found
      rfl
    rw [decided]
    exact decides_ofTransition (closed.advance _ _ model _ enough shown _ _ advanced items.2) fun _ _ =>
      ⟨plain, rfl, rfl⟩

theorem sound_reread (closed : lifecycle.Closed reread sound clear) {continuation : Continuation P I}
    (kept : Sound sound continuation) : Sound sound (continuation.reread reread) := by
  obtain ⟨plain, enough⟩ := kept
  refine ⟨plain.reread reread, ?_⟩
  show sound continuation.phase (reread continuation.ids)
  rwa [closed.reread_eq enough]

/-- A step at a fitting time that gets fitting answers leaves what is sound. -/
theorem Moves.decides (closed : lifecycle.Closed reread sound clear) {stage : Stage P I}
    (moves : lifecycle.Moves settings reread taken stage verdict) (kept : stage.All (Sound sound))
    (plain : taken.now.HasPlainYear) (items : HasItems taken.trace) : Decides sound verdict := by
  cases moves with
  | opened _ opening => exact opening.decides closed plain items
  | rejected known odd => exact absurd (kept.1 _ known) odd
  | resumed _ _ resumption => exact resumption.decides closed (sound_reread closed kept) items

/-- The clock of a step shows a year of four digits, and the ids in its answers can be remembered. -/
def Fitting (taken : Taken M) : Prop :=
  taken.now.HasPlainYear ∧ HasItems taken.trace

theorem invariant_sound (closed : lifecycle.Closed reread sound clear) :
    lifecycle.Invariant settings reread caller fun steps stage =>
      (∀ taken ∈ steps, Fitting taken) → stage.All (Sound sound) where
  start _ := trivial
  step := by
    intro steps stage taken verdict holds moves fitting
    obtain ⟨before, last⟩ := List.forall_mem_append.mp fitting
    obtain ⟨plain, items⟩ := last taken List.mem_cons_self
    have kept := holds before
    have decides := moves.decides closed kept plain items
    refine kept.next caller ?_
    cases verdict with
    | waits => exact decides
    | fails | succeeds => trivial

/-- The poll of a step finds a resource. -/
structure Polls (lifecycle : Lifecycle M P I R) (settings : StepSettings) (taken : Taken M)
    (continuation : Continuation P I) (remote : R) : Prop where
  decoded : Context.decode lifecycle.target lifecycle.ids taken.context = .ok (some continuation)
  inTime : continuation.isLate settings.fallbackTimeout taken.now = false
  observed : ∃ seen rest, (lifecycle.observe continuation.phase continuation.ids).Ends seen (.ok (.found remote)) ∧
    taken.trace = seen ++ rest

/-- Where a phase is neither reached nor lost, a step waits in it. -/
theorem Resumption.eq_waits {continuation : Continuation P I} {remote : R} {seen rest : Trace Gateway}
    (resumption : lifecycle.Resumption settings continuation model now trace verdict)
    (inTime : continuation.isLate settings.fallbackTimeout now = false)
    (found : (lifecycle.observe continuation.phase continuation.ids).Ends seen (.ok (.found remote)))
    (calls : trace = seen ++ rest) (unreached : lifecycle.isReached continuation.phase remote = false)
    (sound : lifecycle.fault? continuation.phase remote = none) : ∃ message, verdict = .waits continuation message := by
  -- what was observed is what was found, since the same answers were given
  have same {before after : Trace Gateway} {result : Except ProvisionError (Observation R)}
      (observed : (lifecycle.observe continuation.phase continuation.ids).Ends before result)
      (first : trace = before ++ after) : result = .ok (.found remote) :=
    (observed.eq_of_append_eq found (first.symm.trans calls)).2
  cases resumption with
  | overrun late => rw [inTime] at late; cases late
  | unobserved _ observed => cases same observed (List.append_nil _).symm
  | vanished _ observed => cases same observed (List.append_nil _).symm
  | faulty _ observed _ lost =>
    cases same observed (List.append_nil _).symm
    rw [sound] at lost
    cases lost
  | pending => exact ⟨_, rfl⟩
  | acted _ observed due _ calls =>
    cases same observed calls
    rw [isDue, unreached] at due
    cases due

end Lifecycle

/-- Runs are closed: every context that a run returns is flat and accepted by the lifecycle that returned it, and no
step fails because of its context. A step that finds a phase neither reached nor lost returns the context it was given. -/
theorem Family.run_closed (settings : Settings) (operation : Operation) (family : Family) {caller : Caller}
    {steps : List (Taken family.Model)} {next : Option Fields}
    (run : (family.lifecycle settings operation).Run (settings.step family) caller steps next)
    (fitting : ∀ taken ∈ steps, Lifecycle.Fitting taken) :
    ∀ taken ∈ steps,
      (∀ context delay message, taken.outcome = .inProgress context delay message →
        (∀ field ∈ context, field.2.IsPlain) ∧
        ∃ continuation : Continuation family.Phase family.Ids, Context.decode (family.lifecycle settings operation).target
          (family.lifecycle settings operation).ids context = .ok (some continuation)) ∧
      (∀ message retryable, taken.outcome ≠ .failed message .malformedContext retryable) ∧
      ∀ continuation remote,
        (family.lifecycle settings operation).Polls (settings.step family) taken continuation remote →
        (family.lifecycle settings operation).isReached continuation.phase remote = false →
        (family.lifecycle settings operation).fault? continuation.phase remote = none →
        ∃ message, taken.outcome = .inProgress taken.context (settings.step family).pollDelay message := by
  have keeps := family.keeps settings operation
  have closed := family.closed settings operation
  intro taken member
  obtain ⟨before, after, rfl⟩ := List.append_of_mem member
  obtain ⟨stage, verdict, holds, stands, moves, outcome⟩ := keeps.exists_move (Lifecycle.invariant_sound closed) run
  obtain ⟨plain, items⟩ := fitting taken member
  have sound := holds fun taken earlier => fitting taken (List.mem_append_left _ earlier)
  have decides := moves.decides closed sound plain items
  refine ⟨?_, ?_, ?_⟩
  · intro context delay message returned
    rw [outcome] at returned
    cases verdict with
    | fails | succeeds => cases returned
    | waits continuation message =>
      cases returned
      exact ⟨fun field member => Context.plain_of_mem_contextOf keeps.fits member, _, keeps.decode_write decides.1⟩
  · intro message retryable failed
    rw [outcome] at failed
    cases verdict with
    | waits | succeeds => cases failed
    | fails error =>
      obtain ⟨_, category, _⟩ := Outcome.failed.inj failed
      exact decides.category_ne category
  · intro continuation remote polls unreached unlost
    obtain ⟨decoded, inTime, seen, rest, found, calls⟩ := polls
    cases moves with
    | opened empty =>
      rw [empty, Lifecycle.Keeps.decode_empty] at decoded
      cases decoded
    | rejected known odd => exact absurd (sound.1 _ known) odd
    | @resumed kept _ _ read resumption =>
      have context : taken.context = _ := (Option.some.inj stands).symm
      rw [read, Except.ok.injEq, Option.some.injEq] at decoded
      subst decoded
      obtain ⟨message, rfl⟩ := resumption.eq_waits inTime found calls unreached unlost
      refine ⟨message, ?_⟩
      rw [outcome, context, Verdict.outcome, Lifecycle.write, Context.contextOf_reread (closed.reread_eq sound.2)]

/-- The service that is requested first. -/
def endpointService : EndpointService where
  id := "s"
  status := "INITIATING"

/-- The operation that waits for the service. -/
def endpointBegun : Continuation PrivateEndpointPhase PrivateEndpointIds where
  operationId := .nil
  phase := .serviceProvisioning
  ids := { projectId := "p", region := "r", serviceId := some "s" }
  timing := none

/-- The context in which it waits. -/
def endpointContext : Fields :=
  (Family.privateEndpoint.lifecycle {} .create).write Family.privateEndpoint.idsRecord endpointBegun

/-- A step in creating an endpoint. -/
def endpointStep (context : Fields) (trace : Trace Gateway) (message : String) : Taken PrivateEndpointModel where
  fresh := .nil
  context := context
  model := { projectId := some "p", region := some "r", vpcId := some "v", subnetIds := some ["n"] }
  now := .epoch
  trace := trace
  outcome := .inProgress endpointContext (.ofSeconds 10) message

/-- The first step requests the service. -/
def endpointRequested : Taken PrivateEndpointModel :=
  endpointStep [] [⟨.control (.createService "p" "r"), .ok endpointService⟩] "Endpoint service requested"

/-- The second step finds the service on its way. -/
def endpointAwaited : Taken PrivateEndpointModel :=
  endpointStep endpointContext [⟨.control (.getService "p" "s"), .ok endpointService⟩]
    "private endpoint creation in progress (SERVICE_PROVISIONING)"

theorem takes_endpointRequested :
    (Family.privateEndpoint.lifecycle {} .create).Takes (Settings.step {} .privateEndpoint) endpointRequested := by
  refine Lifecycle.takes_of_ends (.note (.call (.note ?_)))
  exact (Family.privateEndpoint.keeps {} .create).ends_waiting endpointBegun _

theorem decode_endpointContext :
    Context.decode (Family.privateEndpoint.lifecycle {} .create).target (Family.privateEndpoint.lifecycle {} .create).ids
      endpointContext = .ok (some endpointBegun) :=
  (Family.privateEndpoint.keeps {} .create).decode_write (by rintro _ ⟨⟩)

theorem takes_endpointAwaited :
    (Family.privateEndpoint.lifecycle {} .create).Takes (Settings.step {} .privateEndpoint) endpointAwaited := by
  apply Lifecycle.takes_of_ends
  rw [endpointAwaited, endpointStep, Lifecycle.tryStep, decode_endpointContext]
  exact .call ((Family.privateEndpoint.keeps {} .create).ends_waiting endpointBegun _)

/-- A service that is on its way is waited for with the same context. -/
theorem endpoint_awaited_closed :
    ∃ message, endpointAwaited.outcome = .inProgress endpointContext (.ofSeconds 10) message := by
  have run : (Family.privateEndpoint.lifecycle {} .create).Run (Settings.step {} .privateEndpoint) .plain
      ([endpointRequested] ++ [endpointAwaited]) (Caller.plain.next endpointAwaited) :=
    .step (.step .start takes_endpointRequested) takes_endpointAwaited
  have fitting : ∀ taken ∈ [endpointRequested] ++ [endpointAwaited], Lifecycle.Fitting taken := by
    have plain : Instant.HasPlainYear .epoch := by decide
    intro taken member
    rcases List.mem_pair.mp member with rfl | rfl
    · exact ⟨plain, by simp [endpointRequested, endpointStep, endpointService, Answered.HasItems]⟩
    · exact ⟨plain, by simp [endpointAwaited, endpointStep, endpointService, Answered.HasItems]⟩
  obtain ⟨_, _, same⟩ := Family.run_closed {} .create .privateEndpoint run fitting endpointAwaited (by simp)
  refine same endpointBegun (.service endpointService) ⟨decode_endpointContext, rfl, ?_⟩ rfl rfl
  exact ⟨[⟨.control (.getService "p" "s"), .ok endpointService⟩], [], .call (.done _), rfl⟩

end Provisioner
