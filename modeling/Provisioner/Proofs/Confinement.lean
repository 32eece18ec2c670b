import Provisioner.Proofs.Budgeting
import Provisioner.Proofs.Indifference

/-!
# Operations stay with their resource

The first step of an operation fixes the resource: by what its model names (`Family.Fixed`), and by the id that a call
assigned or found. From then on all calls concern that resource (`Family.Concerns`), whatever models later steps are
given (`Family.run_confined`): what a lifecycle looks at and acts on is named by the identifiers that it remembers, and
it never remembers those of another resource (`Lifecycle.Confined`).
-/
namespace Provisioner

/-- What is read by its id has that id. -/
def Answered.Echoes : Answered Gateway → Prop
  | ⟨.control (.getService _ service), .ok found⟩ => found.id = service
  | ⟨.control (.getExport _ _ job), .ok found⟩ => found.id = job
  | _ => True

/-- Whatever is read by its id in a trace has that id. -/
def Echoing (trace : Trace Gateway) : Prop :=
  ∀ answered ∈ trace, answered.Echoes

@[simp] theorem echoing_nil : Echoing [] := by
  simp [Echoing]

@[simp] theorem echoing_cons {answered : Answered Gateway} {trace : Trace Gateway} :
    Echoing (answered :: trace) ↔ answered.Echoes ∧ Echoing trace := by
  simp [Echoing]

@[simp] theorem echoing_append {before after : Trace Gateway} :
    Echoing (before ++ after) ↔ Echoing before ∧ Echoing after := by
  simp only [Echoing, List.forall_mem_append]

/-! ## Calls about a resource -/

/-- These are the names of the cluster. -/
def ClusterIds.Names (ids : ClusterIds) (project name : String) : Prop :=
  project = ids.projectId ∧ name = ids.clusterName

/-- The call is about the cluster that is named. -/
def ClusterIds.Concerns (ids : ClusterIds) : Call → Prop
  | .control (.createCluster project request) => project = ids.projectId ∧ request.name = some ids.clusterName
  | .control (.getCluster project name) => ids.Names project name
  | .control (.updateCluster project name _) => ids.Names project name
  | .control (.deleteCluster project name) => ids.Names project name
  | .control (.updateProcessArgs project name _) => ids.Names project name
  | _ => False

/-- These are the names of the stream processor. -/
def StreamProcessorIds.Names (ids : StreamProcessorIds) (project workspace name : String) : Prop :=
  project = ids.projectId ∧ workspace = ids.workspaceName ∧ name = ids.processorName

/-- The call is about the stream processor that is named. -/
def StreamProcessorIds.Concerns (ids : StreamProcessorIds) : Call → Prop
  | .control (.createProcessor project workspace request) => ids.Names project workspace request.name
  | .control (.getProcessor project workspace name) => ids.Names project workspace name
  | .control (.updateProcessor project workspace name _) => ids.Names project workspace name
  | .control (.deleteProcessor project workspace name) => ids.Names project workspace name
  | .control (.startProcessor project workspace name) => ids.Names project workspace name
  | .control (.stopProcessor project workspace name) => ids.Names project workspace name
  | _ => False

/-- These are the names of the service. -/
def PrivateEndpointIds.Names (ids : PrivateEndpointIds) (project service : String) : Prop :=
  project = ids.projectId ∧ ids.serviceId = some service

/-- The call is about the service that is named, or about network endpoints in its region. -/
def PrivateEndpointIds.Concerns (ids : PrivateEndpointIds) : Call → Prop
  | .control (.createService project region) => project = ids.projectId ∧ region = ids.region
  | .control (.getService project service) => ids.Names project service
  | .control (.deleteService project service) => ids.Names project service
  | .control (.attachInterface project service _) => ids.Names project service
  | .control (.getInterface project service _) => ids.Names project service
  | .control (.detachInterface project service _) => ids.Names project service
  | .network (.createEndpoint region ..) => region = ids.region
  | .network (.describeEndpoints region _) => region = ids.region
  | .network (.deleteEndpoints region _) => region = ids.region
  | _ => False

/-- The call is about the export job that is named, which is created on its cluster. -/
def ExportJobIds.Concerns (ids : ExportJobIds) : Call → Prop
  | .control (.createExport project cluster _) => project = ids.projectId ∧ cluster = ids.clusterName
  | .control (.getExport project cluster job) =>
    project = ids.projectId ∧ cluster = ids.clusterName ∧ job = ids.exportId
  | _ => False

namespace Family

/-- The call is about the resource that is named. -/
def Concerns : (family : Family) → family.Ids → Call → Prop
  | cluster, ids => ClusterIds.Concerns ids
  | streamProcessor, ids => StreamProcessorIds.Concerns ids
  | privateEndpoint, ids => PrivateEndpointIds.Concerns ids
  | exportJob, ids => ExportJobIds.Concerns ids

/-- What names the resource among the identifiers, without what is remembered of the course of the operation. -/
def named : (family : Family) → family.Ids → family.Ids
  | cluster, ids => { ids with targetPaused := none }
  | streamProcessor, ids => { ids with needsStarting := false }
  | privateEndpoint, ids => { ids with interfaceEndpointId := none, networkEndpointIds := [] }
  | exportJob, ids => ids

/-- The first step of an operation, with its model and its trace, fixes which resource it is on. -/
def Fixed (operation : Operation) : (family : Family) → family.Model → Trace Gateway → family.Ids → Prop
  | cluster, model, _, ids => model.projectId = some ids.projectId ∧ model.name = some ids.clusterName
  | streamProcessor, model, _, ids =>
    model.projectId = some ids.projectId ∧ model.workspace = some ids.workspaceName ∧
      model.processorName = some ids.processorName
  | privateEndpoint, model, trace, ids =>
    model.projectId = some ids.projectId ∧ model.region = some ids.region ∧ ∃ id, ids.serviceId = some id ∧
      if operation = .create then
        ∃ service, ⟨.control (.createService ids.projectId ids.region), .ok service⟩ ∈ trace ∧ service.id = id
      else model.id = some id
  | exportJob, model, trace, ids =>
    model.projectId = some ids.projectId ∧ model.clusterName = some ids.clusterName ∧
      if operation = .create then
        ∃ request job, ⟨.control (.createExport ids.projectId ids.clusterName request), .ok job⟩ ∈ trace ∧
          job.id = ids.exportId
      else
        model.exportId = some ids.exportId ∧
          ∃ job, ⟨.control (.getExport ids.projectId ids.clusterName ids.exportId), .ok job⟩ ∈ trace

/-- What is found is the service that is named. -/
def Shows : (family : Family) → family.Ids → family.Remote → Prop
  | privateEndpoint, ids, .service service => ids.serviceId = some service.id
  | privateEndpoint, ids, .detaching service _ => ids.serviceId = some service.id
  | _, _, _ => True

end Family

/-! ## Lifecycles that stay with a resource -/

section
variable {M P I R : Type}

/-- An action only makes calls about what is named, and remembers nothing else by name. -/
def Stays (concerns : I → Call → Prop) (named : I → I) (ids : I) (trace : Trace Gateway)
    (result : Except ProvisionError (Transition P I M)) : Prop :=
  (∀ answered ∈ trace, concerns (named ids) answered.call) ∧
    ∀ phase left message, result = .ok (.proceed phase left message) → named left = named ids

/-- What the first action remembers by name is fixed, and all calls so far are about it. -/
def Opens (concerns : I → Call → Prop) (named : I → I) (fixed : Trace Gateway → I → Prop) (before after : Trace Gateway)
    (result : Except ProvisionError (Transition P I M)) : Prop :=
  ∀ phase ids message, result = .ok (.proceed phase ids message) →
    fixed (before ++ after) (named ids) ∧ ∀ answered ∈ before ++ after, concerns (named ids) answered.call

/-- The identifiers that a lifecycle remembers name one resource from the first action on: all calls are about it, as
long as what is read by an id has that id. -/
structure Lifecycle.Confined (lifecycle : Lifecycle M P I R) (reread named : I → I) (concerns : I → Call → Prop)
    (shows : I → R → Prop) (fixed : M → Trace Gateway → I → Prop) : Prop where
  reread (ids : I) : named (reread ids) = named ids
  start (model : M) : (lifecycle.inspect model).Always fun before seen? => ∀ seen, seen? = .ok seen → Echoing before →
    (lifecycle.start model (seen.bind Observation.remote?)).Always (Opens concerns named (fixed model) before)
  observe (phase : P) (ids : I) : (lifecycle.observe phase ids).Always fun trace result =>
    (∀ answered ∈ trace, concerns (named ids) answered.call) ∧
      (Echoing trace → ∀ remote, result = .ok (.found remote) → shows (named ids) remote)
  advance (phase : P) (ids : I) (model : M) (remote : Option R) (seen : ∀ found ∈ remote, shows (named ids) found) :
    (lifecycle.advance phase ids model remote).Always (Stays concerns named ids)
  cleanup (ids : I) : (lifecycle.cleanup ids).Always fun trace _ =>
    ∀ answered ∈ trace, concerns (named ids) answered.call

/-- An action opens what it stays with, if that is fixed. -/
theorem Stays.opens {concerns : I → Call → Prop} {named : I → I} {fixed : Trace Gateway → I → Prop} {ids : I}
    {before after : Trace Gateway} {result : Except ProvisionError (Transition P I M)}
    (stays : Stays concerns named ids after result) (fixes : fixed (before ++ after) (named ids))
    (about : ∀ answered ∈ before, concerns (named ids) answered.call) : Opens concerns named fixed before after result := by
  obtain ⟨calls, kept⟩ := stays
  intro phase left message proceeded
  rw [kept phase left message proceeded]
  exact ⟨fixes, List.forall_mem_append.mpr ⟨about, calls⟩⟩

end

attribute [local simp] Stays Opens Family.named Family.Fixed Family.Shows Observation.map
attribute [local simp] ClusterIds.Concerns StreamProcessorIds.Concerns PrivateEndpointIds.Concerns ExportJobIds.Concerns
attribute [local simp] ClusterIds.Names StreamProcessorIds.Names PrivateEndpointIds.Names

namespace ClusterLifecycle

theorem named_of_ofModel {model : ClusterModel} {ids : ClusterIds} (known : ClusterIds.ofModel model = .ok ids) :
    model.projectId = some ids.projectId ∧ model.name = some ids.clusterName := by
  simp only [ClusterIds.ofModel, bind_eq_ok, required_eq_ok] at known
  obtain ⟨_, ⟨project, _⟩, _, ⟨name, _⟩, ⟨⟩⟩ := known
  exact ⟨project, name⟩

theorem stays_start (reserved : Label) (operation : Operation) {model : ClusterModel} {ids : ClusterIds}
    (known : ClusterIds.ofModel model = .ok ids) :
    (start reserved operation model).Always (Stays (Family.Concerns .cluster) (Family.named .cluster) ids) := by
  have name := (named_of_ofModel known).2
  cases operation <;> simp [start, known, name, creation, ClusterModel.toRequest, Family.Concerns]

theorem confined (reserved : Label) (operation : Operation) :
    (clusterLifecycle reserved operation).Confined (Family.rereadIds .cluster) (Family.named .cluster)
      (Family.Concerns .cluster) (Family.Shows .cluster) (Family.Fixed operation .cluster) where
  reread ids := rfl
  start model := by
    rcases known : ClusterIds.ofModel model with error | ids
    · simp [clusterLifecycle, start, known]
    · have named := named_of_ofModel known
      have about : ((clusterLifecycle reserved operation).inspect model).Always fun before _ =>
          ∀ answered ∈ before, Family.Concerns .cluster (Family.named .cluster ids) answered.call := by
        simp [clusterLifecycle, look, known, Family.Concerns]
      intro before _ inspected seen _ _ after result started
      exact (stays_start reserved operation known after result started).opens named (about before _ inspected)
  observe phase ids := by simp [clusterLifecycle, look, Observation.ofAnswer, Family.Concerns]
  advance phase ids model remote _ := by
    simp only [clusterLifecycle, advance, afterIdle]
    split
    · simp
    · rw [Program.always_ite]
      refine ⟨by simp, ?_⟩
      intro _
      split <;> simp [Family.Concerns]
    · simp
  cleanup ids := by simp [clusterLifecycle]

end ClusterLifecycle

namespace StreamProcessorLifecycle

theorem stays_startUp (ids : StreamProcessorIds) :
    (startUp ids).Always (Stays (Family.Concerns .streamProcessor) (Family.named .streamProcessor) ids) := by
  simp [startUp, Family.Concerns]

theorem stays_change (ids : StreamProcessorIds) (model : StreamProcessorModel) :
    (change ids model).Always (Stays (Family.Concerns .streamProcessor) (Family.named .streamProcessor) ids) := by
  simp [change, Family.Concerns]

theorem stays_start (operation : Operation) {model : StreamProcessorModel} {ids : StreamProcessorIds}
    (known : StreamProcessorIds.ofModel model = .ok ids) (current : Option RemoteStreamProcessor) :
    (start operation model current).Always
      (Stays (Family.Concerns .streamProcessor) (Family.named .streamProcessor) ids) := by
  simp only [start, known, Program.lift_ok_bind]
  cases operation with
  | create =>
    simp only [Program.info_bind, Program.always_lift_bind, Program.always_note]
    refine ⟨by simp, ?_⟩
    intro planned _
    refine ⟨by simp, ?_⟩
    intro request requested
    have name : request.name = ids.processorName := Family.name_of_request known requested
    simp [Family.Concerns, name]
  | update =>
    simp only [Program.always_lift_bind, Program.always_ite]
    refine ⟨by simp, ?_⟩
    intro planned _
    exact ⟨fun _ => by simp [Family.Concerns], fun _ => stays_change { ids with needsStarting := _ } model⟩
  | delete => simp [Family.Concerns]

theorem confined (budget : String) (operation : Operation) :
    (streamProcessorLifecycle budget operation).Confined (Family.rereadIds .streamProcessor)
      (Family.named .streamProcessor) (Family.Concerns .streamProcessor) (Family.Shows .streamProcessor)
      (Family.Fixed operation .streamProcessor) where
  reread ids := rfl
  start model := by
    rcases known : StreamProcessorIds.ofModel model with error | ids
    · simp [streamProcessorLifecycle, start, known]
    · have named := Family.processor_named_of_ofModel known
      have about : ((streamProcessorLifecycle budget operation).inspect model).Always fun before _ =>
          ∀ answered ∈ before, Family.Concerns .streamProcessor (Family.named .streamProcessor ids) answered.call := by
        simp [streamProcessorLifecycle, look, known, Family.Concerns]
      intro before _ inspected seen _ _ after result started
      exact (stays_start operation known _ after result started).opens named (about before _ inspected)
  observe phase ids := by simp [streamProcessorLifecycle, look, Observation.ofAnswer, Family.Concerns]
  advance phase ids model remote _ := by
    simp only [streamProcessorLifecycle, advance]
    split
    · simp
    · rw [Program.always_ite]
      refine ⟨fun _ => stays_startUp ids, ?_⟩
      intro _
      split
      · exact stays_change ids model
      · simp
      · simp
  cleanup ids := by simp [streamProcessorLifecycle, cleanup, Family.Concerns]

end StreamProcessorLifecycle

namespace PrivateEndpointLifecycle

@[simp] theorem service_eq_ok {ids : PrivateEndpointIds} {id : String} :
    ids.service = .ok id ↔ ids.serviceId = some id := by
  rw [PrivateEndpointIds.service, known_eq_ok]

/-- What is read by the id of the service that is named is that service. -/
theorem shows_look (ids : PrivateEndpointIds) : (look ids).Always fun trace result =>
    (∀ answered ∈ trace, Family.Concerns .privateEndpoint (Family.named .privateEndpoint ids) answered.call) ∧
      (Echoing trace → ∀ service, result = .ok (.found service) → ids.serviceId = some service.id) := by
  simp only [look, Program.always_lift_bind, service_eq_ok]
  refine ⟨by simp, ?_⟩
  intro id named
  simp +contextual [Observation.ofAnswer, named, Answered.Echoes, Family.Concerns]

theorem stays_deleteService (ids : PrivateEndpointIds) :
    (deleteService ids).Always (Stays (Family.Concerns .privateEndpoint) (Family.named .privateEndpoint) ids) := by
  simp +contextual [deleteService, Family.Concerns]

/-- Of the service that is named, an interface is detached; otherwise the network endpoints or the service go. -/
theorem stays_detachNext {ids : PrivateEndpointIds} {service : EndpointService}
    (named : ids.serviceId = some service.id) :
    (detachNext ids service).Always
      (Stays (Family.Concerns .privateEndpoint) (Family.named .privateEndpoint) ids) := by
  simp only [detachNext]
  split
  · split
    · exact stays_deleteService _
    · simp [removeNetworkEndpoints, PrivateEndpointIds.remember, Family.Concerns]
  · simp [PrivateEndpointIds.remember, named, Family.Concerns]

theorem stays_start {model : PrivateEndpointModel} {ids : PrivateEndpointIds} {service : EndpointService}
    (known : PrivateEndpointIds.ofModel model = .ok ids) (named : ids.serviceId = some service.id) :
    (start .delete model (some (.service service))).Always
      (Stays (Family.Concerns .privateEndpoint) (Family.named .privateEndpoint) ids) := by
  simp only [start, known, Program.lift_ok_bind]
  exact stays_detachNext named

theorem confined (operation : Operation) :
    (privateEndpointLifecycle operation).Confined (Family.rereadIds .privateEndpoint)
      (Family.named .privateEndpoint) (Family.Concerns .privateEndpoint) (Family.Shows .privateEndpoint)
      (Family.Fixed operation .privateEndpoint) where
  reread ids := rfl
  start model := by
    rcases known : PrivateEndpointIds.ofModel model with error | ids
    · cases operation <;> simp [privateEndpointLifecycle, start, known]
    · obtain ⟨project, region⟩ := named_of_ofModel known
      have id := (of_ofModel known).1.symm
      cases operation with
      | create => simp [privateEndpointLifecycle, start, known, project, region, Family.Concerns]
      | update => simp [privateEndpointLifecycle, start, known]
      | delete =>
        rintro before _ inspected seen rfl echoes after result started
        simp only [privateEndpointLifecycle, known, ne_eq, not_true_eq_false, if_false, Program.lift_ok_bind]
          at inspected started
        obtain ⟨inner, looked, same⟩ := (Program.ends_map _).mp inspected
        obtain ⟨calls, shown⟩ := shows_look ids before inner looked
        rcases inner with error | service | _ <;> cases same
        · have named := shown echoes service rfl
          have fixes : Family.Fixed .delete .privateEndpoint model (before ++ after) ids :=
            ⟨project, region, service.id, named, id.trans named⟩
          exact (stays_start known named after result started).opens fixes calls
        · have refuses : (start .delete model none).Always (Opens (Family.Concerns .privateEndpoint)
              (Family.named .privateEndpoint) (Family.Fixed .delete .privateEndpoint model) before) := by
            simp [start, known]
          exact refuses after result started
  observe phase ids := by
    cases phase with
    | attachingInterface => simp +contextual [privateEndpointLifecycle, observe, Family.Concerns]
    | creatingNetworkEndpoint | removingNetworkEndpoints =>
      simp [privateEndpointLifecycle, observe, Family.Concerns]
    | serviceProvisioning | detachingInterfaces | deletingService =>
      intro trace result observed
      obtain ⟨inner, looked, rfl⟩ := (Program.ends_map _).mp observed
      obtain ⟨calls, shown⟩ := shows_look ids trace inner looked
      refine ⟨calls, ?_⟩
      intro echoes remote found
      rcases inner with error | service | _ <;> cases found
      exact shown echoes _ rfl
  advance phase ids model remote seen := by
    simp only [privateEndpointLifecycle, advance]
    split
    · simp only [createNetworkEndpoint]
      split <;> simp [Family.Concerns]
    · simp +contextual [attachInterface, Family.Concerns]
    · simp +contextual [connected, Family.Concerns]
    · exact stays_detachNext (seen _ rfl)
    · exact stays_deleteService ids
    · simp
    · simp
  cleanup ids := by simp [privateEndpointLifecycle]

end PrivateEndpointLifecycle

namespace ExportJobLifecycle

theorem required_of_idsOfModel {model : ExportJobModel} {ids : ExportJobIds} (known : idsOfModel model = .ok ids) :
    required "projectId" model.projectId = .ok ids.projectId ∧
      required "clusterName" model.clusterName = .ok ids.clusterName ∧
        required "exportId" model.exportId = .ok ids.exportId := by
  simp only [idsOfModel, bind_eq_ok] at known
  obtain ⟨_, project, _, cluster, _, job, ⟨⟩⟩ := known
  exact ⟨project, cluster, job⟩

/-- A deletion waits for the job that was read. -/
theorem stays_start (completion : String) {model : ExportJobModel} {ids : ExportJobIds}
    (known : idsOfModel model = .ok ids) {job : RemoteExportJob} (same : job.id = ids.exportId) :
    (start completion .delete model (some job)).Always
      (Stays (Family.Concerns .exportJob) (Family.named .exportJob) ids) := by
  obtain ⟨project, cluster, _⟩ := required_of_idsOfModel known
  simp only [start, project, cluster, Program.lift_ok_bind, Program.always_ite]
  simp [same]

theorem confined (completion : String) (operation : Operation) :
    (exportJobLifecycle completion operation).Confined (Family.rereadIds .exportJob) (Family.named .exportJob)
      (Family.Concerns .exportJob) (Family.Shows .exportJob) (Family.Fixed operation .exportJob) where
  reread ids := rfl
  start model := by
    cases operation with
    | create =>
      rintro _ _ ⟨⟩ _ ⟨⟩ _
      simp only [exportJobLifecycle, start, Program.always_lift_bind, Program.info_bind, Program.always_note,
        required_eq_ok]
      refine ⟨by simp, ?_⟩
      rintro project ⟨lies, _⟩
      refine ⟨by simp, ?_⟩
      rintro cluster ⟨holds, _⟩
      refine ⟨by simp, ?_⟩
      rintro snapshot _
      refine ⟨by simp, ?_⟩
      rintro bucket _
      simp [lies, holds, Family.Concerns]
    | update => simp [exportJobLifecycle, start]
    | delete =>
      rcases known : idsOfModel model with error | ids
      · simp [exportJobLifecycle, known]
      · obtain ⟨project, cluster, job⟩ := required_of_idsOfModel known
        simp only [exportJobLifecycle, look, known, ne_eq, not_true_eq_false, if_false, Program.lift_ok_bind,
          Action.control?, Program.ask, Program.call_bind, Program.done_bind, Program.always_call, forall_answer]
        refine ⟨by simp [start, Observation.remote?], ?_⟩
        rintro found _ _ ⟨⟩ _ ⟨⟩ echoes
        have echo : found.id = ids.exportId := echoes _ List.mem_cons_self
        intro after result started
        refine (stays_start completion known echo after result started).opens ?_ ?_
        · exact ⟨(required_eq_ok.mp project).1, (required_eq_ok.mp cluster).1, (required_eq_ok.mp job).1, found,
            List.mem_cons_self⟩
        · exact List.forall_mem_singleton.mpr ⟨rfl, rfl, rfl⟩
  observe phase ids := by simp [exportJobLifecycle, look, Observation.ofAnswer, Family.Concerns]
  advance phase ids model remote _ := by
    cases phase <;> cases remote <;> simp [exportJobLifecycle, advance]
  cleanup ids := by simp [exportJobLifecycle]

end ExportJobLifecycle

/-- All operations stay with the resource that they began with. -/
theorem Family.confined (settings : Settings) (operation : Operation) (family : Family) :
    (family.lifecycle settings operation).Confined family.rereadIds family.named family.Concerns family.Shows
      (family.Fixed operation) := by
  cases family with
  | cluster => exact ClusterLifecycle.confined _ _
  | streamProcessor => exact StreamProcessorLifecycle.confined _ _
  | privateEndpoint => exact PrivateEndpointLifecycle.confined _
  | exportJob => exact ExportJobLifecycle.confined _ _

/-! ## Runs -/

namespace Lifecycle
variable {M P I R : Type} [Tagged P] {lifecycle : Lifecycle M P I R} {settings : StepSettings} {record : Record I}
  {reread named : I → I} {concerns : I → Call → Prop} {shows : I → R → Prop} {fixed : M → Trace Gateway → I → Prop}
  {continuation : Continuation P I} {verdict : Verdict P I M} {model : M} {now : Instant} {trace : Trace Gateway}
  (confined : lifecycle.Confined reread named concerns shows fixed)
include confined

omit [Tagged P] in
/-- The first step fixes the resource that the operation is on, and is about that. -/
theorem Opening.fixes {fresh : OperationId} {message : String}
    (opening : lifecycle.Opening fresh model now trace (.waits continuation message)) (echoes : Echoing trace) :
    fixed model trace (named continuation.ids) ∧
      ∀ answered ∈ trace, concerns (named continuation.ids) answered.call := by
  cases opening with
  | acted _ inspected _ _ started calls decided =>
    obtain ⟨phase, ids, rfl, rfl⟩ := Verdict.waits_eq_ofTransition.mp decided
    rw [calls] at echoes ⊢
    exact confined.start model _ _ inspected _ rfl (echoing_append.mp echoes).1 _ _ started phase ids message rfl

/-- A later step is about the resource of its operation, and leaves the operation with it. -/
theorem Resumption.stays (resumption : lifecycle.Resumption settings continuation model now trace verdict)
    (echoes : Echoing trace) :
    (∀ answered ∈ trace, concerns (named continuation.ids) answered.call) ∧
      verdict.All fun left => named left.ids = named continuation.ids := by
  cases resumption with
  | overrun _ cleaned =>
    rcases ends_cleanUp cleaned with ⟨_, rfl, _⟩ | ⟨_, removed, tried, _⟩
    · exact ⟨by simp, trivial⟩
    · exact ⟨confined.cleanup _ _ _ tried, trivial⟩
  | unobserved _ observed | vanished _ observed | faulty _ observed =>
    exact ⟨(confined.observe _ _ _ _ observed).1, trivial⟩
  | pending _ observed => exact ⟨(confined.observe _ _ _ _ observed).1, rfl⟩
  | @acted before after _ seen _ _ observed _ advanced calls decided =>
    rw [calls, echoing_append] at echoes
    obtain ⟨about, shown⟩ := confined.observe _ _ _ _ observed
    have clear : ∀ found ∈ seen.remote?, shows (named continuation.ids) found := by
      intro found member
      cases seen with
      | absent => cases member
      | found remote =>
        cases member
        exact shown echoes.1 _ rfl
    obtain ⟨about', kept⟩ := confined.advance _ _ model _ clear _ _ advanced
    rw [calls, decided]
    exact ⟨List.forall_mem_append.mpr ⟨about, about'⟩, Verdict.all_ofTransition kept⟩

theorem Moves.stays {taken : Taken M} (moves : lifecycle.Moves settings reread taken (.waiting continuation) verdict)
    (echoes : Echoing taken.trace) :
    (∀ answered ∈ taken.trace, concerns (named continuation.ids) answered.call) ∧
      verdict.All fun left => named left.ids = named continuation.ids := by
  cases moves with
  | rejected _ _ _ silent => exact ⟨by simp [silent], trivial⟩
  | resumed _ _ resumption =>
    have stays := resumption.stays confined echoes
    have same : named (continuation.reread reread).ids = named continuation.ids := confined.reread continuation.ids
    rwa [same] at stays

/-- From the step that begins an operation on, all calls are about the resource that this step fixes. -/
theorem Keeps.exists_fixed [Tagged.Distinct P] (keeps : lifecycle.Keeps record reread) {caller : Caller}
    {before rest : List (Taken M)} {first : Taken M} {next : Option Fields}
    (run : lifecycle.Run settings caller (before ++ first :: rest) next) (begins : first.Begins)
    (echoes : Echoing (traceOf (first :: rest))) :
    ∃ ids, fixed first.model first.trace ids ∧ ∀ answered ∈ traceOf (first :: rest), concerns ids answered.call := by
  obtain ⟨continuation, message, opening, outcome⟩ := keeps.exists_opening run begins
  rw [traceOf_cons, echoing_append] at echoes
  have later {taken : Taken M} (member : taken ∈ rest) : Echoing taken.trace := by
    intro answered called
    exact echoes.2 answered (List.mem_flatMap.mpr ⟨taken, member, called⟩)
  obtain ⟨fixes, about⟩ := opening.fixes confined echoes.1
  refine ⟨named continuation.ids, fixes, ?_⟩
  rw [traceOf_cons, List.forall_mem_append]
  refine ⟨about, ?_⟩
  intro answered called
  obtain ⟨taken, member, called⟩ := List.mem_flatMap.mp called
  obtain ⟨waiting, _, same, _, moves, _⟩ :=
    keeps.exists_move_after (q := fun waiting => named waiting.ids = named continuation.ids)
      (Caller.next_eq_some outcome) rfl
      (fun member same moves => (moves.stays confined (later member)).2.imp fun _ kept => kept.trans same) run member
  rw [← same]
  exact (moves.stays confined (later member)).1 answered called

end Lifecycle

/-- An operation never leaves the resource that it began with. Whatever models its later steps are given, and whatever is
answered as long as what is read by an id has that id, all its calls are about the resource that its first step fixed: by
what the model named then, and by the id of what was created or read. A step from a phase after which the model is not
heeded makes the same calls with any other model, and returns the same context. -/
theorem Family.run_confined (settings : Settings) (operation : Operation) (family : Family) :
    (∀ (caller : Caller) (before : List (Taken family.Model)) (first : Taken family.Model)
      (rest : List (Taken family.Model)) (next : Option Fields),
      (family.lifecycle settings operation).Run (settings.step family) caller (before ++ first :: rest) next →
      first.Begins → Echoing (traceOf (first :: rest)) →
      ∃ ids, family.Fixed operation first.model first.trace ids ∧
        ∀ answered ∈ traceOf (first :: rest), family.Concerns ids answered.call) ∧
    ∀ (taken : Taken family.Model) (continuation : Continuation family.Phase family.Ids),
      (family.lifecycle settings operation).Takes (settings.step family) taken →
      Context.decode (family.lifecycle settings operation).target (family.lifecycle settings operation).ids taken.context =
        .ok (some continuation) → ¬ family.HeedsModel continuation.phase →
      ∀ model, ∃ outcome, (family.lifecycle settings operation).Takes (settings.step family) { taken with model, outcome } ∧
        outcome.bare = taken.outcome.bare := by
  refine ⟨?_, ?_⟩
  · intro caller before first rest next run begins echoes
    exact (family.keeps settings operation).exists_fixed (family.confined settings operation) run begins echoes
  · intro taken continuation takes decoded unheeded model
    exact takes.exists_of_indifferent decoded (family.indifferent settings operation unheeded) model

/-- The model of another processor than the one that is being created. -/
def foreignModel : StreamProcessorModel where
  projectId := some "q"
  workspaceName := some "v"
  processorName := some "m"
  pipeline := some "[]"

/-- The step that waits for the processor, with that model. -/
def foreignAwaited (outcome : Outcome StreamProcessorModel) : Taken StreamProcessorModel :=
  { overdueAwaited with model := foreignModel, outcome }

/-- A step with the model of another processor waits for the one that was created. -/
theorem foreign_confined :
    ∃ outcome, (Family.streamProcessor.lifecycle {} .create).Takes (Settings.step {} .streamProcessor)
        (foreignAwaited outcome) ∧
      outcome.bare = overdueAwaited.outcome.bare ∧
      ∃ ids, Family.streamProcessor.Fixed .create overdueModel overdueCreated.trace ids ∧
        Family.streamProcessor.Concerns ids (.control (.getProcessor "p" "w" "n")) := by
  obtain ⟨stays, indifferent⟩ := Family.run_confined {} .create .streamProcessor
  have unheeded : ¬ Family.streamProcessor.HeedsModel overdueBegun.phase := by simp [Family.HeedsModel, overdueBegun]
  obtain ⟨outcome, takes, same⟩ :=
    indifferent overdueAwaited overdueBegun takes_overdueAwaited decode_overdueContext unheeded foreignModel
  have run : (Family.streamProcessor.lifecycle {} .create).Run (Settings.step {} .streamProcessor) .plain
      ([] ++ overdueCreated :: [foreignAwaited outcome]) (Caller.plain.next (foreignAwaited outcome)) :=
    .step (.step .start takes_overdueCreated) takes
  have echoes : Echoing (traceOf [overdueCreated, foreignAwaited outcome]) := by
    simp [overdueCreated, foreignAwaited, overdueAwaited, Answered.Echoes]
  obtain ⟨ids, fixed, about⟩ := stays .plain [] overdueCreated _ _ run ⟨rfl, rfl⟩ echoes
  exact ⟨outcome, takes, same, ids, fixed, about _ (List.mem_cons_of_mem _ List.mem_cons_self)⟩

end Provisioner
