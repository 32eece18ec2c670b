import Provisioner.Proofs.Dismantling

/-!
# Deleting what is gone

A deletion has no time limit, and it waits only in phases of its own (`Lifecycle.Deletes`). Where a resource is gone,
which shows in every answer to a call that reads, detaches or deletes one (`Gone`), the next step of its deletion is the
last, and succeeds (`Family.deletion_ends_when_gone`). There is one phase in which it fails instead: the service of a
private endpoint must be there as long as an interface is being detached from it (`apart_fails_when_gone`).
-/
namespace Provisioner

/-! ## Answers that find nothing -/

/-- The call reads, detaches or deletes one resource, so that it finds none where that is gone. -/
def Call.seeks : Call → Bool
  | .control (.getCluster ..) => true
  | .control (.getProcessor ..) => true
  | .control (.getService ..) => true
  | .control (.getInterface ..) => true
  | .control (.getExport ..) => true
  | .control (.deleteCluster ..) => true
  | .control (.deleteProcessor ..) => true
  | .control (.deleteService ..) => true
  | .control (.detachInterface ..) => true
  | .network (.deleteEndpoints ..) => true
  | _ => false

/-- The answer is one that a call gets where what it is about is gone. -/
def Answered.IsGone : Answered Gateway → Prop
  | ⟨.network (.describeEndpoints ..), answer⟩ => answer = .ok []
  | ⟨c, answer⟩ => c.seeks = true → ∃ error : GatewayError, answer = .error error ∧ error.isNotFound = true

/-- Everything is gone that is asked for. -/
def Gone (trace : Trace Gateway) : Prop :=
  ∀ answered ∈ trace, answered.IsGone

@[simp] theorem gone_nil : Gone [] := by
  simp [Gone]

@[simp] theorem gone_cons {answered : Answered Gateway} {trace : Trace Gateway} :
    Gone (answered :: trace) ↔ answered.IsGone ∧ Gone trace := by
  simp [Gone]

@[simp] theorem gone_append {before after : Trace Gateway} : Gone (before ++ after) ↔ Gone before ∧ Gone after :=
  List.forall_mem_append

theorem exists_gone (c : Call) : ∃ answer, Answered.IsGone ⟨c, answer⟩ := by
  cases c with
  | control c => exact ⟨.error (.api 404 "not found"), by cases c <;> simp [Answered.IsGone, Call.seeks] <;> decide⟩
  | network c =>
    cases c with
    | describeEndpoints => exact ⟨.ok [], rfl⟩
    | createEndpoint | deleteEndpoints =>
      exact ⟨.error (.api 404 "not found"), by simp [Answered.IsGone, Call.seeks] <;> decide⟩

/-- Every action has an end where everything is gone. -/
theorem exists_ends_gone {ε α : Type} (p : Program Gateway ε α) : ∃ trace result, p.Ends trace result ∧ Gone trace := by
  choose answer gone using exists_gone
  obtain ⟨trace, result, ends, answers⟩ := p.exists_ends answer
  refine ⟨trace, result, ends, ?_⟩
  rintro ⟨c, given⟩ member
  obtain rfl : given = answer c := answers _ member
  exact gone c

/-! ## Deletions -/

/-- What an action leads to is sound. -/
def Leads {P I M : Type} (sound : P → I → Prop) (_ : Trace Gateway)
    (result : Except ProvisionError (Transition P I M)) : Prop :=
  ∀ phase ids message, result = .ok (.proceed phase ids message) → sound phase ids

/-- A deletion without a time limit, with what is sound in its phases. -/
structure Lifecycle.Deletes {M P I R : Type} (lifecycle : Lifecycle M P I R) (reread : I → I) (sound : P → I → Prop) :
    Prop where
  operation_eq : lifecycle.operation = .delete
  untimed (model : M) : lifecycle.timeoutSettings model = none
  reread {phase : P} {ids : I} (kept : sound phase ids) : sound phase (reread ids)
  start (model : M) (current : Option R) (valid : lifecycle.validate model = .ok ()) :
    (lifecycle.start model current).Always (Leads sound)
  advance {phase : P} {ids : I} (kept : sound phase ids) (model : M) (remote : Option R) :
    (lifecycle.advance phase ids model remote).Always (Leads sound)

/-- The deletion waits without a time limit, with what is sound in its phase. -/
structure Continuation.Removes {P I : Type} (sound : P → I → Prop) (continuation : Continuation P I) : Prop where
  untimed : continuation.timing = none
  sound : sound continuation.phase continuation.ids

namespace Lifecycle
variable {M P I R : Type} [Tagged P] {lifecycle : Lifecycle M P I R} {settings : StepSettings} {reread : I → I}
  {sound : P → I → Prop} {caller : Caller} {taken : Taken M} {continuation : Continuation P I}
  {verdict : Verdict P I M} {trace : Trace Gateway} {model : M} {now : Instant}

omit [Tagged P] in
theorem removes_ofTransition {place : P → I → Continuation P I} {result : Except ProvisionError (Transition P I M)}
    (leads : Leads sound trace result) (untimed : ∀ phase ids, (place phase ids).timing = none)
    (placed : ∀ phase ids, (place phase ids).phase = phase ∧ (place phase ids).ids = ids) :
    (Verdict.ofTransition place result).All (Continuation.Removes sound) := by
  refine Verdict.all_ofTransition ?_
  intro phase ids message proceeds
  refine ⟨untimed phase ids, ?_⟩
  rw [(placed phase ids).1, (placed phase ids).2]
  exact leads phase ids message proceeds

omit [Tagged P] in
theorem Opening.removes (deletes : lifecycle.Deletes reread sound) {fresh : OperationId}
    (opening : lifecycle.Opening fresh model now trace verdict) : verdict.All (Continuation.Removes sound) := by
  cases opening with
  | acted valid _ _ _ started _ decided =>
    rw [decided]
    refine removes_ofTransition (deletes.start _ _ valid _ _ started) (fun _ _ => ?_) fun _ _ => ⟨rfl, rfl⟩
    rw [place, timing, deletes.untimed, Option.map_none]
  | invalid | uninspected | alreadyGone | missing | refused => trivial

theorem Resumption.removes (deletes : lifecycle.Deletes reread sound)
    (resumption : lifecycle.Resumption settings continuation model now trace verdict)
    (removes : continuation.Removes sound) : verdict.All (Continuation.Removes sound) := by
  cases resumption with
  | acted _ _ _ advanced _ decided =>
    rw [decided]
    exact removes_ofTransition (deletes.advance removes.sound _ _ _ _ advanced) (fun _ _ => removes.untimed)
      fun _ _ => ⟨rfl, rfl⟩
  | pending => exact removes
  | overrun | unobserved | vanished | faulty => trivial

omit [Tagged P] in
theorem Deletes.removes_reread (deletes : lifecycle.Deletes reread sound) (removes : continuation.Removes sound) :
    (continuation.reread reread).Removes sound where
  untimed := by rw [Continuation.reread, removes.untimed, Option.map_none]
  sound := deletes.reread removes.sound

/-- A deletion only ever waits as it should. -/
theorem Deletes.invariant (deletes : lifecycle.Deletes reread sound) :
    lifecycle.Invariant settings reread caller fun _ stage => stage.All (Continuation.Removes sound) where
  start := trivial
  step := by
    intro steps stage taken verdict holds moves
    refine holds.next caller ?_
    cases moves with
    | opened _ opening => exact opening.removes deletes
    | rejected => trivial
    | resumed _ _ resumption => exact resumption.removes deletes (deletes.removes_reread holds)

omit [Tagged P] in
/-- What has no time limit is never late. -/
theorem isLate_of_untimed (untimed : continuation.timing = none) (fallback : Duration) (now : Instant) :
    continuation.isLate fallback now = false := by
  rw [Continuation.isLate, untimed, Option.any_none]

/-- A step from where an operation without a time limit waits resumes it. -/
theorem Moves.of_untimed (moves : lifecycle.Moves settings reread taken (.waiting continuation) verdict)
    (untimed : continuation.timing = none) :
    lifecycle.Resumption settings (continuation.reread reread) taken.model taken.now taken.trace verdict := by
  cases moves with
  | rejected known =>
    rw [untimed] at known
    cases known
  | resumed _ _ resumption => exact resumption

/-- A step of a deletion that waits resumes it. -/
theorem Moves.of_removes (moves : lifecycle.Moves settings reread taken (.waiting continuation) verdict)
    (removes : continuation.Removes sound) :
    lifecycle.Resumption settings (continuation.reread reread) taken.model taken.now taken.trace verdict :=
  moves.of_untimed removes.untimed

end Lifecycle

/-! ## Where everything is gone -/

/-- Where everything is gone, looking shows it, and every phase that is ready for that is the last. -/
structure Lifecycle.Dissolves {M P I R : Type} (lifecycle : Lifecycle M P I R) (sound : P → I → Prop)
    (ready : P → Prop) : Prop where
  inspect (model : M) (valid : lifecycle.validate model = .ok ()) :
    (lifecycle.inspect model).Always fun trace seen => Gone trace → seen = .ok (some .absent)
  resume {phase : P} {ids : I} (kept : sound phase ids) (awaited : ready phase) (model : M) :
    (lifecycle.observe phase ids).Always fun look seen => Gone look → ∃ found, seen = .ok found ∧
      lifecycle.isDue phase found = true ∧ (lifecycle.advance phase ids model found.remote?).Always fun after result =>
        Gone after → ∃ message, result = .ok (.complete none message)

namespace Lifecycle
variable {M P I R : Type} [Tagged P] {lifecycle : Lifecycle M P I R} {settings : StepSettings} {reread : I → I}
  {sound : P → I → Prop} {ready : P → Prop} {continuation : Continuation P I} {verdict : Verdict P I M}
  {trace : Trace Gateway} {model : M} {now : Instant}

omit [Tagged P] in
/-- A deletion that begins when everything is gone succeeds at once. -/
theorem Opening.succeeds_of_gone (deletes : lifecycle.Deletes reread sound)
    (dissolves : lifecycle.Dissolves sound ready) {fresh : OperationId}
    (opening : lifecycle.Opening fresh model now trace verdict)
    (valid : lifecycle.validate model = .ok ()) (gone : Gone trace) : ∃ message, verdict = .succeeds none message := by
  -- the look finds nothing, so that the step ends there; every other way for it to go on needs something that was found
  have absent {look : Trace Gateway} {seen : Except ProvisionError (Option (Observation R))}
      (inspected : (lifecycle.inspect model).Ends look seen) (gone : Gone look) : seen = .ok (some .absent) :=
    dissolves.inspect model valid _ _ inspected gone
  cases opening with
  | invalid invalid => rw [valid] at invalid; cases invalid
  | uninspected _ inspected => cases absent inspected gone
  | alreadyGone => exact ⟨_, rfl⟩
  | missing _ _ needed => exact absurd deletes.operation_eq needed
  | refused _ inspected present =>
    cases absent inspected gone
    exact absurd rfl present
  | acted _ inspected present _ _ calls =>
    rw [calls, gone_append] at gone
    cases absent inspected gone.1
    exact absurd rfl present

/-- A deletion that waits in a phase that is ready for it succeeds when everything is gone. -/
theorem Resumption.succeeds_of_gone (dissolves : lifecycle.Dissolves sound ready)
    (resumption : lifecycle.Resumption settings continuation model now trace verdict)
    (removes : continuation.Removes sound) (awaited : ready continuation.phase) (gone : Gone trace) :
    ∃ message, verdict = .succeeds none message := by
  -- what the look shows is what the phase waits for, so that nothing is left to do but the action that completes
  have shows := dissolves.resume removes.sound awaited model
  cases resumption with
  | overrun late => rw [isLate_of_untimed removes.untimed] at late; cases late
  | unobserved _ observed => obtain ⟨found, ⟨⟩, _⟩ := shows _ _ observed gone
  | vanished _ observed needed =>
    obtain ⟨found, ⟨⟩, due, _⟩ := shows _ _ observed gone
    rw [isDue, needed] at due
    cases due
  | faulty _ observed unreached | pending _ observed unreached =>
    obtain ⟨found, ⟨⟩, due, _⟩ := shows _ _ observed gone
    rw [isDue, unreached] at due
    cases due
  | acted _ observed _ advanced calls decided =>
    rw [calls, gone_append] at gone
    obtain ⟨found, ⟨⟩, _, completes⟩ := shows _ _ observed gone.1
    obtain ⟨message, rfl⟩ := completes _ _ advanced gone.2
    exact ⟨message, decided⟩

end Lifecycle

/-! ## The families -/

attribute [local simp] Leads Answered.IsGone Call.seeks

/-- Reading a resource shows when it is gone. -/
theorem Observation.absent_of_gone {c : ControlCall} (seeks : (Call.control c).seeks = true) :
    (Action.control? c >>= ofAnswer).Always fun trace seen => Gone trace → seen = .ok .absent := by
  intro trace seen ends gone
  obtain ⟨answer, rest, rfl, later⟩ := Program.ends_call.mp ends
  obtain ⟨error, rfl, missing⟩ := (gone_cons.mp gone).1 seeks
  have later : (ofAnswer (.error error) : Action (Observation c.Result)).Ends rest seen := later
  rw [ofAnswer, if_pos missing] at later
  exact (Program.ends_done.mp later).2

namespace ClusterLifecycle

theorem deletes (reserved : Label) :
    (clusterLifecycle reserved .delete).Deletes id fun phase _ => phase = .deleting where
  operation_eq := rfl
  untimed _ := rfl
  reread kept := kept
  start model _ _ := by simp [clusterLifecycle, start]
  advance kept _ _ := by simp [clusterLifecycle, kept, advance]

theorem dissolves (reserved : Label) (ready : ClusterPhase → Prop) :
    (clusterLifecycle reserved .delete).Dissolves (fun phase _ => phase = .deleting) ready where
  inspect model valid := by
    simp only [clusterLifecycle, validate, bind_eq_ok] at valid
    obtain ⟨ids, known, _⟩ := valid
    simp [clusterLifecycle, look, known]
  resume kept _ model look seen looked gone := by
    obtain rfl := Observation.absent_of_gone rfl _ _ looked gone
    exact ⟨.absent, rfl, by simp [clusterLifecycle, Lifecycle.isDue, kept],
      by simp [clusterLifecycle, kept, advance]⟩

end ClusterLifecycle

namespace StreamProcessorLifecycle

theorem exists_ids {model : StreamProcessorModel} (valid : validate .delete model = .ok ()) :
    ∃ ids, StreamProcessorIds.ofModel model = .ok ids := by
  simp only [validate, bind_eq_ok] at valid
  obtain ⟨ids, known, _⟩ := valid
  exact ⟨ids, known⟩

theorem deletes (budget : String) :
    (streamProcessorLifecycle budget .delete).Deletes id fun phase _ => phase = .deleting where
  operation_eq := rfl
  untimed _ := rfl
  reread kept := kept
  start model _ _ := by simp [streamProcessorLifecycle, start]
  advance kept _ remote := by cases remote <;> simp [streamProcessorLifecycle, kept, advance, mustStart]

theorem dissolves (budget : String) (ready : StreamProcessorPhase → Prop) :
    (streamProcessorLifecycle budget .delete).Dissolves (fun phase _ => phase = .deleting) ready where
  inspect model valid := by
    obtain ⟨ids, known⟩ := exists_ids valid
    simp [streamProcessorLifecycle, look, known]
  resume kept _ model look seen looked gone := by
    obtain rfl := Observation.absent_of_gone rfl _ _ looked gone
    exact ⟨.absent, rfl, by simp [streamProcessorLifecycle, Lifecycle.isDue, kept],
      by simp [streamProcessorLifecycle, advance, Observation.remote?]⟩

end StreamProcessorLifecycle

namespace ExportJobLifecycle

theorem deletes (completion : String) :
    (exportJobLifecycle completion .delete).Deletes id fun phase _ => phase = .deleting where
  operation_eq := rfl
  untimed _ := rfl
  reread kept := kept
  start model current _ := by cases current <;> simp [exportJobLifecycle, start]
  advance kept _ _ := by simp [exportJobLifecycle, kept, advance]

theorem exists_ids {model : ExportJobModel} (valid : validate .delete model = .ok ()) :
    ∃ ids, idsOfModel model = .ok ids := by
  simp only [validate, bind_eq_ok] at valid
  obtain ⟨projectId, project, clusterName, cluster, exportId, job, _⟩ := valid
  refine ⟨{ projectId, clusterName, exportId }, ?_⟩
  rw [idsOfModel, project, cluster, job]
  rfl

theorem dissolves (completion : String) (ready : ExportJobPhase → Prop) :
    (exportJobLifecycle completion .delete).Dissolves (fun phase _ => phase = .deleting) ready where
  inspect model valid := by
    obtain ⟨ids, known⟩ := exists_ids valid
    simp [exportJobLifecycle, look, known]
  resume kept _ model look seen looked gone := by
    obtain rfl := Observation.absent_of_gone rfl _ _ looked gone
    exact ⟨.absent, rfl, by simp [exportJobLifecycle, Lifecycle.isDue, kept],
      by simp [exportJobLifecycle, kept, advance]⟩

end ExportJobLifecycle

namespace PrivateEndpointLifecycle

/-- What is remembered while a private endpoint is deleted. -/
def Removing (phase : PrivateEndpointPhase) (ids : PrivateEndpointIds) : Prop :=
  IsDeletion phase ∧ ids.serviceId.isSome

/-- Taking a service apart leads to phases of the deletion, and remembers which service it is. -/
theorem leads_detachNext {ids : PrivateEndpointIds} (known : ids.serviceId.isSome) (service : EndpointService) :
    (detachNext ids service).Always (Leads Removing) := by
  have same : (ids.remember service.interfaceEndpoints).serviceId = ids.serviceId := rfl
  simp only [detachNext, deleteService, removeNetworkEndpoints]
  split <;> simp [Removing, IsDeletion, same, known]

theorem deletes : (privateEndpointLifecycle .delete).Deletes reread Removing where
  operation_eq := rfl
  untimed _ := rfl
  reread kept := kept
  start model current valid := by
    obtain ⟨id, named⟩ := exists_id valid
    simp only [privateEndpointLifecycle, start, Program.always_lift_bind]
    refine ⟨by simp, ?_⟩
    intro ids known
    have remembered : ids.serviceId.isSome := by rw [(of_ofModel known).1, named, Option.isSome_some]
    rcases current with _ | (service | _ | _ | _)
    · simp
    · exact leads_detachNext remembered service
    · simp
    · simp
    · simp
  advance kept model remote := by
    obtain ⟨rfl | rfl | rfl, known⟩ := kept
    · rcases remote with _ | (_ | ⟨service, _⟩ | _ | _)
      · simp [privateEndpointLifecycle, advance]
      · simp [privateEndpointLifecycle, advance]
      · exact leads_detachNext known service
      · simp [privateEndpointLifecycle, advance]
      · simp [privateEndpointLifecycle, advance]
    · simp [privateEndpointLifecycle, advance, deleteService, Removing, IsDeletion, known]
    · simp [privateEndpointLifecycle, advance]

theorem deleteService_gone {ids : PrivateEndpointIds} (known : ids.serviceId.isSome) :
    (deleteService ids).Always fun trace result => Gone trace → ∃ message, result = .ok (.complete none message) := by
  obtain ⟨id, known⟩ := Option.isSome_iff_exists.mp known
  simp [deleteService, service_eq known]

theorem look_gone {ids : PrivateEndpointIds} (known : ids.serviceId.isSome) :
    (look ids).Always fun trace seen => Gone trace → seen = .ok .absent := by
  obtain ⟨id, known⟩ := Option.isSome_iff_exists.mp known
  rw [look, service_eq known]
  exact Observation.absent_of_gone rfl

/-- Only while an interface is being detached is the service needed. -/
theorem dissolves :
    (privateEndpointLifecycle .delete).Dissolves Removing fun phase => Tagged.tag phase ≠ "DETACHING_INTERFACES" where
  inspect model valid := by
    obtain ⟨id, named⟩ := exists_id valid
    simp only [privateEndpointLifecycle, validate, bind_eq_ok] at valid
    obtain ⟨ids, known, _⟩ := valid
    have remembered : ids.serviceId = some id := (of_ofModel known).1.trans named
    simp [privateEndpointLifecycle, look, known, service_eq remembered, Observation.map]
  resume := by
    rintro phase ids ⟨rfl | rfl | rfl, known⟩ attached model
    · exact absurd rfl attached
    · intro look seen looked gone
      obtain ⟨answer, rest, rfl, later⟩ := Program.ends_call.mp looked
      obtain ⟨rfl, _⟩ := gone_cons.mp gone
      obtain ⟨_, rfl⟩ := Program.ends_done.mp later
      exact ⟨_, rfl, rfl, deleteService_gone known⟩
    · intro look seen looked gone
      rcases Program.ends_bind.mp looked with ⟨error, failed, rfl⟩ | ⟨found, before, after, first, later, rfl⟩
      · cases look_gone known _ _ failed gone
      · rw [gone_append] at gone
        cases look_gone known _ _ first gone.1
        obtain ⟨_, rfl⟩ := Program.ends_done.mp later
        exact ⟨.absent, rfl, rfl, by simp [privateEndpointLifecycle, advance]⟩

end PrivateEndpointLifecycle

/-- A step with such answers may be taken, and succeeds without a model. -/
structure SucceedsWhenGone {M : Type} (step : Program Gateway Empty (Outcome M)) : Prop where
  possible : ∃ trace result, step.Ends trace result ∧ Gone trace
  succeeds : step.Always fun trace result => Gone trace → ∃ message, result = .ok (.success none message)

namespace Family

/-- What is remembered while a resource is deleted. -/
def Removing : (family : Family) → family.Phase → family.Ids → Prop
  | cluster, phase, _ => phase = .deleting
  | streamProcessor, phase, _ => phase = .deleting
  | privateEndpoint, phase, ids => PrivateEndpointLifecycle.Removing phase ids
  | exportJob, phase, _ => phase = .deleting

theorem deletes (settings : Settings) (family : Family) :
    (family.lifecycle settings .delete).Deletes family.rereadIds family.Removing := by
  cases family with
  | cluster => exact ClusterLifecycle.deletes _
  | streamProcessor => exact StreamProcessorLifecycle.deletes _
  | privateEndpoint => exact PrivateEndpointLifecycle.deletes
  | exportJob => exact ExportJobLifecycle.deletes _

theorem dissolves (settings : Settings) (family : Family) :
    (family.lifecycle settings .delete).Dissolves family.Removing fun phase =>
      Tagged.tag phase ≠ "DETACHING_INTERFACES" := by
  cases family with
  | cluster => exact ClusterLifecycle.dissolves _ _
  | streamProcessor => exact StreamProcessorLifecycle.dissolves _ _
  | privateEndpoint => exact PrivateEndpointLifecycle.dissolves
  | exportJob => exact ExportJobLifecycle.dissolves _ _

/-- Where everything is gone, the next step of a deletion is the last, and succeeds: with a model that can be deleted,
and in every phase but that in which the interfaces of a private endpoint are detached. -/
theorem deletion_ends_when_gone (settings : Settings) (family : Family) {caller : Caller}
    {steps : List (Taken family.Model)} {context : Fields}
    (run : (family.lifecycle settings .delete).Run (settings.step family) caller steps (some context))
    (attached : context.get? "phase" ≠ some (.string "DETACHING_INTERFACES")) {model : family.Model}
    (valid : (family.lifecycle settings .delete).validate model = .ok ()) (fresh : OperationId) (now : Instant) :
    SucceedsWhenGone ((family.lifecycle settings .delete).step (settings.step family) fresh context model now) where
  possible := exists_ends_gone _
  succeeds := by
    intro trace result ends gone
    have keeps := keeps settings .delete family
    have deletes := deletes settings family
    have dissolves := dissolves settings family
    obtain ⟨stage, removes, stands⟩ := keeps.holds deletes.invariant run
    rcases result with error | outcome
    · exact error.elim
    -- the step is a move from where the run stands
    let taken : Taken family.Model := { fresh, context, model, now, trace, outcome }
    have takes : (family.lifecycle settings .delete).Takes (settings.step family) taken := ends
    obtain ⟨verdict, moves, decided⟩ := keeps.moves stands.symm takes
    have succeeds : ∃ message, verdict = .succeeds none message := by
      cases stage with
      | unopened =>
        cases moves with
        | opened _ opening => exact opening.succeeds_of_gone deletes dissolves valid gone
      | waiting continuation =>
        have awaited : Tagged.tag continuation.phase ≠ "DETACHING_INTERFACES" := by
          intro detaching
          cases stands
          exact attached ((Context.get?_phase keeps.fits _ continuation).trans (by rw [detaching]))
        exact (moves.of_removes removes).succeeds_of_gone dissolves (deletes.removes_reread removes) awaited gone
      | ended => cases stands
    obtain ⟨message, rfl⟩ := succeeds
    exact ⟨message, congrArg Except.ok decided⟩

end Family

/-- Where everything is gone, the network endpoints are too, and the deletion of the service finds none. -/
theorem apart_ends_when_gone :
    (apartContext .removingNetworkEndpoints none).get? "phase" = some (.string "REMOVING_NETWORK_ENDPOINTS") ∧
      SucceedsWhenGone ((Family.privateEndpoint.lifecycle {} .delete).step (Settings.step {} .privateEndpoint) .nil
        (apartContext .removingNetworkEndpoints none) apartModel .epoch) := by
  have run : (Family.privateEndpoint.lifecycle {} .delete).Run (Settings.step {} .privateEndpoint) .plain
      ([apartDetached] ++ [apartRemoved]) (Caller.plain.next apartRemoved) :=
    .step (.step .start takes_apartDetached) takes_apartRemoved
  have phase : (apartContext .removingNetworkEndpoints none).get? "phase" =
      some (.string "REMOVING_NETWORK_ENDPOINTS") :=
    Context.get?_phase (Family.fits .privateEndpoint) _ (apartWaiting .removingNetworkEndpoints none)
  refine ⟨phase, Family.deletion_ends_when_gone {} .privateEndpoint run ?_ rfl .nil .epoch⟩
  rw [phase]
  simp

/-- The second step finds that the service is gone from which it detaches an interface. -/
def apartVanished : Taken PrivateEndpointModel where
  fresh := .nil
  context := apartContext .detachingInterfaces (some "e")
  model := apartModel
  now := .epoch
  trace := [⟨.control (.getService "p" "s"), .error (.api 404 "not found")⟩]
  outcome := .failed "private endpoint not found while waiting in phase DETACHING_INTERFACES" .notFound false

theorem takes_apartVanished :
    (Family.privateEndpoint.lifecycle {} .delete).Takes (Settings.step {} .privateEndpoint) apartVanished := by
  refine Lifecycle.takes_of_fails (.notFound (.whileWaiting "private endpoint" "DETACHING_INTERFACES")) ?_ rfl
  rw [apartVanished, Lifecycle.tryStep, decode_apartContext]
  exact .call (.fail _)

/-- A service without an id is not looked for. -/
def apartNameless : Taken PrivateEndpointModel where
  fresh := .nil
  context := []
  model := { apartModel with id := none }
  now := .epoch
  trace := []
  outcome := .failed "id is required" .validation false

theorem takes_apartNameless :
    (Family.privateEndpoint.lifecycle {} .delete).Takes (Settings.step {} .privateEndpoint) apartNameless :=
  Lifecycle.takes_of_fails (.validation (.missing "id")) (.fail _) rfl

/-- A deletion whose service vanishes while an interface is being detached from it fails, and so does one of a service
without an id. -/
theorem apart_fails_when_gone :
    ((Family.privateEndpoint.lifecycle {} .delete).Run (Settings.step {} .privateEndpoint) .plain
        ([apartDetached] ++ [apartVanished]) none ∧
      apartVanished.model = apartDetached.model ∧ Gone apartVanished.trace ∧
      apartVanished.outcome =
        .failed "private endpoint not found while waiting in phase DETACHING_INTERFACES" .notFound false) ∧
    ((Family.privateEndpoint.lifecycle {} .delete).Run (Settings.step {} .privateEndpoint) .plain
        ([] ++ [apartNameless]) none ∧
      Gone apartNameless.trace ∧ apartNameless.outcome = .failed "id is required" .validation false) := by
  have missing : GatewayError.isNotFound (.api 404 "not found") = true := by decide
  have gone : Gone apartVanished.trace := by simp [apartVanished, missing]
  exact ⟨⟨.step (.step .start takes_apartDetached) takes_apartVanished, rfl, gone, rfl⟩,
    .step .start takes_apartNameless, gone_nil, rfl⟩

end Provisioner
