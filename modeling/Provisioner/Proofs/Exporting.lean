import Provisioner.Proofs.Account
import Provisioner.Proofs.Deletion
import Provisioner.Proofs.Failures

/-!
# Deciding about export jobs

A creation makes one call, which creates a job, and then polls that job; a deletion only reads. What a poll comes to
depends on the state that it shows and on the operation: a creation is done when the job is complete and has failed when
the job is lost (`ExportEnds`), a deletion is done in either case and when there is no job (`FinishEnds`). The state of
a complete job is a setting, which may be that of a lost one: then a creation is done (`Family.export_decided`).
-/
namespace Provisioner

namespace ExportJobLifecycle

/-- The call that reads an export job, with its answer. -/
def polled (ids : ExportJobIds) (answer : Except GatewayError RemoteExportJob) : Trace Gateway :=
  [⟨.control (.getExport ids.projectId ids.clusterName ids.exportId), answer⟩]

/-- What a step of a creation comes to that polls the job. -/
def ExportEnds (completion : String) (taken : Taken ExportJobModel) : Except GatewayError RemoteExportJob → Prop
  | .ok job =>
    if job.state = completion then
      ∃ model message, taken.outcome = .success (some model) message ∧ model.exportId = some job.id ∧
        model.state = some job.state ∧ model.createdAt = job.createdAt ∧ model.finishedAt = job.finishedAt
    else if job.state = "Failed" ∨ job.state = "Cancelled" then ∃ message, taken.outcome = .failed message .remote false
    else ∃ delay message, taken.outcome = .inProgress taken.context delay message
  | .error error =>
    if error.isNotFound then ∃ message, taken.outcome = .failed message .notFound false
    else taken.outcome = .ofError (.gateway error)

/-- What a step of a deletion comes to that reads the job. -/
def FinishEnds (completion : String) (taken : Taken ExportJobModel) : Except GatewayError RemoteExportJob → Prop
  | .ok job =>
    if job.state = completion ∨ job.state = "Failed" ∨ job.state = "Cancelled" then
      ∃ message, taken.outcome = .success none message
    else ∃ context delay message, taken.outcome = .inProgress context delay message ∧
      (taken.context ≠ [] → context = taken.context)
  | .error error =>
    if error.isNotFound then ∃ message, taken.outcome = .success none message
    else taken.outcome = .ofError (.gateway error)

/-- The steps of a creation: a model that is valid is exported once, and from then on the job that was created is
polled. -/
def Exports (completion : String) (first : Taken ExportJobModel) (later : List (Taken ExportJobModel)) : Prop :=
  (validate .create first.model ≠ .ok () ∧ first.trace = [] ∧ later = []) ∨
  (validate .create first.model = .ok () ∧ ∃ projectId clusterName request created,
    first.trace = [⟨.control (.createExport projectId clusterName request), created⟩] ∧
    ∀ taken ∈ later, ∃ job answer, created = .ok job ∧
      taken.trace = polled { projectId, clusterName, exportId := job.id } answer ∧ ExportEnds completion taken answer)

/-- A step of a deletion: it reads the job of a model that is valid, and is decided by what that shows. -/
def Finishes (completion : String) (taken : Taken ExportJobModel) : Prop :=
  (taken.context = [] ∧ taken.trace = [] ∧
    ∃ error, validate .delete taken.model = .error error ∧ taken.outcome = .ofError error) ∨
  ∃ ids answer, taken.trace = polled ids answer ∧ FinishEnds completion taken answer

variable {completion : String} {ids : ExportJobIds} {trace : Trace Gateway} {taken : Taken ExportJobModel}
  {settings : StepSettings} {verdict : Verdict ExportJobPhase ExportJobIds ExportJobModel}
  {continuation : Continuation ExportJobPhase ExportJobIds} {write : Continuation ExportJobPhase ExportJobIds → Fields}
  {delay : Duration}

theorem isLost_iff {job : RemoteExportJob} : isLost job = true ↔ job.state = "Failed" ∨ job.state = "Cancelled" := by
  simp [isLost]

theorem isOver_iff {job : RemoteExportJob} :
    isOver completion job = true ↔ job.state = completion ∨ job.state = "Failed" ∨ job.state = "Cancelled" := by
  simp [isOver, isLost_iff]

/-- A look makes one call, whose answer is what it shows. -/
theorem ends_look {seen : Except ProvisionError (Observation RemoteExportJob)} (ends : (look ids).Ends trace seen) :
    ∃ answer, trace = polled ids answer ∧ seen = Observation.shown answer := by
  obtain ⟨answer, rest, rfl, later⟩ := Program.ends_call.mp ends
  obtain ⟨rfl, rfl⟩ := Observation.ends_ofAnswer.mp later
  exact ⟨answer, rfl, rfl⟩

/-! ## Creation -/

/-- The creation waits for a job. -/
structure Exporting (ids : ExportJobIds) (continuation : Continuation ExportJobPhase ExportJobIds) : Prop where
  untimed : continuation.timing = none
  phase : continuation.phase = .exporting
  ids : continuation.ids = ids

theorem Exporting.reread (exporting : Exporting ids continuation) : Exporting ids (continuation.reread id) where
  untimed := by rw [Continuation.reread, exporting.untimed, Option.map_none]
  phase := exporting.phase
  ids := exporting.ids

/-- A step that polls the job is decided by what it shows. -/
theorem Exporting.poll (exporting : Exporting ids continuation)
    (resumption : (exportJobLifecycle completion .create).Resumption settings continuation taken.model taken.now
      taken.trace verdict)
    (stands : write continuation = taken.context) (outcome : taken.outcome = verdict.outcome write delay) :
    ∃ answer, taken.trace = polled ids answer ∧ ExportEnds completion taken answer := by
  obtain ⟨untimed, phase, rfl⟩ := exporting
  cases resumption with
  | overrun late =>
    rw [Lifecycle.isLate_of_untimed untimed] at late
    cases late
  | unobserved _ observed =>
    obtain ⟨answer, calls, shows⟩ := ends_look observed
    obtain ⟨error, rfl, present, rfl⟩ := Observation.shown_eq_error.mp shows.symm
    refine ⟨_, calls, ?_⟩
    rw [ExportEnds, present]
    exact outcome
  | vanished _ observed =>
    obtain ⟨answer, calls, shows⟩ := ends_look observed
    obtain ⟨error, rfl, missing⟩ := Observation.shown_eq_absent.mp shows.symm
    refine ⟨_, calls, ?_⟩
    rw [ExportEnds, if_pos missing]
    exact ⟨_, outcome⟩
  | @faulty job fault _ observed unreached lost =>
    obtain ⟨answer, calls, shows⟩ := ends_look observed
    obtain rfl := Observation.shown_eq_found.mp shows.symm
    rw [phase] at unreached lost
    -- a lost state may be the complete one, which is asked for first
    have incomplete : ¬ job.state = completion := of_decide_eq_false unreached
    have lost : (if isLost job then some (RemoteFault.exportFailed job.id job.state) else none) = some fault := lost
    rw [Option.ite_none_right_eq_some, isLost_iff] at lost
    refine ⟨_, calls, ?_⟩
    rw [ExportEnds, if_neg incomplete, if_pos lost.1]
    exact ⟨_, outcome⟩
  | @pending job _ observed unreached sound =>
    obtain ⟨answer, calls, shows⟩ := ends_look observed
    obtain rfl := Observation.shown_eq_found.mp shows.symm
    rw [phase] at unreached sound
    have incomplete : ¬ job.state = completion := of_decide_eq_false unreached
    have sound : (if isLost job then some (RemoteFault.exportFailed job.id job.state) else none) = none := sound
    rw [ite_eq_right_iff, isLost_iff] at sound
    refine ⟨_, calls, ?_⟩
    rw [ExportEnds, if_neg incomplete, if_neg (fun lost => by cases sound lost), ← stands]
    exact ⟨_, _, outcome⟩
  | @acted before after _ seen result _ observed due advanced calls decided =>
    obtain ⟨answer, looked, shows⟩ := ends_look observed
    rcases seen with job | _
    · obtain rfl := Observation.shown_eq_found.mp shows.symm
      rw [phase] at due advanced
      have complete : job.state = completion := of_decide_eq_true due
      obtain ⟨rfl, rfl⟩ := Program.ends_done.mp advanced
      refine ⟨_, calls.trans ((List.append_nil _).trans looked), ?_⟩
      rw [ExportEnds, if_pos complete]
      exact ⟨_, _, by rw [outcome, decided]; rfl, rfl, rfl, rfl, rfl⟩
    · rw [phase] at due
      cases due

/-- As long as a creation waits, it waits for the same job. -/
theorem Exporting.step (exporting : Exporting ids continuation)
    (resumption : (exportJobLifecycle completion .create).Resumption settings continuation taken.model taken.now
      taken.trace verdict) : verdict.All (Exporting ids) := by
  cases resumption with
  | pending => exact exporting
  | @acted _ _ _ seen _ _ _ due advanced _ decided =>
    rw [exporting.phase] at due advanced
    rcases seen with job | _
    · obtain ⟨_, rfl⟩ := Program.ends_done.mp advanced
      rw [decided]
      trivial
    · cases due
  | overrun | unobserved | vanished | faulty => trivial

/-- A valid model is exported with one call. -/
theorem ends_start_create {model : ExportJobModel} {current : Option RemoteExportJob}
    {result : Except ProvisionError (Transition ExportJobPhase ExportJobIds ExportJobModel)}
    (valid : validate .create model = .ok ()) (started : (start completion .create model current).Ends trace result) :
    ∃ projectId clusterName request, CallsOnce (.control (.createExport projectId clusterName request))
      (fun job => .proceed .exporting { projectId, clusterName, exportId := job.id }
        s!"Export job created, state {job.state}") trace result := by
  simp only [validate, bind_eq_ok] at valid
  obtain ⟨projectId, project, clusterName, cluster, snapshotId, snapshot, exportBucketId, bucket, _⟩ := valid
  refine ⟨projectId, clusterName, { snapshotId, exportBucketId, customData := model.customData.getD [] }, ?_⟩
  simp only [start, project, cluster, snapshot, bucket, Program.lift_ok_bind] at started
  exact callsOnce_ask (Program.ends_note.mp started)

/-- The first step of a creation makes no call if its model is not valid, and else one, which creates the job that the
creation waits for. -/
theorem ends_opening_create {fresh : OperationId} {model : ExportJobModel} {now : Instant}
    (opening : (exportJobLifecycle completion .create).Opening fresh model now trace verdict) :
    (validate .create model ≠ .ok () ∧ trace = [] ∧ ∃ error, verdict = .fails error) ∨
    (validate .create model = .ok () ∧ ∃ projectId clusterName request created,
      trace = [⟨.control (.createExport projectId clusterName request), created⟩] ∧
      ((∃ error, verdict = .fails error) ∨ ∃ job continuation message, created = .ok job ∧
        verdict = .waits continuation message ∧
        Exporting { projectId, clusterName, exportId := job.id } continuation)) := by
  cases opening with
  | invalid invalid silent =>
    refine .inl ⟨?_, silent, _, rfl⟩
    have invalid : validate .create model = .error _ := invalid
    rw [invalid]
    nofun
  | uninspected _ inspected | alreadyGone _ inspected | missing _ inspected =>
    obtain ⟨_, ⟨⟩⟩ := Program.ends_done.mp inspected
  | refused _ _ _ refused => cases refused
  | @acted before after _ seen result valid inspected _ _ started calls decided =>
    obtain ⟨rfl, ⟨⟩⟩ := Program.ends_done.mp inspected
    have started : (start completion .create model none).Ends after result := started
    obtain ⟨projectId, clusterName, request, created, rfl, rfl⟩ := ends_start_create valid started
    refine .inr ⟨valid, projectId, clusterName, request, created, calls, ?_⟩
    rcases created with error | job
    · exact .inl ⟨_, decided⟩
    · exact .inr ⟨job, _, _, rfl, decided, rfl, rfl, rfl⟩

/-! ## Deletion -/

/-- The job of a valid model is read, and what is found is what the answer shows. -/
theorem ends_inspect_delete {model : ExportJobModel} {seen : Except ProvisionError (Option (Observation RemoteExportJob))}
    (valid : validate .delete model = .ok ())
    (inspected : ((exportJobLifecycle completion .delete).inspect model).Ends trace seen) :
    ∃ ids answer, trace = polled ids answer ∧ ((∃ error, seen = .error error ∧ Observation.shown answer = .error error) ∨
      ∃ found, seen = .ok (some found) ∧ Observation.shown answer = .ok found) := by
  obtain ⟨ids, known⟩ := exists_ids valid
  have inspected : (look ids >>= fun found => .done (some found)).Ends trace seen := by
    simpa [exportJobLifecycle, known] using inspected
  refine ⟨ids, ?_⟩
  rcases Program.ends_bind.mp inspected with ⟨error, failed, rfl⟩ | ⟨found, before, after, looked, later, rfl⟩
  · obtain ⟨answer, polls, shows⟩ := ends_look failed
    exact ⟨answer, polls, .inl ⟨error, rfl, shows.symm⟩⟩
  · obtain ⟨rfl, rfl⟩ := Program.ends_done.mp later
    obtain ⟨answer, polls, shows⟩ := ends_look looked
    exact ⟨answer, (List.append_nil _).trans polls, .inr ⟨found, rfl, shows.symm⟩⟩

/-- A deletion makes no call, and waits for a job that is not over. -/
theorem ends_start_delete {model : ExportJobModel} {job : RemoteExportJob}
    {result : Except ProvisionError (Transition ExportJobPhase ExportJobIds ExportJobModel)}
    (valid : validate .delete model = .ok ()) (started : (start completion .delete model (some job)).Ends trace result) :
    trace = [] ∧ ((isOver completion job = true ∧ ∃ message, result = .ok (.complete none message)) ∨
      isOver completion job = false ∧ ∃ ids message, result = .ok (.proceed .deleting ids message)) := by
  simp only [validate, bind_eq_ok] at valid
  obtain ⟨projectId, project, clusterName, cluster, _⟩ := valid
  simp only [start, project, cluster, Program.lift_ok_bind] at started
  split at started
  · next ended =>
    obtain ⟨rfl, rfl⟩ := Program.ends_done.mp started
    exact ⟨rfl, .inl ⟨ended, _, rfl⟩⟩
  · next running =>
    obtain ⟨rfl, rfl⟩ := Program.ends_done.mp started
    exact ⟨rfl, .inr ⟨by simpa using running, _, _, rfl⟩⟩

/-- What a deletion comes to where the job cannot be read. -/
theorem finishEnds_of_error {error : GatewayError} (present : error.isNotFound = false)
    (outcome : taken.outcome = .ofError (.gateway error)) : FinishEnds completion taken (.error error) := by
  rw [FinishEnds, present]
  exact outcome

/-- What a deletion comes to where there is no job. -/
theorem finishEnds_of_absent {error : GatewayError} {message : String} (missing : error.isNotFound = true)
    (outcome : taken.outcome = .success none message) : FinishEnds completion taken (.error error) := by
  rw [FinishEnds, if_pos missing]
  exact ⟨_, outcome⟩

/-- What a deletion comes to where the job is over. -/
theorem finishEnds_of_over {job : RemoteExportJob} {message : String} (ended : isOver completion job = true)
    (outcome : taken.outcome = .success none message) : FinishEnds completion taken (.ok job) := by
  rw [FinishEnds, if_pos (isOver_iff.mp ended)]
  exact ⟨_, outcome⟩

/-- What a deletion comes to where the job is not over. -/
theorem finishEnds_of_running {job : RemoteExportJob} {context : Fields} {message : String}
    (running : isOver completion job = false) (outcome : taken.outcome = .inProgress context delay message)
    (same : taken.context ≠ [] → context = taken.context) : FinishEnds completion taken (.ok job) := by
  have other : ¬ (job.state = completion ∨ job.state = "Failed" ∨ job.state = "Cancelled") := by
    rw [← isOver_iff, running]
    nofun
  rw [FinishEnds, if_neg other]
  exact ⟨_, _, _, outcome, same⟩

theorem Finishes.of_opening
    (opening : (exportJobLifecycle completion .delete).Opening taken.fresh taken.model taken.now taken.trace verdict)
    (empty : taken.context = []) (outcome : taken.outcome = verdict.outcome write delay) : Finishes completion taken := by
  cases opening with
  | invalid invalid silent => exact .inl ⟨empty, silent, _, invalid, outcome⟩
  | uninspected valid inspected =>
    obtain ⟨ids, answer, calls, ⟨_, ⟨⟩, shows⟩ | ⟨_, ⟨⟩, _⟩⟩ := ends_inspect_delete valid inspected
    obtain ⟨error, rfl, present, rfl⟩ := Observation.shown_eq_error.mp shows
    exact .inr ⟨ids, _, calls, finishEnds_of_error present outcome⟩
  | alreadyGone valid inspected =>
    obtain ⟨ids, answer, calls, ⟨_, ⟨⟩, _⟩ | ⟨_, ⟨⟩, shows⟩⟩ := ends_inspect_delete valid inspected
    obtain ⟨error, rfl, missing⟩ := Observation.shown_eq_absent.mp shows
    exact .inr ⟨ids, _, calls, finishEnds_of_absent missing outcome⟩
  | missing _ _ needed => exact absurd rfl needed
  | refused _ _ _ refused => cases refused
  | @acted before after _ seen result valid inspected present _ started calls decided =>
    obtain ⟨ids, answer, looked, ⟨_, ⟨⟩, _⟩ | ⟨found, ⟨⟩, shows⟩⟩ := ends_inspect_delete valid inspected
    rcases found with job | _
    · obtain rfl := Observation.shown_eq_found.mp shows
      have started : (start completion .delete taken.model (some job)).Ends after result := started
      obtain ⟨rfl, ⟨ended, message, rfl⟩ | ⟨running, ids', message, rfl⟩⟩ := ends_start_delete valid started
      · rw [decided] at outcome
        exact .inr ⟨ids, _, calls.trans ((List.append_nil _).trans looked), finishEnds_of_over ended outcome⟩
      · rw [decided] at outcome
        exact .inr ⟨ids, _, calls.trans ((List.append_nil _).trans looked),
          finishEnds_of_running running outcome (absurd empty)⟩
    · exact absurd rfl present

theorem Finishes.of_resumption
    (resumption : (exportJobLifecycle completion .delete).Resumption settings continuation taken.model taken.now
      taken.trace verdict)
    (untimed : continuation.timing = none) (phase : continuation.phase = .deleting)
    (stands : write continuation = taken.context) (outcome : taken.outcome = verdict.outcome write delay) :
    Finishes completion taken := by
  cases resumption with
  | overrun late =>
    rw [Lifecycle.isLate_of_untimed untimed] at late
    cases late
  | unobserved _ observed =>
    obtain ⟨answer, calls, shows⟩ := ends_look observed
    obtain ⟨error, rfl, present, rfl⟩ := Observation.shown_eq_error.mp shows.symm
    exact .inr ⟨_, _, calls, finishEnds_of_error present outcome⟩
  | vanished _ _ needed =>
    rw [phase] at needed
    cases needed
  | faulty _ _ _ lost =>
    rw [phase] at lost
    cases lost
  | pending _ observed unreached =>
    obtain ⟨answer, calls, shows⟩ := ends_look observed
    obtain rfl := Observation.shown_eq_found.mp shows.symm
    rw [phase] at unreached
    exact .inr ⟨_, _, calls, finishEnds_of_running unreached outcome fun _ => stands⟩
  | @acted before after _ seen result _ observed due advanced calls decided =>
    obtain ⟨answer, looked, shows⟩ := ends_look observed
    rw [phase] at due advanced
    obtain ⟨rfl, rfl⟩ := Program.ends_done.mp advanced
    have calls : taken.trace = polled continuation.ids answer := calls.trans ((List.append_nil _).trans looked)
    rw [decided] at outcome
    rcases seen with job | _
    · obtain rfl := Observation.shown_eq_found.mp shows.symm
      exact .inr ⟨_, _, calls, finishEnds_of_over due outcome⟩
    · obtain ⟨error, rfl, missing⟩ := Observation.shown_eq_absent.mp shows.symm
      exact .inr ⟨_, _, calls, finishEnds_of_absent missing outcome⟩

/-- A step of a deletion only reads. -/
theorem Finishes.reads (finishes : Finishes completion taken) : Reads taken.trace := by
  rcases finishes with ⟨_, silent, _⟩ | ⟨ids, answer, calls, _⟩
  · simp [silent]
  · simp [calls, polled]

end ExportJobLifecycle

namespace Family
open ExportJobLifecycle

theorem exports_of_run (settings : Settings) {first : Taken ExportJobModel} {later : List (Taken ExportJobModel)}
    {next : Option Fields}
    (run : (exportJob.lifecycle settings .create).Run (settings.step .exportJob) .plain (first :: later) next) :
    Exports settings.completionState first later := by
  have keeps := keeps settings .create .exportJob
  obtain ⟨verdict, opening, outcome⟩ := keeps.opens run
  rw [← List.nil_append (first :: later)] at run
  have ended (error : ProvisionError) (fails : verdict = .fails error) : later = [] := by
    have left : Caller.plain.next first = none := by
      simp [Caller.next, outcome, fails, Verdict.outcome, Outcome.ofError]
    exact run.eq_nil_of_next left
  rcases ends_opening_create opening with ⟨invalid, silent, error, fails⟩ | ⟨valid, projectId, clusterName, request,
    created, calls, ⟨error, fails⟩ | ⟨job, continuation, message, rfl, rfl, exporting⟩⟩
  · exact .inl ⟨invalid, silent, ended error fails⟩
  · exact .inr ⟨valid, projectId, clusterName, request, created, calls, by simp [ended error fails]⟩
  · refine .inr ⟨valid, projectId, clusterName, request, _, calls, ?_⟩
    intro taken member
    -- from here on the creation waits for this job, which each step keeps
    obtain ⟨continuation, verdict, exporting, stands, moves, outcome⟩ :=
      keeps.exists_move_after (Caller.next_eq_some outcome) exporting
        (fun _ exporting moves => exporting.reread.step (moves.of_untimed exporting.untimed)) run member
    have same : (exportJob.lifecycle settings .create).write exportJob.idsRecord (continuation.reread id) = taken.context :=
      (Context.contextOf_reread rfl _).trans stands
    obtain ⟨answer, polls, ends⟩ := exporting.reread.poll (moves.of_untimed exporting.untimed) same outcome
    exact ⟨job, answer, rfl, polls, ends⟩

theorem finishes_of_run (settings : Settings) {caller : Caller} {steps : List (Taken ExportJobModel)}
    {next : Option Fields}
    (run : (exportJob.lifecycle settings .delete).Run (settings.step .exportJob) caller steps next) :
    ∀ taken ∈ steps, Finishes settings.completionState taken := by
  intro taken member
  obtain ⟨before, after, rfl⟩ := List.append_of_mem member
  have keeps := keeps settings .delete .exportJob
  have deletes := deletes settings .exportJob
  obtain ⟨stage, verdict, removes, stands, moves, outcome⟩ := keeps.exists_move deletes.invariant run
  cases stage with
  | unopened =>
    cases moves with
    | opened empty opening => exact .of_opening opening empty outcome
  | waiting continuation =>
    have kept := deletes.removes_reread removes
    have same : (exportJob.lifecycle settings .delete).write exportJob.idsRecord (continuation.reread exportJob.rereadIds) =
        taken.context := (Context.contextOf_reread rfl _).trans (Option.some.inj stands)
    exact .of_resumption (moves.of_removes removes) kept.untimed kept.sound same outcome
  | ended => cases stands

/-- Whatever models the steps are given and whatever state counts as complete: a creation exports a valid model with one
call and then polls the job that was created, each poll being decided by what it shows. A deletion only reads, and each
of its steps is decided by what it shows, so that it never fails for the state of a job. -/
theorem export_decided (settings : Settings) :
    (∀ (first : Taken ExportJobModel) (later : List (Taken ExportJobModel)) (next : Option Fields),
      (exportJob.lifecycle settings .create).Run (settings.step .exportJob) .plain (first :: later) next →
        Exports settings.completionState first later) ∧
    ∀ (caller : Caller) (steps : List (Taken ExportJobModel)) (next : Option Fields),
      (exportJob.lifecycle settings .delete).Run (settings.step .exportJob) caller steps next →
        Reads (traceOf steps) ∧ ∀ taken ∈ steps, Finishes settings.completionState taken := by
  refine ⟨fun _ _ _ run => exports_of_run settings run, ?_⟩
  intro caller steps next run
  have finishes := finishes_of_run settings run
  refine ⟨?_, finishes⟩
  intro answered called
  obtain ⟨taken, member, called⟩ := List.mem_flatMap.mp called
  exact (finishes taken member).reads answered called

end Family

/-- The export job in a state. -/
def exportJobIn (state : String) : RemoteExportJob where
  id := "e"
  state := state
  createdAt := some "2024-05-01T10:00:00Z"
  finishedAt := some "2024-05-01T10:30:00Z"

/-- The step that finds the export complete. -/
def exportCompleted : Taken ExportJobModel :=
  { exportVanished with
    trace := [⟨.control (.getExport "p" "c" "e"), .ok (exportJobIn "Successful")⟩]
    outcome := .success (some (ExportJobModel.merge {} (exportJobIn "Successful"))) ("Export job " ++ "e" ++ " completed") }

/-- The deletion of an export that was cancelled. -/
def exportDismissed : Taken ExportJobModel where
  fresh := .nil
  context := []
  model := { projectId := some "p", clusterName := some "c", exportId := some "e" }
  now := .epoch
  trace := [⟨.control (.getExport "p" "c" "e"), .ok (exportJobIn "Cancelled")⟩]
  outcome := .success none ("Export job " ++ "e" ++ " already " ++ "Cancelled")

theorem takes_exportCompleted :
    (Family.exportJob.lifecycle {} .create).Takes (Settings.step {} .exportJob) exportCompleted := by
  apply Lifecycle.takes_of_ends
  rw [exportCompleted, Lifecycle.tryStep, decode_exportVanished]
  exact .call (.note (.done _))

theorem takes_exportDismissed :
    (Family.exportJob.lifecycle {} .delete).Takes (Settings.step {} .exportJob) exportDismissed :=
  Lifecycle.takes_of_ends (.call (.done _))

/-- An export that is complete is reported as it is, and the deletion of one that was cancelled is done. -/
theorem export_decided_by_state :
    ExportJobLifecycle.Exports "Successful" exportCreated [exportCompleted] ∧
      Reads (traceOf [exportDismissed]) ∧ ExportJobLifecycle.Finishes "Successful" exportDismissed := by
  have created : (Family.exportJob.lifecycle {} .create).Run (Settings.step {} .exportJob) .plain
      ([exportCreated] ++ [exportCompleted]) (Caller.plain.next exportCompleted) :=
    .step (.step .start takes_exportCreated) takes_exportCompleted
  have dismissed : (Family.exportJob.lifecycle {} .delete).Run (Settings.step {} .exportJob) .plain [exportDismissed]
      (Caller.plain.next exportDismissed) := .step .start takes_exportDismissed
  obtain ⟨exports, deletions⟩ := Family.export_decided {}
  obtain ⟨reads, finishes⟩ := deletions _ _ _ dismissed
  exact ⟨exports _ _ _ created, reads, finishes exportDismissed List.mem_cons_self⟩

end Provisioner
