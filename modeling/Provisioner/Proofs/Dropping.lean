import Provisioner.Proofs.Deletion
import Provisioner.Proofs.Starting

/-!
# Waiting until a stream processor is gone

The deletion of a stream processor waits until the processor is gone or dropped, in whatever state it is polled, unless
it has failed: then the deletion fails too, although it was accepted (`PollEnds`). As long as no call is answered with
an error but that there is no such processor, this is the only way for it to fail after its model was found valid
(`Family.processor_awaited`).
-/
namespace Provisioner

/-- No call was answered with an error, except that something does not exist. -/
def OnlyMissing (trace : Trace Gateway) : Prop :=
  ∀ answered ∈ trace, ∀ error, answered.answer = .error error → error.isNotFound = true

@[simp] theorem onlyMissing_nil : OnlyMissing [] := by
  simp [OnlyMissing]

@[simp] theorem onlyMissing_cons {answered : Answered Gateway} {trace : Trace Gateway} :
    OnlyMissing (answered :: trace) ↔
      (∀ error, answered.answer = .error error → error.isNotFound = true) ∧ OnlyMissing trace := by
  simp [OnlyMissing]

@[simp] theorem onlyMissing_append {before after : Trace Gateway} :
    OnlyMissing (before ++ after) ↔ OnlyMissing before ∧ OnlyMissing after := by
  simp only [OnlyMissing, List.forall_mem_append]

namespace StreamProcessorLifecycle

/-- What a poll comes to that finds the processor in a state. -/
def PollEnds (context : Fields) (state : String) (outcome : Outcome StreamProcessorModel) : Prop :=
  if state = "DROPPED" then ∃ message, outcome = .success none message
  else if state = "FAILED" then outcome = .failed "Stream processor entered FAILED state" .remote false
  else ∃ delay message, outcome = .inProgress context delay message

theorem PollEnds.eq_failed {context : Fields} {state message : String} {category : ErrorCategory} {retryable : Bool}
    (ends : PollEnds context state (.failed message category retryable)) : state = "FAILED" := by
  unfold PollEnds at ends
  split at ends
  · obtain ⟨_, ⟨⟩⟩ := ends
  · split at ends
    · next failed => exact failed
    · obtain ⟨_, _, ⟨⟩⟩ := ends

/-! ## States -/

theorem isReached_deleting (remote : RemoteStreamProcessor) :
    isReached .deleting remote = decide (remote.state = "DROPPED") := by
  have dropped : remote.knownState? = some .dropped ↔ remote.state = "DROPPED" := knownState?_eq_some
  rw [isReached]
  split
  · next state known => simp [← dropped, known, awaitedStates]
  · next unknown => simp [← dropped, unknown]

theorem fault?_deleting (remote : RemoteStreamProcessor) :
    fault? .deleting remote = if remote.state = "FAILED" then some .processorFailed else none := by
  have failed : remote.knownState? = some .failed ↔ remote.state = "FAILED" := knownState?_eq_some
  unfold fault?
  by_cases lost : remote.state = "FAILED"
  · rw [if_pos lost, failed.mpr lost]
  · rw [if_neg lost]
    have other : remote.knownState? ≠ some .failed := fun known => lost (failed.mp known)
    generalize remote.knownState? = known at other ⊢
    rcases known with _ | state
    · rfl
    · cases state with
      | failed => exact absurd rfl other
      | _ => rfl

/-! ## The actions of a deletion -/

/-- The call that reads a stream processor, with its answer. -/
def polled (ids : StreamProcessorIds) (answer : Except GatewayError RemoteStreamProcessor) : Trace Gateway :=
  [⟨.control (.getProcessor ids.projectId ids.workspaceName ids.processorName), answer⟩]

/-- A look finds the processor, or that there is none. -/
theorem ends_look {ids : StreamProcessorIds} {trace : Trace Gateway}
    {seen : Except ProvisionError (Observation RemoteStreamProcessor)} (looked : (look ids).Ends trace seen)
    (missing : OnlyMissing trace) :
    (∃ remote, trace = polled ids (.ok remote) ∧ seen = .ok (.found remote)) ∨
      ∃ error, trace = polled ids (.error error) ∧ seen = .ok .absent := by
  obtain ⟨answer, rest, rfl, later⟩ := Program.ends_call.mp looked
  rcases answer with error | remote
  · have absent : error.isNotFound = true := (onlyMissing_cons.mp missing).1 error rfl
    have later : (Observation.ofAnswer (.error error) : Action (Observation RemoteStreamProcessor)).Ends rest seen :=
      later
    rw [Observation.ofAnswer, if_pos absent] at later
    obtain ⟨rfl, rfl⟩ := Program.ends_done.mp later
    exact .inr ⟨error, rfl, rfl⟩
  · obtain ⟨rfl, rfl⟩ := Program.ends_done.mp later
    exact .inl ⟨remote, rfl, rfl⟩

variable {budget : String} {model : StreamProcessorModel}

theorem ends_inspect {trace : Trace Gateway} {seen : Except ProvisionError (Option (Observation RemoteStreamProcessor))}
    (valid : validate .delete model = .ok ())
    (inspected : ((streamProcessorLifecycle budget .delete).inspect model).Ends trace seen)
    (missing : OnlyMissing trace) :
    ∃ ids, (∃ remote, trace = polled ids (.ok remote) ∧ seen = .ok (some (.found remote))) ∨
      ∃ error, trace = polled ids (.error error) ∧ seen = .ok (some .absent) := by
  obtain ⟨ids, known⟩ := exists_ids valid
  have inspected : (look ids >>= fun found => .done (some found)).Ends trace seen := by
    simpa [streamProcessorLifecycle, known] using inspected
  refine ⟨ids, ?_⟩
  rcases Program.ends_bind.mp inspected with ⟨error, failed, rfl⟩ | ⟨found, before, after, looked, later, rfl⟩
  · rcases ends_look failed missing with ⟨_, _, ⟨⟩⟩ | ⟨_, _, ⟨⟩⟩
  · obtain ⟨rfl, rfl⟩ := Program.ends_done.mp later
    rw [List.append_nil] at missing ⊢
    rcases ends_look looked missing with ⟨remote, rfl, ⟨⟩⟩ | ⟨error, rfl, ⟨⟩⟩
    · exact .inl ⟨remote, rfl, rfl⟩
    · exact .inr ⟨error, rfl, rfl⟩

/-- The call that deletes a stream processor, with its answer. -/
def deleted (ids : StreamProcessorIds) (answer : Except GatewayError Unit) : Trace Gateway :=
  [⟨.control (.deleteProcessor ids.projectId ids.workspaceName ids.processorName), answer⟩]

/-- Deleting the processor is accepted, or there is none. -/
theorem ends_start_delete {current : Option RemoteStreamProcessor} {trace : Trace Gateway}
    {result : Except ProvisionError (Transition StreamProcessorPhase StreamProcessorIds StreamProcessorModel)}
    (valid : validate .delete model = .ok ()) (started : (start .delete model current).Ends trace result)
    (missing : OnlyMissing trace) :
    ∃ ids message, (trace = deleted ids (.ok ()) ∧ result = .ok (.proceed .deleting ids message)) ∨
      ∃ error, trace = deleted ids (.error error) ∧ result = .ok (.complete none message) := by
  obtain ⟨ids, known⟩ := exists_ids valid
  rw [start, known] at started
  obtain ⟨answer, rest, rfl, later⟩ := Program.ends_call.mp (Program.ends_note.mp started)
  refine ⟨ids, ?_⟩
  rcases answer with error | _
  · have absent : error.isNotFound = true := (onlyMissing_cons.mp missing).1 error rfl
    have later : (if error.isNotFound then .done (.complete none "stream processor does not exist")
        else .fail (.gateway error) : Action (Transition StreamProcessorPhase StreamProcessorIds _)).Ends rest result :=
      later
    rw [if_pos absent] at later
    obtain ⟨rfl, rfl⟩ := Program.ends_done.mp later
    exact ⟨_, .inr ⟨error, rfl, rfl⟩⟩
  · obtain ⟨rfl, rfl⟩ := Program.ends_done.mp later
    exact ⟨_, .inl ⟨rfl, rfl⟩⟩

/-! ## The steps of a deletion -/

/-- What a step of a deletion does: its calls, and what it comes to. -/
inductive Drop (taken : Taken StreamProcessorModel) : Prop where
  /-- The model makes no sense. -/
  | refused {error : ProvisionError} (empty : taken.context = [])
    (invalid : validate .delete taken.model = .error error) (silent : taken.trace = []) : Drop taken
  /-- The deletion is accepted. -/
  | accepted {ids ids' : StreamProcessorIds} {remote : RemoteStreamProcessor} {context : Fields} {delay : Duration}
    {message : String} (empty : taken.context = [])
    (calls : taken.trace = polled ids (.ok remote) ++ deleted ids' (.ok ()))
    (waits : taken.outcome = .inProgress context delay message) : Drop taken
  /-- There is no processor, which shows in the last answer. -/
  | missed {before : Trace Gateway} {c : Call} {error : GatewayError} {message : String}
    (alone : taken.context = [] ∨ before = []) (calls : taken.trace = before ++ [⟨c, .error error⟩])
    (succeeds : taken.outcome = .success none message) : Drop taken
  /-- The processor is still there. -/
  | found {ids : StreamProcessorIds} {remote : RemoteStreamProcessor} (waiting : taken.context ≠ [])
    (calls : taken.trace = polled ids (.ok remote))
    (ends : PollEnds taken.context remote.state taken.outcome) : Drop taken

section
variable {settings : StepSettings} {taken : Taken StreamProcessorModel}
  {verdict : Verdict StreamProcessorPhase StreamProcessorIds StreamProcessorModel}

theorem Drop.of_opening
    (opening : (streamProcessorLifecycle budget .delete).Opening taken.fresh taken.model taken.now taken.trace verdict)
    (empty : taken.context = []) (missing : OnlyMissing taken.trace)
    {write : Continuation StreamProcessorPhase StreamProcessorIds → Fields} {delay : Duration}
    (outcome : taken.outcome = verdict.outcome write delay) : Drop taken := by
  cases opening with
  | invalid invalid silent => exact .refused empty invalid silent
  | uninspected valid inspected =>
    obtain ⟨_, ⟨_, _, ⟨⟩⟩ | ⟨_, _, ⟨⟩⟩⟩ := ends_inspect valid inspected missing
  | alreadyGone valid inspected =>
    obtain ⟨ids, ⟨_, _, ⟨⟩⟩ | ⟨error, calls, _⟩⟩ := ends_inspect valid inspected missing
    exact .missed (.inl empty) (calls.trans (List.nil_append _).symm) outcome
  | missing _ _ needed => exact absurd rfl needed
  | refused _ _ _ refused => cases refused
  | @acted before after _ seen result valid inspected present _ started calls decided =>
    have started : (start .delete taken.model (seen.bind Observation.remote?)).Ends after result := started
    rw [calls, onlyMissing_append] at missing
    obtain ⟨ids, ⟨remote, looked, _⟩ | ⟨_, _, ⟨⟩⟩⟩ := ends_inspect valid inspected missing.1
    · rw [decided] at outcome
      obtain ⟨ids', message, ⟨asked, rfl⟩ | ⟨error, asked, rfl⟩⟩ := ends_start_delete valid started missing.2
      · exact .accepted empty (by rw [calls, looked, asked]) outcome
      · exact .missed (.inl empty) (by rw [calls, asked]; rfl) outcome
    · exact absurd rfl present

theorem Drop.of_resumption {continuation : Continuation StreamProcessorPhase StreamProcessorIds}
    (resumption : (streamProcessorLifecycle budget .delete).Resumption settings continuation taken.model taken.now
      taken.trace verdict)
    (untimed : continuation.timing = none) (phase : continuation.phase = .deleting) (missing : OnlyMissing taken.trace)
    {write : Continuation StreamProcessorPhase StreamProcessorIds → Fields} {delay : Duration}
    (waiting : taken.context ≠ []) (stands : write continuation = taken.context)
    (outcome : taken.outcome = verdict.outcome write delay) : Drop taken := by
  -- both what is reached and what is a fault depend on the state alone, because the phase is known
  cases resumption with
  | overrun late =>
    rw [Lifecycle.isLate_of_untimed untimed] at late
    cases late
  | unobserved _ observed => obtain (⟨_, _, ⟨⟩⟩ | ⟨_, _, ⟨⟩⟩) := ends_look observed missing
  | vanished _ _ needed =>
    rw [phase] at needed
    cases needed
  | @faulty remote fault _ observed unreached lost =>
    obtain (⟨_, calls, ⟨⟩⟩ | ⟨_, _, ⟨⟩⟩) := ends_look observed missing
    rw [phase] at unreached lost
    have unreached : isReached .deleting remote = false := unreached
    have lost : fault? .deleting remote = some fault := lost
    rw [isReached_deleting, decide_eq_false_iff_not] at unreached
    rw [fault?_deleting, Option.ite_none_right_eq_some] at lost
    obtain ⟨failed, ⟨⟩⟩ := lost
    refine .found waiting calls ?_
    rw [PollEnds, if_neg unreached, if_pos failed]
    exact outcome
  | @pending remote _ observed unreached sound =>
    obtain (⟨_, calls, ⟨⟩⟩ | ⟨_, _, ⟨⟩⟩) := ends_look observed missing
    rw [phase] at unreached sound
    have unreached : isReached .deleting remote = false := unreached
    have sound : fault? .deleting remote = none := sound
    rw [isReached_deleting, decide_eq_false_iff_not] at unreached
    rw [fault?_deleting, ite_eq_right_iff] at sound
    refine .found waiting calls ?_
    rw [PollEnds, if_neg unreached, if_neg (fun failed => by cases sound failed), ← stands]
    exact ⟨_, _, outcome⟩
  | @acted before after _ seen result _ observed due advanced calls decided =>
    rw [calls, onlyMissing_append] at missing
    obtain (⟨remote, looked, ⟨⟩⟩ | ⟨error, looked, ⟨⟩⟩) := ends_look observed missing.1
    · rw [phase] at due advanced
      have due : isReached .deleting remote = true := due
      rw [isReached_deleting, decide_eq_true_eq] at due
      obtain ⟨rfl, rfl⟩ := Program.ends_done.mp advanced
      refine .found waiting (calls.trans ((List.append_nil _).trans looked)) ?_
      rw [PollEnds, if_pos due]
      exact ⟨_, by rw [outcome, decided]; rfl⟩
    · obtain ⟨rfl, rfl⟩ := Program.ends_done.mp advanced
      rw [decided] at outcome
      exact .missed (.inr rfl) (calls.trans ((List.append_nil _).trans (looked.trans (List.nil_append _).symm))) outcome

end

/-! ## What a step of a deletion comes to -/

section
variable {taken : Taken StreamProcessorModel}

/-- A step that fails had no valid model, or found that the processor has failed. -/
theorem Drop.of_failed {message : String} {category : ErrorCategory} {retryable : Bool} (drop : Drop taken)
    (failed : taken.outcome = .failed message category retryable) :
    (taken.context = [] ∧ ∃ error, validate .delete taken.model = .error error) ∨
      (taken.context ≠ [] ∧ ∃ ids remote, taken.trace = polled ids (.ok remote) ∧ remote.state = "FAILED") := by
  cases drop with
  | refused empty invalid => exact .inl ⟨empty, _, invalid⟩
  | accepted _ _ waits =>
    rw [failed] at waits
    cases waits
  | missed _ _ succeeds =>
    rw [failed] at succeeds
    cases succeeds
  | found waiting calls ends =>
    rw [failed] at ends
    exact .inr ⟨waiting, _, _, calls, ends.eq_failed⟩

theorem Drop.pollEnds {project workspace name : String} {remote : RemoteStreamProcessor} (drop : Drop taken)
    (waiting : taken.context ≠ [])
    (found : ⟨.control (.getProcessor project workspace name), .ok remote⟩ ∈ taken.trace) :
    PollEnds taken.context remote.state taken.outcome := by
  cases drop with
  | refused empty | accepted empty => exact absurd empty waiting
  | missed alone calls =>
    obtain rfl := alone.resolve_left waiting
    rw [calls] at found
    cases List.mem_singleton.mp found
  | found _ calls ends =>
    rw [calls] at found
    cases List.mem_singleton.mp found
    exact ends

/-- Only what is missing is answered with an error, and then the deletion is done. -/
theorem Drop.succeeds {answered : Answered Gateway} {error : GatewayError} (drop : Drop taken)
    (member : answered ∈ taken.trace) (wrong : answered.answer = .error error) :
    ∃ message, taken.outcome = .success none message := by
  cases drop with
  | refused _ _ silent =>
    rw [silent] at member
    cases member
  | accepted _ calls =>
    rw [calls] at member
    rcases List.mem_pair.mp member with rfl | rfl <;> cases wrong
  | missed _ _ succeeds => exact ⟨_, succeeds⟩
  | found _ calls =>
    rw [calls] at member
    cases List.mem_singleton.mp member
    cases wrong

end

end StreamProcessorLifecycle

namespace Family
open StreamProcessorLifecycle

/-- Every step of a deletion that gets no errors but those is such a step. -/
theorem drop_of_run (settings : Settings) {caller : Caller} {before after : List (Taken StreamProcessorModel)}
    {taken : Taken StreamProcessorModel} {next : Option Fields}
    (run : (streamProcessor.lifecycle settings .delete).Run (settings.step .streamProcessor) caller
      (before ++ taken :: after) next) (missing : OnlyMissing taken.trace) : Drop taken := by
  have keeps := keeps settings .delete .streamProcessor
  have deletes := deletes settings .streamProcessor
  obtain ⟨stage, verdict, removes, stands, moves, outcome⟩ := keeps.exists_move deletes.invariant run
  cases stage with
  | unopened =>
    cases moves with
    | opened empty opening => exact .of_opening opening empty missing outcome
  | waiting continuation =>
    let write := (streamProcessor.lifecycle settings .delete).write streamProcessor.idsRecord
    have context : write continuation = taken.context := Option.some.inj stands
    have same : write (continuation.reread streamProcessor.rereadIds) = write continuation :=
      Context.contextOf_reread rfl _
    have waiting : taken.context ≠ [] := by
      rw [← context]
      exact keeps.write_ne_nil continuation
    have kept := deletes.removes_reread removes
    exact .of_resumption (moves.of_removes removes) kept.untimed kept.sound missing waiting (same.trans context) outcome
  | ended => cases stands

/-- As long as no call of a deletion is answered with an error but that there is no such processor, its steps do not
fail once the model was found valid, except where a poll finds that the processor has failed. A poll that finds it in
any other state leaves the context as it is, or succeeds if the processor was dropped, and whichever call finds no
processor is the last of a deletion that succeeds. -/
theorem processor_awaited (settings : Settings) {caller : Caller} {before after : List (Taken StreamProcessorModel)}
    {taken : Taken StreamProcessorModel} {next : Option Fields}
    (run : (streamProcessor.lifecycle settings .delete).Run (settings.step .streamProcessor) caller
      (before ++ taken :: after) next) (missing : OnlyMissing taken.trace) :
    (∀ message category retryable, taken.outcome = .failed message category retryable →
      (taken.context = [] ∧ ∃ error,
        (streamProcessor.lifecycle settings .delete).validate taken.model = .error error) ∨
      (taken.context ≠ [] ∧ ∃ ids remote, taken.trace = polled ids (.ok remote) ∧ remote.state = "FAILED")) ∧
    (∀ project workspace name remote, taken.context ≠ [] →
      ⟨.control (.getProcessor project workspace name), .ok remote⟩ ∈ taken.trace →
        PollEnds taken.context remote.state taken.outcome) ∧
    ∀ answered ∈ taken.trace, ∀ error, answered.answer = .error error →
      ∃ message, taken.outcome = .success none message := by
  have drop := drop_of_run settings run missing
  exact ⟨fun _ _ _ failed => drop.of_failed failed, fun _ _ _ _ waiting found => drop.pollEnds waiting found,
    fun _ member _ wrong => drop.succeeds member wrong⟩

end Family

def droppedModel : StreamProcessorModel where
  projectId := some "p"
  workspaceName := some "w"
  processorName := some "n"

/-- The operation that waits until it is gone. -/
def droppedWaiting : Continuation StreamProcessorPhase StreamProcessorIds where
  operationId := .nil
  phase := .deleting
  ids := { projectId := "p", workspaceName := "w", processorName := "n" }
  timing := none

def droppedContext : Fields :=
  (Family.streamProcessor.lifecycle {} .delete).write Family.streamProcessor.idsRecord droppedWaiting

def droppedRemote (state : String) : RemoteStreamProcessor where
  name := "n"
  state := state

/-- The first step requests the deletion. -/
def droppedRequested : Taken StreamProcessorModel where
  fresh := .nil
  context := []
  model := droppedModel
  now := .epoch
  trace := [⟨.control (.getProcessor "p" "w" "n"), .ok (droppedRemote "FAILED")⟩,
    ⟨.control (.deleteProcessor "p" "w" "n"), .ok ()⟩]
  outcome := .inProgress droppedContext (.ofSeconds 3) "Stream processor deletion requested"

/-- A later step finds the processor in a state. -/
def droppedPolled (state : String) (outcome : Outcome StreamProcessorModel) : Taken StreamProcessorModel where
  fresh := .nil
  context := droppedContext
  model := droppedModel
  now := .epoch
  trace := [⟨.control (.getProcessor "p" "w" "n"), .ok (droppedRemote state)⟩]
  outcome := outcome

/-- A state that has no name here is waited for. -/
def droppedAwaited : Taken StreamProcessorModel :=
  droppedPolled "PAUSED" (.inProgress droppedContext (.ofSeconds 3) "stream processor deletion in progress (DELETING)")

/-- The processor is still there as it was. -/
def droppedLost : Taken StreamProcessorModel :=
  droppedPolled "FAILED" (.failed "Stream processor entered FAILED state" .remote false)

theorem takes_droppedRequested :
    (Family.streamProcessor.lifecycle {} .delete).Takes (Settings.step {} .streamProcessor) droppedRequested := by
  refine Lifecycle.takes_of_ends (.call (.note (.call (.note ?_))))
  exact (Family.streamProcessor.keeps {} .delete).ends_waiting droppedWaiting _

theorem decode_droppedContext :
    Context.decode (Family.streamProcessor.lifecycle {} .delete).target
      (Family.streamProcessor.lifecycle {} .delete).ids droppedContext = .ok (some droppedWaiting) :=
  (Family.streamProcessor.keeps {} .delete).decode_write (show droppedWaiting.HasPlainStart by rintro _ ⟨⟩)

theorem takes_droppedAwaited :
    (Family.streamProcessor.lifecycle {} .delete).Takes (Settings.step {} .streamProcessor) droppedAwaited := by
  apply Lifecycle.takes_of_ends
  rw [droppedAwaited, droppedPolled, Lifecycle.tryStep, decode_droppedContext]
  refine .call ?_
  exact (Family.streamProcessor.keeps {} .delete).ends_waiting droppedWaiting _

theorem takes_droppedLost :
    (Family.streamProcessor.lifecycle {} .delete).Takes (Settings.step {} .streamProcessor) droppedLost := by
  refine Lifecycle.takes_of_fails (.remoteFailure .processorFailed) ?_ rfl
  rw [droppedLost, droppedPolled, Lifecycle.tryStep, decode_droppedContext]
  exact .call (.fail _)

/-- The deletion goes on where it was. -/
theorem dropped_awaited :
    OnlyMissing droppedAwaited.trace ∧
      ∃ delay message, droppedAwaited.outcome = .inProgress droppedContext delay message := by
  have run : (Family.streamProcessor.lifecycle {} .delete).Run (Settings.step {} .streamProcessor) .plain
      ([droppedRequested] ++ [droppedAwaited]) (Caller.plain.next droppedAwaited) :=
    .step (.step .start takes_droppedRequested) takes_droppedAwaited
  have missing : OnlyMissing droppedAwaited.trace := by simp [droppedAwaited, droppedPolled]
  obtain ⟨_, ends, _⟩ := Family.processor_awaited {} run missing
  have waiting : droppedAwaited.context ≠ [] := (Family.streamProcessor.keeps {} .delete).write_ne_nil droppedWaiting
  have ends := ends "p" "w" "n" (droppedRemote "PAUSED") waiting List.mem_cons_self
  rw [StreamProcessorLifecycle.PollEnds, if_neg (by decide), if_neg (by decide)] at ends
  exact ⟨missing, ends⟩

/-- The deletion of a processor that has failed fails although it was accepted. -/
theorem dropped_lost :
    (Family.streamProcessor.lifecycle {} .delete).Run (Settings.step {} .streamProcessor) .plain
        ([droppedRequested] ++ [droppedLost]) none ∧
      OnlyMissing (traceOf ([droppedRequested] ++ [droppedLost])) ∧
      droppedLost.outcome = .failed "Stream processor entered FAILED state" .remote false := by
  refine ⟨.step (.step .start takes_droppedRequested) takes_droppedLost, ?_, rfl⟩
  simp [droppedRequested, droppedLost, droppedPolled]

end Provisioner
