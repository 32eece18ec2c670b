import Provisioner.Proofs.Account
import Provisioner.Proofs.Pattern
import Provisioner.Proofs.Timeout

/-!
# Starting stream processors

A stream processor that is created is looked at until it exists, and one that is changed is stopped before, if it runs;
then it is started, if it is to run and does not (`starting`). When it is stopped, changed and started is said by
`Allows` and `Prompt`. Whether it is to run is decided in the first step and remembered in all phases (`Awaits`), and
when it is, it does in the end (`Family.processor_started_in_order`).
-/
namespace Provisioner
open Pattern

namespace StreamProcessorLifecycle

/-- The calls that create or change a stream processor, in order. -/
def starting : Operation → Language String
  | .create =>
    once "create_processor" * many "get_processor" * maybe (once "start_processor" * many "get_processor") *
      maybe (once "delete_processor")
  | .update =>
    once "get_processor" * maybe (once "stop_processor" * many "get_processor") * once "update_processor" *
      many "get_processor" * maybe (once "start_processor" * many "get_processor")
  | .delete => 0

/-- The calls up to a phase. -/
def startingUpTo : Operation → StreamProcessorPhase → Language String
  | .create, .creating => once "create_processor" * many "get_processor"
  | .create, .starting =>
    once "create_processor" * many "get_processor" * once "start_processor" * many "get_processor"
  | .update, .stopping => once "get_processor" * once "stop_processor" * many "get_processor"
  | .update, .updating =>
    once "get_processor" * maybe (once "stop_processor" * many "get_processor") * once "update_processor" *
      many "get_processor"
  | .update, .starting =>
    once "get_processor" * maybe (once "stop_processor" * many "get_processor") * once "update_processor" *
      many "get_processor" * once "start_processor" * many "get_processor"
  | _, _ => 0

/-- The last call found the stream processor, not running. -/
def FoundIdle (trace : Trace Gateway) : Prop :=
  ∃ earlier project workspace name remote,
    trace = earlier ++ [⟨.control (.getProcessor project workspace name), .ok remote⟩] ∧ remote.state ≠ "STARTED"

/-- The stream processor runs, and may go over to the state that a model plans. -/
def MustStop (model : StreamProcessorModel) (remote : RemoteStreamProcessor) : Prop :=
  remote.state = "STARTED" ∧ ∃ planned, plannedState model = .ok planned ∧ checkTransition remote.state planned = .ok ()

/-- When the calls that change a stream processor are made. -/
def Allows (operation : Operation) (model : StreamProcessorModel) (before : Trace Gateway) : Call → Prop
  | .control (.stopProcessor ..) =>
    operation = .update ∧ ∃ project workspace name remote,
      before = [⟨.control (.getProcessor project workspace name), .ok remote⟩] ∧ MustStop model remote
  | .control (.updateProcessor ..) => FoundIdle before
  | .control (.startProcessor ..) =>
    plannedState model = .ok .started ∧ "start_processor" ∉ callKinds before ∧ FoundIdle before
  | _ => True

/-- A stream processor that must be stopped before it is changed is stopped right after the first look at it. -/
def Prompt (operation : Operation) (model : StreamProcessorModel) (trace : Trace Gateway) : Prop :=
  ∀ project workspace name remote rest, operation = .update →
    trace = ⟨.control (.getProcessor project workspace name), .ok remote⟩ :: rest → MustStop model remote →
    ∃ project workspace name answer rest', rest = ⟨.control (.stopProcessor project workspace name), answer⟩ :: rest'

/-- What was done and is remembered in a phase. -/
structure Awaits (operation : Operation) (model : StreamProcessorModel) (past : Trace Gateway)
    (phase : StreamProcessorPhase) (ids : StreamProcessorIds) : Prop where
  begun : past ≠ []
  makes : Makes (startingUpTo operation phase) past
  planned : ids.needsStarting = true ↔ plannedState model = .ok .started
  unstarted : phase ≠ .starting → "start_processor" ∉ callKinds past

/-- Where a model plans that a stream processor runs, it does. -/
def Runs (model : StreamProcessorModel) (result : Option StreamProcessorModel) : Prop :=
  plannedState model = .ok .started → ∃ running, result = some running ∧ running.state = some "STARTED"

/-- What is told of creating or changing a stream processor. -/
def running (operation : Operation) (model : StreamProcessorModel) :
    Account StreamProcessorModel StreamProcessorPhase StreamProcessorIds where
  calls trace := Follows (starting operation) trace ∧ Guarded (Allows operation model) trace ∧ Prompt operation model trace
  waits := Awaits operation model
  succeeds _ := Runs model

variable {operation : Operation} {model : StreamProcessorModel} {past : Trace Gateway} {phase : StreamProcessorPhase}
  {ids : StreamProcessorIds}

theorem allows_of_reads (before : Trace Gateway) (c : Call) (reads : c.isMutating = false) :
    Allows operation model before c := by
  unfold Allows
  split
  · cases reads
  · cases reads
  · cases reads
  · trivial

theorem follows_nil_starting (changes : operation ≠ .delete) : Follows (starting operation) [] := by
  unfold starting
  cases operation with
  | create | update => exact follows_nil
  | delete => exact absurd rfl changes

/-- While a stream processor is created, it may have been started. -/
theorem makes_created (makes : Makes (startingUpTo .create phase) past) :
    Makes (once "create_processor" * many "get_processor" * maybe (once "start_processor" * many "get_processor")) past := by
  cases phase with
  | creating => exact makes.skip
  | starting =>
    rw [startingUpTo, mul_assoc (_ * many _)] at makes
    exact makes.take
  | stopping | updating | deleting => exact makes.elim

theorem follows_of_upTo (makes : Makes (startingUpTo operation phase) past) : Follows (starting operation) past := by
  cases operation with
  | create => exact (makes_created makes).follows.mul
  | update =>
    cases phase with
    | stopping =>
      rw [startingUpTo, mul_assoc] at makes
      exact makes.take.follows.mul.mul.mul
    | updating => exact makes.follows.mul
    | starting =>
      rw [startingUpTo, mul_assoc (_ * many _)] at makes
      exact makes.take.follows
    | creating | deleting => exact makes.elim
  | delete => cases phase <;> exact makes.elim

/-! ## States -/

instance : Tagged.Distinct StreamProcessorState where
  ofTag?_tag state := by cases state <;> decide

/-- A known state is known by its tag. -/
theorem knownState?_eq_some {remote : RemoteStreamProcessor} {state : StreamProcessorState} :
    remote.knownState? = some state ↔ remote.state = state.tag := by
  constructor
  · intro known
    exact (Tagged.tag_of_ofTag? known).symm
  · intro same
    rw [RemoteStreamProcessor.knownState?, same]
    exact Tagged.Distinct.ofTag?_tag state

theorem knownState?_eq_started {remote : RemoteStreamProcessor} :
    remote.knownState? = some .started ↔ remote.state = "STARTED" :=
  knownState?_eq_some

/-- A stream processor that has stopped does not run. -/
theorem ne_started_of_stopped {remote : RemoteStreamProcessor} (reached : isReached .stopping remote = true) :
    remote.state ≠ "STARTED" := by
  intro runs
  simp [isReached, knownState?_eq_started.mpr runs, awaitedStates] at reached

theorem started_of_reached {remote : RemoteStreamProcessor} (reached : isReached .starting remote = true) :
    remote.state = "STARTED" := by
  rw [isReached] at reached
  split at reached
  · next state known =>
    obtain rfl : state = .started := by simpa [awaitedStates] using reached
    exact knownState?_eq_started.mp known
  · cases reached

@[simp] theorem state_merge (model : StreamProcessorModel) (remote : RemoteStreamProcessor) :
    (model.merge remote).state = some remote.state := by
  rw [StreamProcessorModel.merge, StreamProcessorModel.withWorkspace]
  split <;> rfl

/-! ## The actions -/

theorem polls_look (ids : StreamProcessorIds) : (look ids).Always fun trace _ => Polls "get_processor" trace := by
  simp [look, Polls, Observation.ofAnswer]

theorem always_look (ids : StreamProcessorIds) : (look ids).Always fun trace result =>
    ∀ remote, result = .ok (.found remote) →
      trace = [⟨.control (.getProcessor ids.projectId ids.workspaceName ids.processorName), .ok remote⟩] := by
  simp [look, Observation.ofAnswer]

section
variable {current : Option RemoteStreamProcessor} {remote : RemoteStreamProcessor} {after : Trace Gateway}
  {result : Except ProvisionError (Transition StreamProcessorPhase StreamProcessorIds StreamProcessorModel)}

theorem ends_start_create (ends : (start .create model current).Ends after result) : FailsSilently after result ∨
    ∃ (ids : StreamProcessorIds) (planned : StreamProcessorState) (request : StreamProcessorRequest),
      plannedState model = .ok planned ∧ ids.needsStarting = decide (planned = .started) ∧
      CallsOnce (.control (.createProcessor ids.projectId ids.workspaceName request))
        (fun _ => .proceed .creating ids "Stream processor creation requested") after result := by
  rcases failsSilently_or_lift ends with fails | ⟨ids, known, later⟩
  · exact .inl fails
  rcases failsSilently_or_lift later with fails | ⟨planned, decided, later⟩
  · exact .inl fails
  rcases failsSilently_or_lift (Program.ends_note.mp later) with fails | ⟨request, requested, later⟩
  · exact .inl fails
  · exact .inr ⟨{ ids with needsStarting := planned = .started }, planned, request, decided, rfl, callsOnce_ask later⟩

theorem ends_change (ends : (change ids model).Ends after result) : FailsSilently after result ∨
    ∃ request, CallsOnce (.control (.updateProcessor ids.projectId ids.workspaceName ids.processorName request))
      (fun _ => .proceed .updating ids "Stream processor update requested") after result := by
  rcases failsSilently_or_lift (Program.ends_note.mp ends) with fails | ⟨request, requested, later⟩
  · exact .inl fails
  · exact .inr ⟨request, callsOnce_ask later⟩

theorem ends_startUp (ends : (startUp ids).Ends after result) :
    CallsOnce (.control (.startProcessor ids.projectId ids.workspaceName ids.processorName))
      (fun _ => .proceed .starting ids "Stream processor start requested") after result :=
  callsOnce_ask (Program.ends_note.mp ends)

/-- A valid model has identifiers and plans a state. -/
theorem exists_of_valid_update (valid : validate .update model = .ok ()) :
    ∃ ids planned, StreamProcessorIds.ofModel model = .ok ids ∧ plannedState model = .ok planned := by
  simp only [validate, bind_eq_ok] at valid
  obtain ⟨ids, known, planned, decided, _⟩ := valid
  exact ⟨ids, planned, known, decided⟩

/-- A stream processor that runs is stopped, another one is changed right away. -/
theorem ends_start_update (valid : validate .update model = .ok ())
    (ends : (start .update model (some remote)).Ends after result) : ∃ ids planned, plannedState model = .ok planned ∧
      ids.needsStarting = decide (planned = .started) ∧
      ((remote.state = "STARTED" ∧
        CallsOnce (.control (.stopProcessor ids.projectId ids.workspaceName ids.processorName))
          (fun _ => .proceed .stopping ids "Stream processor stop requested") after result) ∨
      (remote.state ≠ "STARTED" ∧ (change ids model).Ends after result)) := by
  obtain ⟨ids, planned, known, decided⟩ := exists_of_valid_update valid
  refine ⟨{ ids with needsStarting := planned = .started }, planned, decided, rfl, ?_⟩
  simp only [start, known, decided, Program.lift_ok_bind, Option.bind_some, knownState?_eq_started] at ends
  split at ends
  · next runs => exact .inl ⟨runs, callsOnce_ask (Program.ends_note.mp ends)⟩
  · next idle => exact .inr ⟨idle, ends⟩

/-- Once a phase is reached, the stream processor is started if that is still to be done; else one that has stopped is
changed, and any other is ready. -/
theorem ends_advance (alive : phase ≠ .deleting) (ends : (advance phase ids model (some remote)).Ends after result) :
    (mustStart phase ids remote = true ∧ (startUp ids).Ends after result) ∨
      mustStart phase ids remote = false ∧
        ((phase = .stopping ∧ (change ids model).Ends after result) ∨
          phase ≠ .stopping ∧ after = [] ∧ ∃ message, result = .ok (.complete (some (model.merge remote)) message)) := by
  unfold advance at ends
  dsimp only at ends
  split at ends
  · next must => exact .inl ⟨must, ends⟩
  · next done =>
    refine .inr ⟨by simpa using done, ?_⟩
    cases phase with
    | stopping => exact .inl ⟨rfl, ends⟩
    | deleting => exact absurd rfl alive
    | creating | updating | starting =>
      obtain ⟨rfl, rfl⟩ := Program.ends_done.mp ends
      exact .inr ⟨nofun, rfl, _, rfl⟩

end

/-! ## A start in order -/

/-- What is remembered says whether the stream processor is to run. -/
theorem needsStarting_iff {planned : StreamProcessorState} (decided : plannedState model = .ok planned)
    (flag : ids.needsStarting = decide (planned = .started)) :
    ids.needsStarting = true ↔ plannedState model = .ok .started := by
  rw [flag, decided, decide_eq_true_iff, Except.ok.injEq]

theorem Prompt.append (prompt : Prompt operation model past) (begun : past ≠ []) (after : Trace Gateway) :
    Prompt operation model (past ++ after) := by
  obtain ⟨first, rest, rfl⟩ := List.exists_cons_of_ne_nil begun
  intro project workspace name remote later updates same must
  obtain ⟨rfl, rfl⟩ := List.cons.inj same
  obtain ⟨project, workspace, name, answer, rest', rfl⟩ := prompt _ _ _ remote rest updates rfl must
  exact ⟨project, workspace, name, answer, rest' ++ after, rfl⟩

theorem prompt_of_create (trace : Trace Gateway) : Prompt .create model trace := by
  rintro _ _ _ _ _ ⟨⟩

theorem makes_starting {answered : Answered Gateway} (early : phase = .creating ∨ phase = .updating)
    (makes : Makes (startingUpTo operation phase) past) (same : answered.call.kind = "start_processor") :
    Makes (startingUpTo operation .starting) (past ++ [answered]) := by
  rcases early with rfl | rfl
  · cases operation with
    | create => exact makes.enter same
    | update | delete => exact makes.elim
  · cases operation with
    | update => exact makes.enter same
    | create | delete => exact makes.elim

/-- Looking does nothing. -/
theorem Awaits.poll {look : Trace Gateway} (waits : Awaits operation model past phase ids)
    (polls : Polls "get_processor" look) : Awaits operation model (past ++ look) phase ids where
  begun := by simp [waits.begun]
  makes := by
    have makes := waits.makes
    cases operation with
    | create =>
      cases phase with
      | creating | starting => exact makes.poll polls
      | stopping | updating | deleting => exact makes.elim
    | update =>
      cases phase with
      | stopping | updating | starting => exact makes.poll polls
      | creating | deleting => exact makes.elim
    | delete => cases phase <;> exact makes.elim
  planned := waits.planned
  unstarted other := notMem_callKinds_poll (waits.unstarted other) polls (by decide)

section
variable {remote : RemoteStreamProcessor} {after : Trace Gateway} {project workspace name : String}
  {result : Except ProvisionError (Transition StreamProcessorPhase StreamProcessorIds StreamProcessorModel)}

theorem acts_create (ends : (start .create model none).Ends after result) : (running .create model).Acts [] after result := by
  rcases ends_start_create ends with fails | ⟨ids, planned, request, decided, flag, called⟩
  · exact Account.acts_of_failsSilently ⟨follows_nil_starting nofun, guarded_nil, prompt_of_create []⟩ fails
  · have makes (answer : Except GatewayError RemoteStreamProcessor) : Makes (startingUpTo .create .creating)
        [⟨.control (.createProcessor ids.projectId ids.workspaceName request), answer⟩] := Makes.wait (makes_once rfl)
    refine Account.acts_of_callsOnce called ?_ ?_
    · intro answer
      exact ⟨follows_of_upTo (makes answer), guarded_concat.mpr ⟨guarded_nil, trivial⟩, prompt_of_create _⟩
    · intro created _
      exact ⟨by simp, makes _, needsStarting_iff decided flag, by simp⟩

/-- A stream processor that runs is stopped before it is changed. -/
theorem acts_stop {look : Trace Gateway} {planned : StreamProcessorState}
    (seen : look = [⟨.control (.getProcessor project workspace name), .ok remote⟩]) (must : MustStop model remote)
    (decided : plannedState model = .ok planned) (flag : ids.needsStarting = decide (planned = .started))
    (called : CallsOnce (.control (.stopProcessor ids.projectId ids.workspaceName ids.processorName))
      (fun _ => .proceed .stopping ids "Stream processor stop requested") after result) :
    (running .update model).Acts look after result := by
  have makes (answer : Except GatewayError Unit) : Makes (startingUpTo .update .stopping)
      (look ++ [⟨.control (.stopProcessor ids.projectId ids.workspaceName ids.processorName), answer⟩]) := by
    have looked : Makes (once "get_processor") look := by
      rw [seen]
      exact makes_once rfl
    exact looked.enter rfl
  have guarded : Guarded (Allows .update model) look := by
    rw [seen]
    exact guarded_concat.mpr ⟨guarded_nil, trivial⟩
  refine Account.acts_of_callsOnce called ?_ ?_
  · intro answer
    refine ⟨follows_of_upTo (makes answer), guarded_concat.mpr ⟨guarded, ?_⟩, ?_⟩
    · exact ⟨rfl, project, workspace, name, remote, seen, must⟩
    · rw [seen]
      rintro _ _ _ _ _ _ ⟨⟩ _
      exact ⟨_, _, _, _, [], rfl⟩
  · intro stopped _
    exact ⟨by simp, makes _, needsStarting_iff decided flag, by simp [seen]⟩

/-- A stream processor that does not run is changed. -/
theorem acts_change (calls : (running .update model).calls past) (begun : past ≠ [])
    (makes : Makes (once "get_processor" * maybe (once "stop_processor" * many "get_processor")) past)
    (planned : ids.needsStarting = true ↔ plannedState model = .ok .started)
    (unstarted : "start_processor" ∉ callKinds past) (found : FoundIdle past)
    (ends : (change ids model).Ends after result) : (running .update model).Acts past after result := by
  rcases ends_change ends with fails | ⟨request, called⟩
  · exact Account.acts_of_failsSilently calls fails
  · obtain ⟨_, guarded, prompt⟩ := calls
    have makes (answer : Except GatewayError RemoteStreamProcessor) : Makes (startingUpTo .update .updating)
        (past ++ [⟨.control (.updateProcessor ids.projectId ids.workspaceName ids.processorName request), answer⟩]) :=
      makes.enter rfl
    refine Account.acts_of_callsOnce called ?_ ?_
    · intro answer
      exact ⟨follows_of_upTo (makes answer), guarded_concat.mpr ⟨guarded, found⟩, prompt.append begun _⟩
    · intro updated _
      exact ⟨by simp, makes _, planned, by simpa using unstarted⟩

/-- A stream processor that is to run and does not is started. -/
theorem acts_startUp (calls : (running operation model).calls past) (waits : Awaits operation model past phase ids)
    (early : phase = .creating ∨ phase = .updating) (needed : ids.needsStarting = true) (found : FoundIdle past)
    (ends : (startUp ids).Ends after result) : (running operation model).Acts past after result := by
  obtain ⟨_, guarded, prompt⟩ := calls
  have other : phase ≠ .starting := by
    rintro rfl
    simp at early
  have makes (answer : Except GatewayError Unit) : Makes (startingUpTo operation .starting)
      (past ++ [⟨.control (.startProcessor ids.projectId ids.workspaceName ids.processorName), answer⟩]) :=
    makes_starting early waits.makes rfl
  refine Account.acts_of_callsOnce (ends_startUp ends) ?_ ?_
  · intro answer
    refine ⟨follows_of_upTo (makes answer), guarded_concat.mpr ⟨guarded, ?_⟩, prompt.append waits.begun _⟩
    exact ⟨waits.planned.mp needed, waits.unstarted other, found⟩
  · intro started _
    exact ⟨by simp, makes _, waits.planned, fun other => absurd rfl other⟩

/-- Where nothing more is to be done for a stream processor that is to be started, it runs. -/
theorem started_of_done (needed : ids.needsStarting = true) (other : phase ≠ .stopping) (alive : phase ≠ .deleting)
    (reached : isReached phase remote = true) (done : mustStart phase ids remote = false) : remote.state = "STARTED" := by
  cases phase with
  | creating | updating =>
    have known : remote.knownState? = some .started := by simpa [mustStart, needed] using done
    exact knownState?_eq_started.mp known
  | starting => exact started_of_reached reached
  | stopping => exact absurd rfl other
  | deleting => exact absurd rfl alive

/-- Where nothing more is to be done, the stream processor runs if that is planned. -/
theorem runs_of_done (waits : Awaits operation model past phase ids) (other : phase ≠ .stopping) (alive : phase ≠ .deleting)
    (reached : isReached phase remote = true) (done : mustStart phase ids remote = false) :
    Runs model (some (model.merge remote)) := by
  intro planned
  refine ⟨_, rfl, ?_⟩
  rw [state_merge, started_of_done (waits.planned.mpr planned) other alive reached done]

theorem acts_advance {earlier : Trace Gateway}
    (seen : past = earlier ++ [⟨.control (.getProcessor project workspace name), .ok remote⟩])
    (reached : isReached phase remote = true) (calls : (running operation model).calls past)
    (waits : Awaits operation model past phase ids) (ends : (advance phase ids model (some remote)).Ends after result) :
    (running operation model).Acts past after result := by
  have alive : phase ≠ .deleting := by
    rintro rfl
    cases operation <;> exact waits.makes.elim
  rcases ends_advance alive ends with ⟨must, ends⟩ | ⟨done, ⟨rfl, ends⟩ | ⟨other, rfl, message, rfl⟩⟩
  · simp only [mustStart, Bool.and_eq_true, Bool.or_eq_true, decide_eq_true_eq] at must
    obtain ⟨⟨early, needed⟩, idle⟩ := must
    have found : FoundIdle past :=
      ⟨earlier, project, workspace, name, remote, seen, fun runs => idle (knownState?_eq_started.mpr runs)⟩
    exact acts_startUp calls waits early needed found ends
  · cases operation with
    | update =>
      have found : FoundIdle past := ⟨earlier, project, workspace, name, remote, seen, ne_started_of_stopped reached⟩
      have makes := waits.makes
      rw [startingUpTo, mul_assoc] at makes
      exact acts_change calls waits.begun makes.take waits.planned (waits.unstarted nofun) found ends
    | create | delete => exact waits.makes.elim
  · rw [Account.Acts, List.append_nil]
    exact ⟨calls, runs_of_done waits other alive reached done⟩

end

/-! ## The first look -/

/-- A stream processor that is there is found by one call. -/
theorem always_inspect_update (budget : String) (model : StreamProcessorModel) :
    ((streamProcessorLifecycle budget .update).inspect model).Always fun look seen =>
      FailsSilently look seen ∨ ∃ project workspace name answer,
        look = [⟨.control (.getProcessor project workspace name), answer⟩] ∧
        (∀ remote, answer = .ok remote → seen = .ok (some (.found remote))) ∧
        ∀ error, answer = .error error → ∀ found, seen = .ok found → found = some .absent := by
  simp [streamProcessorLifecycle, look, FailsSilently]

section
variable {budget : String} {look after : Trace Gateway} {remote : RemoteStreamProcessor} {project workspace name : String}
  {result : Except ProvisionError (Transition StreamProcessorPhase StreamProcessorIds StreamProcessorModel)}

/-- A look at a stream processor that need not be stopped. -/
theorem calls_look {answer : Except GatewayError RemoteStreamProcessor}
    (seen : look = [⟨.control (.getProcessor project workspace name), answer⟩])
    (idle : ∀ remote, answer = .ok remote → ¬ MustStop model remote) : (running .update model).calls look := by
  have looked : Makes (once "get_processor") look := by
    rw [seen]
    exact makes_once rfl
  refine ⟨looked.follows.mul.mul.mul.mul, ?_, ?_⟩
  · rw [seen]
    exact guarded_concat.mpr ⟨guarded_nil, trivial⟩
  · rw [seen]
    rintro _ _ _ remote _ _ ⟨⟩ must
    exact absurd must (idle remote rfl)

theorem exists_planned (allowed : (streamProcessorLifecycle budget .update).validateTransition (some remote) model = .ok ()) :
    ∃ planned, plannedState model = .ok planned ∧ checkTransition remote.state planned = .ok () := by
  obtain ⟨planned, decided, passed⟩ := bind_eq_ok.mp allowed
  exact ⟨planned, decided, passed⟩

theorem calls_inspect {seen : Except ProvisionError (Option (Observation RemoteStreamProcessor))}
    (changes : operation ≠ .delete)
    (inspected : ((streamProcessorLifecycle budget operation).inspect model).Ends look seen)
    (stays : ¬ (streamProcessorLifecycle budget operation).Launches model seen) : (running operation model).calls look := by
  cases operation with
  | create =>
    obtain ⟨rfl, -⟩ := Program.ends_done.mp inspected
    exact ⟨follows_nil_starting changes, guarded_nil, prompt_of_create []⟩
  | update =>
    rcases always_inspect_update budget model _ _ inspected with ⟨rfl, -⟩ | ⟨_, _, _, answer, looked, found, -⟩
    · exact ⟨follows_nil_starting changes, guarded_nil, nofun⟩
    · refine calls_look looked ?_
      rintro remote rfl ⟨-, planned, decided, passed⟩
      have allowed : (streamProcessorLifecycle budget .update).validateTransition (some remote) model = .ok () :=
        bind_eq_ok.mpr ⟨planned, decided, passed⟩
      exact stays ⟨_, found remote rfl, nofun, allowed⟩
  | delete => exact absurd rfl changes

theorem acts_start_update {seen : Option (Observation RemoteStreamProcessor)} (valid : validate .update model = .ok ())
    (inspected : ((streamProcessorLifecycle budget .update).inspect model).Ends look (.ok seen))
    (present : seen ≠ some .absent)
    (allowed : (streamProcessorLifecycle budget .update).validateTransition (seen.bind Observation.remote?) model = .ok ())
    (ends : (start .update model (seen.bind Observation.remote?)).Ends after result) :
    (running .update model).Acts look after result := by
  rcases always_inspect_update budget model _ _ inspected with ⟨-, _, ⟨⟩⟩ | ⟨_, _, _, answer, looked, found, missing⟩
  rcases answer with error | remote
  · exact absurd (missing error rfl seen rfl) present
  cases found remote rfl
  obtain ⟨planned, decided, passed⟩ := exists_planned allowed
  obtain ⟨ids, planned', decided', flag, ⟨runs, called⟩ | ⟨idle, ends⟩⟩ := ends_start_update valid ends
  · exact acts_stop looked ⟨runs, planned, decided, passed⟩ decided' flag called
  · have makes : Makes (once "get_processor") look := by
      rw [looked]
      exact makes_once rfl
    refine acts_change (calls_look looked ?_) (by simp [looked]) makes.skip (needsStarting_iff decided' flag)
      (by simp [looked]) ⟨[], _, _, _, remote, looked, idle⟩ ends
    rintro _ ⟨⟩ must
    exact idle must.1

/-- A creation that is over time is ended by deleting what was created. -/
theorem calls_cleanup {removed : Except ProvisionError Unit} (calls : (running .create model).calls past)
    (waits : Awaits .create model past phase ids) (ends : (cleanup ids).Ends after removed) :
    (running .create model).calls (past ++ after) := by
  obtain ⟨answer, rfl, -⟩ := ends_cleanup ends
  have makes : Makes (once "create_processor" * many "get_processor" *
        maybe (once "start_processor" * many "get_processor") * once "delete_processor")
      (past ++ [⟨.control (.deleteProcessor ids.projectId ids.workspaceName ids.processorName), answer⟩]) :=
    (makes_created waits.makes).concat rfl
  exact ⟨makes.take.follows, guarded_concat.mpr ⟨calls.2.1, trivial⟩, prompt_of_create _⟩

end

theorem upholds_running (budget : String) (changes : operation ≠ .delete) (model : StreamProcessorModel) :
    (streamProcessorLifecycle budget operation).Upholds id (fun _ => True) model (running operation model) where
  unopened := ⟨follows_nil_starting changes, guarded_nil, nofun⟩
  reread waits := waits
  inspect valid := by
    intro look seen inspected stays
    exact ⟨calls_inspect changes inspected stays, fun _ deletes => absurd deletes changes⟩
  start := by
    intro look seen valid inspected present allowed after result ends _
    cases operation with
    | create =>
      obtain ⟨rfl, ⟨⟩⟩ := Program.ends_done.mp inspected
      exact acts_create ends
    | update => exact acts_start_update valid inspected present allowed ends
    | delete => exact absurd rfl changes
  observe := by
    intro past phase ids calls waits look result ends
    have polls : Polls "get_processor" look := polls_look ids _ _ ends
    have waits' : Awaits operation model (past ++ look) phase ids := Awaits.poll waits polls
    obtain ⟨_, guarded, prompt⟩ := calls
    exact ⟨⟨follows_of_upTo waits'.makes, guarded.poll polls allows_of_reads, prompt.append waits.begun look⟩, waits'⟩
  advance := by
    intro past look phase ids seen valid calls waits observed due after result ends _
    rcases seen with remote | _
    · have looked := always_look ids _ _ observed remote rfl
      exact acts_advance (congrArg (past ++ ·) looked) due calls waits ends
    · obtain rfl : phase = .deleting := of_decide_eq_true due
      cases operation <;> exact waits.makes.elim
  cleanup := by
    intro past phase ids timed calls waits after removed ends
    cases operation with
    | create => exact calls_cleanup calls waits ends
    | update | delete => cases timed

end StreamProcessorLifecycle

open StreamProcessorLifecycle in
/-- The calls that create or change a stream processor are the first ones of a fixed order. It is stopped exactly if the
first look finds it running and it may go over to the planned state, it is changed only right after a look that does not
find it running, and it is started at most once, only if it is to run and only right after such a look. Whoever succeeds
with one that is to run has found it running. -/
theorem Family.processor_started_in_order (settings : Settings) {operation : Operation} (changes : operation ≠ .delete)
    {model : StreamProcessorModel} {steps : List (Taken StreamProcessorModel)} {next : Option Fields}
    (run : (Family.streamProcessor.lifecycle settings operation).Run (settings.step .streamProcessor) .plain steps next)
    (same : ∀ taken ∈ steps, taken.model = model) :
    Follows (starting operation) (traceOf steps) ∧ Guarded (Allows operation model) (traceOf steps) ∧
    Prompt operation model (traceOf steps) ∧
    ∀ taken ∈ steps, ∀ result message, taken.outcome = .success result message → Runs model result := by
  have keeps := Family.streamProcessor.keeps settings operation
  have upholds : (Family.streamProcessor.lifecycle settings operation).Upholds id (fun _ => True) model
    (running operation model) := upholds_running settings.createTimeout changes model
  obtain ⟨⟨follows, guarded, prompt⟩, succeeds⟩ := upholds.holds keeps run same fun _ _ => trivial
  exact ⟨follows, guarded, prompt, succeeds⟩

/-- A stream processor that is to run. -/
def resumedModel : StreamProcessorModel where
  projectId := some "p"
  workspaceName := some "w"
  processorName := some "n"
  pipeline := some "[]"
  state := some "STARTED"

/-- The change of it, in a phase. -/
def resumedWaiting (phase : StreamProcessorPhase) : Continuation StreamProcessorPhase StreamProcessorIds where
  operationId := .nil
  phase := phase
  ids := { projectId := "p", workspaceName := "w", processorName := "n", needsStarting := true }
  timing := none

/-- The context in which the operation waits. -/
def resumedContext (phase : StreamProcessorPhase) : Fields :=
  (Family.streamProcessor.lifecycle {} .update).write Family.streamProcessor.idsRecord (resumedWaiting phase)

/-- The stream processor in a state. -/
def resumedRemote (state : String) : RemoteStreamProcessor where
  name := "n"
  state := state

/-- A step in changing it, which first looks at it. -/
def resumedStep (context : Fields) (state : String) (after : Trace Gateway) (outcome : Outcome StreamProcessorModel) :
    Taken StreamProcessorModel where
  fresh := .nil
  context := context
  model := resumedModel
  now := .epoch
  trace := ⟨.control (.getProcessor "p" "w" "n"), .ok (resumedRemote state)⟩ :: after
  outcome := outcome

/-- The first step finds it running and stops it. -/
def resumedStopped : Taken StreamProcessorModel :=
  resumedStep [] "STARTED" [⟨.control (.stopProcessor "p" "w" "n"), .ok ()⟩]
    (.inProgress (resumedContext .stopping) (.ofSeconds 3) "Stream processor stop requested")

/-- The second step changes it. -/
def resumedUpdated : Taken StreamProcessorModel :=
  resumedStep (resumedContext .stopping) "STOPPED"
    [⟨.control (.updateProcessor "p" "w" "n" { name := "n", pipeline := [] }), .ok (resumedRemote "STOPPED")⟩]
    (.inProgress (resumedContext .updating) (.ofSeconds 3) "Stream processor update requested")

/-- The third step starts it. -/
def resumedStarted : Taken StreamProcessorModel :=
  resumedStep (resumedContext .updating) "STOPPED" [⟨.control (.startProcessor "p" "w" "n"), .ok ()⟩]
    (.inProgress (resumedContext .starting) (.ofSeconds 3) "Stream processor start requested")

/-- The last step finds it running again. -/
def resumedRunning : Taken StreamProcessorModel :=
  resumedStep (resumedContext .starting) "STARTED" []
    (.success (some (resumedModel.merge (resumedRemote "STARTED"))) ("Stream processor " ++ "n" ++ " is " ++ "STARTED"))

theorem decode_resumedContext (phase : StreamProcessorPhase) :
    Context.decode (Family.streamProcessor.lifecycle {} .update).target (Family.streamProcessor.lifecycle {} .update).ids
      (resumedContext phase) = .ok (some (resumedWaiting phase)) :=
  (Family.streamProcessor.keeps {} .update).decode_write (by rintro _ ⟨⟩)

theorem takes_resumedStopped :
    (Family.streamProcessor.lifecycle {} .update).Takes (Settings.step {} .streamProcessor) resumedStopped := by
  refine Lifecycle.takes_of_ends (.call (.note (.call (.note ?_))))
  exact (Family.streamProcessor.keeps {} .update).ends_waiting (resumedWaiting .stopping) _

theorem takes_resumedUpdated :
    (Family.streamProcessor.lifecycle {} .update).Takes (Settings.step {} .streamProcessor) resumedUpdated := by
  apply Lifecycle.takes_of_ends
  rw [resumedUpdated, resumedStep, Lifecycle.tryStep, decode_resumedContext]
  refine .call (.note (.call (.note ?_)))
  exact (Family.streamProcessor.keeps {} .update).ends_waiting (resumedWaiting .updating) _

theorem takes_resumedStarted :
    (Family.streamProcessor.lifecycle {} .update).Takes (Settings.step {} .streamProcessor) resumedStarted := by
  apply Lifecycle.takes_of_ends
  rw [resumedStarted, resumedStep, Lifecycle.tryStep, decode_resumedContext]
  refine .call (.note (.call (.note ?_)))
  exact (Family.streamProcessor.keeps {} .update).ends_waiting (resumedWaiting .starting) _

theorem takes_resumedRunning :
    (Family.streamProcessor.lifecycle {} .update).Takes (Settings.step {} .streamProcessor) resumedRunning := by
  apply Lifecycle.takes_of_ends
  rw [resumedRunning, resumedStep, Lifecycle.tryStep, decode_resumedContext]
  exact .call (.note (.done _))

/-- The four steps. -/
def resumedSteps : List (Taken StreamProcessorModel) :=
  [resumedStopped] ++ [resumedUpdated] ++ [resumedStarted] ++ [resumedRunning]

theorem run_resumed : (Family.streamProcessor.lifecycle {} .update).Run (Settings.step {} .streamProcessor) .plain
    resumedSteps (Caller.plain.next resumedRunning) :=
  .step (.step (.step (.step .start takes_resumedStopped) takes_resumedUpdated) takes_resumedStarted) takes_resumedRunning

/-- They stop the stream processor and leave it running. -/
theorem resumed_started_in_order : Operation.update ≠ .delete ∧
    StreamProcessorLifecycle.Allows .update resumedModel (traceOf [resumedStopped, resumedUpdated] ++
      [⟨.control (.getProcessor "p" "w" "n"), .ok (resumedRemote "STOPPED")⟩]) (.control (.startProcessor "p" "w" "n")) ∧
    StreamProcessorLifecycle.Runs resumedModel (some (resumedModel.merge (resumedRemote "STARTED"))) := by
  have changes : Operation.update ≠ .delete := by decide
  have same : ∀ taken ∈ resumedSteps, taken.model = resumedModel := by
    simp [resumedSteps, resumedStopped, resumedUpdated, resumedStarted, resumedRunning, resumedStep]
  obtain ⟨_, guarded, _, runs⟩ := Family.processor_started_in_order {} changes run_resumed same
  refine ⟨changes, ?_, runs resumedRunning (by simp [resumedSteps]) _ _ rfl⟩
  exact guarded _ ⟨.control (.startProcessor "p" "w" "n"), .ok ()⟩ ⟨resumedRunning.trace, rfl⟩

end Provisioner
