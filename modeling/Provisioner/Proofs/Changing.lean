import Provisioner.Proofs.Starting

/-!
# Changing stream processors

A stream processor that was changed is done as soon as it is in some settled state, which need not be the one that was
planned: only one that is planned to run is waited for until it does. So the state in the result is the one that the last
look shows (`LeftAsFound`, `Family.processor_left_as_found`), and a processor may be left created although it was to be
stopped, or the other way round (`strayed_left_elsewhere`).
-/
namespace Provisioner

namespace StreamProcessorLifecycle

/-- The states in which a stream processor can be left after a change; they are those that can be planned for one. -/
def settledStates : List StreamProcessorState := [.created, .started, .stopped]

/-- The stream processor was changed. -/
def Changed (trace : Trace Gateway) : Prop :=
  ∃ project workspace name request remote,
    ⟨.control (.updateProcessor project workspace name request), .ok remote⟩ ∈ trace

/-- The last look, after the stream processor was changed, shows it in a settled state, which the result has. It is the
planned one if the processor is to run. -/
def LeftAsFound (planned : StreamProcessorState) (trace : Trace Gateway) (result : Option StreamProcessorModel) : Prop :=
  ∃ earlier project workspace name remote left,
    trace = earlier ++ [⟨.control (.getProcessor project workspace name), .ok remote⟩] ∧ Changed earlier ∧
    result = some left ∧ left.state = some remote.state ∧ (∃ state ∈ settledStates, remote.state = state.tag) ∧
    (planned = .started → remote.state = planned.tag)

/-- What was done and is remembered in a phase of a change. -/
structure Changes (model : StreamProcessorModel) (past : Trace Gateway) (phase : StreamProcessorPhase)
    (ids : StreamProcessorIds) : Prop where
  phases : phase = .stopping ∨ phase = .updating ∨ phase = .starting
  planned : ids.needsStarting = true ↔ plannedState model = .ok .started
  changed : phase ≠ .stopping → Changed past

/-- What is told of a change. -/
def changing (model : StreamProcessorModel) :
    Account StreamProcessorModel StreamProcessorPhase StreamProcessorIds where
  calls _ := True
  waits := Changes model
  succeeds trace result :=
    ∃ planned ∈ settledStates, plannedState model = .ok planned ∧ LeftAsFound planned trace result

variable {model : StreamProcessorModel} {past after : Trace Gateway} {phase : StreamProcessorPhase}
  {ids : StreamProcessorIds} {remote : RemoteStreamProcessor}
  {result : Except ProvisionError (Transition StreamProcessorPhase StreamProcessorIds StreamProcessorModel)}

theorem Changed.append (changed : Changed past) (after : Trace Gateway) : Changed (past ++ after) := by
  obtain ⟨project, workspace, name, request, remote, member⟩ := changed
  exact ⟨project, workspace, name, request, remote, List.mem_append_left _ member⟩

/-- A look changes nothing. -/
theorem changed_concat_look {project workspace name : String} {answer : Except GatewayError RemoteStreamProcessor} :
    Changed (past ++ [⟨.control (.getProcessor project workspace name), answer⟩]) ↔ Changed past := by
  simp [Changed]

/-- What was done stays done. -/
theorem Changes.append (changes : Changes model past phase ids) (look : Trace Gateway) :
    Changes model (past ++ look) phase ids :=
  { changes with changed := fun other => (changes.changed other).append look }

theorem Changes.alive (changes : Changes model past phase ids) : phase ≠ .deleting := by
  rintro rfl
  simpa using changes.phases

/-- The state that a valid model plans is one in which a processor can be left. -/
theorem exists_planned_of_valid (valid : validate .update model = .ok ()) :
    ∃ planned ∈ settledStates, plannedState model = .ok planned := by
  simp only [validate, bind_eq_ok] at valid
  obtain ⟨_, _, planned, decided, passed⟩ := valid
  refine ⟨planned, ?_, decided⟩
  cases planned with
  | created | started | stopped => decide
  | init | creating | dropped | failed => cases passed

/-- Whatever a phase of a change waits for is a settled state. -/
theorem settled_of_reached (phases : phase = .stopping ∨ phase = .updating ∨ phase = .starting)
    (reached : isReached phase remote = true) : ∃ state ∈ settledStates, remote.state = state.tag := by
  rw [isReached] at reached
  split at reached
  · next state known =>
    refine ⟨state, ?_, knownState?_eq_some.mp known⟩
    rcases phases with rfl | rfl | rfl <;> revert reached <;> cases state <;> decide
  · cases reached

/-! ## The actions -/

theorem changing_change (planned : ids.needsStarting = true ↔ plannedState model = .ok .started)
    (ends : (change ids model).Ends after result) : (changing model).Acts past after result := by
  rcases ends_change ends with fails | ⟨request, called⟩
  · exact Account.acts_of_failsSilently trivial fails
  · refine Account.acts_of_callsOnce called (fun _ => trivial) ?_
    intro updated _
    exact ⟨.inr (.inl rfl), planned, fun _ => ⟨_, _, _, request, updated, by simp⟩⟩

theorem changing_start (valid : validate .update model = .ok ())
    (ends : (start .update model (some remote)).Ends after result) : (changing model).Acts past after result := by
  obtain ⟨ids, planned, decided, flag, ⟨_, called⟩ | ⟨_, ends⟩⟩ := ends_start_update valid ends
  · refine Account.acts_of_callsOnce called (fun _ => trivial) ?_
    intro _ _
    exact ⟨.inl rfl, needsStarting_iff decided flag, fun other => absurd rfl other⟩
  · exact changing_change (needsStarting_iff decided flag) ends

theorem changing_startUp (changes : Changes model past phase ids) (must : mustStart phase ids remote = true)
    (ends : (startUp ids).Ends after result) : (changing model).Acts past after result := by
  have changed : Changed past := by
    apply changes.changed
    -- nothing is started while the processor is being stopped
    rintro rfl
    simp [mustStart] at must
  refine Account.acts_of_callsOnce (ends_startUp ends) (fun _ => trivial) ?_
  intro _ _
  exact ⟨.inr (.inr rfl), changes.planned, fun _ => changed.append _⟩

/-- Where nothing more is to be done, the processor is left as it was just found. -/
theorem leftAsFound_of_done {earlier : Trace Gateway} {project workspace name : String} {planned : StreamProcessorState}
    (looked : past = earlier ++ [⟨.control (.getProcessor project workspace name), .ok remote⟩])
    (changes : Changes model past phase ids) (decided : plannedState model = .ok planned) (other : phase ≠ .stopping)
    (reached : isReached phase remote = true) (done : mustStart phase ids remote = false) :
    LeftAsFound planned past (some (model.merge remote)) := by
  have changed : Changed earlier := by
    have changed := changes.changed other
    rwa [looked, changed_concat_look] at changed
  refine ⟨earlier, project, workspace, name, remote, _, looked, changed, rfl, state_merge model remote,
    settled_of_reached changes.phases reached, ?_⟩
  rintro rfl
  exact started_of_done (changes.planned.mpr decided) other changes.alive reached done

theorem changing_advance {earlier : Trace Gateway} {project workspace name : String}
    (looked : past = earlier ++ [⟨.control (.getProcessor project workspace name), .ok remote⟩])
    (valid : validate .update model = .ok ()) (reached : isReached phase remote = true)
    (changes : Changes model past phase ids) (ends : (advance phase ids model (some remote)).Ends after result) :
    (changing model).Acts past after result := by
  rcases ends_advance changes.alive ends with
    ⟨must, ends⟩ | ⟨done, ⟨rfl, ends⟩ | ⟨other, rfl, message, rfl⟩⟩
  · exact changing_startUp changes must ends
  · exact changing_change changes.planned ends
  · obtain ⟨planned, settled, decided⟩ := exists_planned_of_valid valid
    rw [Account.Acts, List.append_nil]
    exact ⟨trivial, planned, settled, decided, leftAsFound_of_done looked changes decided other reached done⟩

theorem upholds_changing (budget : String) (model : StreamProcessorModel) :
    (streamProcessorLifecycle budget .update).Upholds id (fun _ => True) model (changing model) where
  unopened := trivial
  reread waits := waits
  inspect _ := fun _ _ _ _ => ⟨trivial, nofun⟩
  start := by
    intro look seen valid inspected present _ after result ends _
    rcases always_inspect_update budget model _ _ inspected with ⟨_, _, ⟨⟩⟩ | ⟨_, _, _, answer, _, found, missing⟩
    rcases answer with error | remote
    · exact absurd (missing error rfl seen rfl) present
    · cases found remote rfl
      exact changing_start valid ends
  observe _ waits := fun look _ _ => ⟨trivial, waits.append look⟩
  advance := by
    intro past look phase ids seen valid _ waits observed due after result ends _
    rcases seen with remote | _
    · have looked := always_look ids _ _ observed remote rfl
      exact changing_advance (congrArg (past ++ ·) looked) valid due waits ends
    · exact absurd (of_decide_eq_true due) waits.alive
  cleanup timed _ _ := by cases timed

end StreamProcessorLifecycle

open StreamProcessorLifecycle in
/-- Whoever succeeds with a change has asked for one of three states, and returns the state that the last look shows, made
after the processor was changed: one of the same three, and the one asked for if the processor is to run. -/
theorem Family.processor_left_as_found (settings : Settings) {model : StreamProcessorModel}
    {steps : List (Taken StreamProcessorModel)} {next : Option Fields}
    (run : (Family.streamProcessor.lifecycle settings .update).Run (settings.step .streamProcessor) .plain steps next)
    (same : ∀ taken ∈ steps, taken.model = model) :
    ∀ taken ∈ steps, ∀ result message, taken.outcome = .success result message →
      ∃ planned ∈ settledStates, plannedState model = .ok planned ∧ LeftAsFound planned (traceOf steps) result := by
  have keeps := Family.streamProcessor.keeps settings .update
  have upholds : (Family.streamProcessor.lifecycle settings .update).Upholds id (fun _ => True) model (changing model) :=
    upholds_changing settings.createTimeout model
  exact (upholds.holds keeps run same fun _ _ => trivial).2

/-- A stream processor that is to be in a state. -/
def strayedModel (planned : StreamProcessorState) : StreamProcessorModel where
  projectId := some "p"
  workspaceName := some "w"
  processorName := some "n"
  pipeline := some "[]"
  state := some planned.tag

/-- The change of it. -/
def strayedWaiting : Continuation StreamProcessorPhase StreamProcessorIds where
  operationId := .nil
  phase := .updating
  ids := { projectId := "p", workspaceName := "w", processorName := "n" }
  timing := none

def strayedContext : Fields :=
  (Family.streamProcessor.lifecycle {} .update).write Family.streamProcessor.idsRecord strayedWaiting

def strayedRemote (state : StreamProcessorState) : RemoteStreamProcessor where
  name := "n"
  state := state.tag

/-- The first step finds it in the planned state and changes it. -/
def strayedUpdated (planned : StreamProcessorState) : Taken StreamProcessorModel where
  fresh := .nil
  context := []
  model := strayedModel planned
  now := .epoch
  trace := [⟨.control (.getProcessor "p" "w" "n"), .ok (strayedRemote planned)⟩,
    ⟨.control (.updateProcessor "p" "w" "n" { name := "n", pipeline := [] }), .ok (strayedRemote planned)⟩]
  outcome := .inProgress strayedContext (.ofSeconds 3) "Stream processor update requested"

/-- The second step finds it in another state and is done. -/
def strayedLeft (planned found : StreamProcessorState) : Taken StreamProcessorModel where
  fresh := .nil
  context := strayedContext
  model := strayedModel planned
  now := .epoch
  trace := [⟨.control (.getProcessor "p" "w" "n"), .ok (strayedRemote found)⟩]
  outcome := .success (some ((strayedModel planned).merge (strayedRemote found)))
    ("Stream processor " ++ "n" ++ " is " ++ found.tag)

/-- The two steps. -/
def strayedSteps (planned found : StreamProcessorState) : List (Taken StreamProcessorModel) :=
  [strayedUpdated planned] ++ [strayedLeft planned found]

theorem takes_strayedUpdated {planned : StreamProcessorState} (idle : planned = .created ∨ planned = .stopped) :
    (Family.streamProcessor.lifecycle {} .update).Takes (Settings.step {} .streamProcessor) (strayedUpdated planned) := by
  rcases idle with rfl | rfl
  all_goals
    refine Lifecycle.takes_of_ends (.call (.note (.call (.note ?_))))
    exact (Family.streamProcessor.keeps {} .update).ends_waiting strayedWaiting _

theorem decode_strayedContext :
    Context.decode (Family.streamProcessor.lifecycle {} .update).target (Family.streamProcessor.lifecycle {} .update).ids
      strayedContext = .ok (some strayedWaiting) :=
  (Family.streamProcessor.keeps {} .update).decode_write (show strayedWaiting.HasPlainStart by rintro _ ⟨⟩)

theorem takes_strayedLeft {planned found : StreamProcessorState} (settled : found ∈ StreamProcessorLifecycle.settledStates) :
    (Family.streamProcessor.lifecycle {} .update).Takes (Settings.step {} .streamProcessor)
      (strayedLeft planned found) := by
  apply Lifecycle.takes_of_ends
  rw [strayedLeft, Lifecycle.tryStep, decode_strayedContext]
  simp only [StreamProcessorLifecycle.settledStates, List.mem_cons, List.not_mem_nil, or_false] at settled
  rcases settled with rfl | rfl | rfl <;> exact .call (.note (.done _))

theorem run_strayed {planned found : StreamProcessorState} (idle : planned = .created ∨ planned = .stopped)
    (settled : found ∈ StreamProcessorLifecycle.settledStates) :
    (Family.streamProcessor.lifecycle {} .update).Run (Settings.step {} .streamProcessor) .plain
      (strayedSteps planned found) none :=
  .step (.step .start (takes_strayedUpdated idle)) (takes_strayedLeft settled)

theorem model_of_mem_strayed (planned found : StreamProcessorState) :
    ∀ taken ∈ strayedSteps planned found, taken.model = strayedModel planned := by
  simp [strayedSteps, strayedUpdated, strayedLeft]

/-- What was to be stopped is left as it was found, created. -/
theorem strayed_left_as_found : StreamProcessorLifecycle.LeftAsFound .stopped (traceOf (strayedSteps .stopped .created))
    (some ((strayedModel .stopped).merge (strayedRemote .created))) := by
  have run := run_strayed (.inr rfl) (by decide : StreamProcessorState.created ∈ _)
  obtain ⟨planned, _, decided, left⟩ := Family.processor_left_as_found {} run (model_of_mem_strayed _ _)
    (strayedLeft .stopped .created) (by simp [strayedSteps]) _ _ rfl
  cases decided
  exact left

/-- A change succeeds although the processor is not in the planned state: one that was to be created is left stopped, and
one that was to be stopped is left running. -/
theorem strayed_left_elsewhere :
    ((Family.streamProcessor.lifecycle {} .update).Run (Settings.step {} .streamProcessor) .plain
        (strayedSteps .created .stopped) none ∧
      StreamProcessorLifecycle.plannedState (strayedModel .created) = .ok .created ∧
      ∃ left message, (strayedLeft .created .stopped).outcome = .success (some left) message ∧
        left.state = some "STOPPED") ∧
    (Family.streamProcessor.lifecycle {} .update).Run (Settings.step {} .streamProcessor) .plain
        (strayedSteps .stopped .started) none ∧
      StreamProcessorLifecycle.plannedState (strayedModel .stopped) = .ok .stopped ∧
      ∃ left message, (strayedLeft .stopped .started).outcome = .success (some left) message ∧
        left.state = some "STARTED" := by
  exact ⟨⟨run_strayed (.inl rfl) (by decide), rfl, _, _, rfl, rfl⟩, run_strayed (.inr rfl) (by decide), rfl, _, _, rfl, rfl⟩

end Provisioner
