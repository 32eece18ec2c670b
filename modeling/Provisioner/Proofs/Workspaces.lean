import Provisioner.Proofs.Confinement
import Provisioner.Proofs.Showing

/-!
# Workspaces

A stream processor lies in a workspace, which its model names by a newer field or by an older one. What counts is the
newer one if it is there, else the older one (`StreamProcessorModel.workspace`); that is the workspace that the model
means (`meantWorkspace?`), unless the newer one is there and empty (`HidesWorkspace`). Every action on a stream
processor stays in one workspace (`StaysIn`), so a first step, a read and a list stay in that of their model, and a
later step in that of its operation (`Registry.workspace_resolved`).
-/
namespace Provisioner

namespace StreamProcessorModel
variable {model : StreamProcessorModel} {workspace : String}

/-- The workspace that a model means: the one that the newer field names, or where that is missing or empty the one that
the older field names. -/
def meantWorkspace? (model : StreamProcessorModel) : Option String :=
  (model.workspaceName.filter (· ≠ "")).orElse fun _ => model.instanceName.filter (· ≠ "")

/-- The newer field is empty, and the older one names a workspace. -/
def HidesWorkspace (model : StreamProcessorModel) : Prop :=
  model.workspaceName = some "" ∧ ∃ name, model.instanceName = some name ∧ name ≠ ""

/-- Both fields name the workspace. -/
def LiesIn (workspace : String) (model : StreamProcessorModel) : Prop :=
  model.workspaceName = some workspace ∧ model.instanceName = some workspace

/-- The workspace that counts is the one that is meant, unless an empty field hides it. -/
theorem workspace_eq_meant (shown : ¬ model.HidesWorkspace) : model.workspace = model.meantWorkspace? := by
  rw [workspace, meantWorkspace?]
  cases newer : model.workspaceName with
  | none => rfl
  | some name =>
    by_cases empty : name = ""
    · cases older : model.instanceName with
      | none => simp [empty]
      | some other =>
        have nothing : other = "" := by simpa [HidesWorkspace, newer, empty, older] using shown
        simp [empty, nothing]
    · simp [Option.filter_some, empty]

theorem not_hides_of_meant_eq_none (nothing : model.meantWorkspace? = none) : ¬ model.HidesWorkspace := by
  rintro ⟨newer, name, older, named⟩
  simp [meantWorkspace?, newer, older, named] at nothing

theorem liesIn_merge (known : model.workspace = some workspace) (remote : RemoteStreamProcessor) :
    (model.merge remote).LiesIn workspace := by
  rw [merge_eq known]
  exact ⟨rfl, rfl⟩

theorem liesIn_ofRemote (named : workspace ≠ "") (project : String) (remote : RemoteStreamProcessor) :
    (ofRemote project workspace remote).LiesIn workspace :=
  liesIn_merge (by simpa [StreamProcessorModel.workspace] using named) remote

end StreamProcessorModel

/-- The workspace that a call is about. -/
def Call.workspace? : Call → Option String
  | .control (.createProcessor _ workspace _) => some workspace
  | .control (.getProcessor _ workspace _) => some workspace
  | .control (.updateProcessor _ workspace _ _) => some workspace
  | .control (.deleteProcessor _ workspace _) => some workspace
  | .control (.listProcessors _ workspace) => some workspace
  | .control (.startProcessor _ workspace _) => some workspace
  | .control (.stopProcessor _ workspace _) => some workspace
  | _ => none

/-- All calls are about processors of the workspace. -/
def CallsIn (workspace : String) (trace : Trace Gateway) : Prop :=
  ∀ answered ∈ trace, answered.call.workspace? = some workspace

@[simp] theorem callsIn_nil {workspace : String} : CallsIn workspace [] := by
  simp [CallsIn]

@[simp] theorem callsIn_cons {workspace : String} {answered : Answered Gateway} {trace : Trace Gateway} :
    CallsIn workspace (answered :: trace) ↔ answered.call.workspace? = some workspace ∧ CallsIn workspace trace := by
  simp [CallsIn]

theorem callsIn_append {workspace : String} {before after : Trace Gateway} :
    CallsIn workspace (before ++ after) ↔ CallsIn workspace before ∧ CallsIn workspace after := by
  simp only [CallsIn, List.forall_mem_append]

/-! ## Failures for want of a workspace -/

/-- The failure says that the model names no workspace. -/
def ProvisionError.DemandsWorkspace (error : ProvisionError) : Prop :=
  error.category = .validation ∧ error.message = Rejection.missingWorkspace.message

/-- What a model of a stream processor with a workspace can be refused for. -/
def Rejection.IsOther : Rejection → Prop
  | .missing field => field = "projectId" ∨ field = "processorName" ∨ field = "pipeline"
  | .missingParent field => field = "projectId"
  | .invalidPipeline _ => True
  | .unknownState _ => True
  | .initialState => True
  | .unreachableState _ => True
  | .stopBeforeStart => True
  | .backToCreated _ => True
  | _ => False

/-- The failure is not that of a model that names no workspace. -/
def ProvisionError.IsOther : ProvisionError → Prop
  | .validation cause => cause.IsOther
  | _ => True

/-- A wording that begins with another letter is another. -/
theorem Rejection.message_ne_of_head {message : String} (other : message.toList.head? ≠ some 'w') :
    message ≠ missingWorkspace.message := by
  rintro rfl
  exact other rfl

theorem Rejection.IsOther.message_ne {cause : Rejection} (other : cause.IsOther) :
    cause.message ≠ missingWorkspace.message := by
  -- What a wording quotes may be anything, so it is told apart by its first letter.
  cases cause with
  | missing field =>
    rcases other with rfl | rfl | rfl <;> exact message_ne_of_head (by decide)
  | missingParent field =>
    obtain rfl : field = "projectId" := other
    exact message_ne_of_head (by decide)
  | invalidPipeline error =>
    have worded : (invalidPipeline error).message = "pipeline must be a JSON array of stages: " ++ error.message := rfl
    exact message_ne_of_head (by simp [worded])
  | unknownState text =>
    have worded : (unknownState text).message = "unknown stream processor state: " ++ text := rfl
    exact message_ne_of_head (by simp [worded])
  | initialState => exact message_ne_of_head (by decide)
  | unreachableState tag =>
    have worded : (unreachableState tag).message = "Stream Processor cannot transition to " ++ tag := rfl
    exact message_ne_of_head (by simp [worded])
  | stopBeforeStart => exact message_ne_of_head (by decide)
  | backToCreated current =>
    have worded : (backToCreated current).message =
        "Stream Processor cannot transition from " ++ current ++ " to CREATED" := rfl
    exact message_ne_of_head (by simp [worded])
  | _ => exact other.elim

theorem ProvisionError.IsOther.not_demandsWorkspace {error : ProvisionError} (other : error.IsOther) :
    ¬ error.DemandsWorkspace := by
  rintro ⟨category, message⟩
  obtain ⟨cause, rfl⟩ := ProvisionError.category_eq_validation.mp category
  exact Rejection.IsOther.message_ne other message

/-- The check fails for no want of a workspace. -/
def FailsOtherwise {α : Type} (check : Except ProvisionError α) : Prop :=
  ∀ error, check = .error error → error.IsOther

section
variable {α β : Type} {check : Except ProvisionError α}

@[simp] theorem failsOtherwise_ok (value : α) : FailsOtherwise (.ok value) := by
  simp [FailsOtherwise]

@[simp] theorem failsOtherwise_error {error : ProvisionError} :
    FailsOtherwise (.error error : Except _ α) ↔ error.IsOther := by
  simp [FailsOtherwise]

theorem FailsOtherwise.bind {f : α → Except ProvisionError β} (first : FailsOtherwise check)
    (later : ∀ value, FailsOtherwise (f value)) : FailsOtherwise (check >>= f) := by
  rcases check with error | value
  · rintro _ ⟨⟩
    exact first error rfl
  · exact later value

end

theorem failsOtherwise_required {field : String} (value : Option String)
    (known : field = "projectId" ∨ field = "processorName" ∨ field = "pipeline") :
    FailsOtherwise (required field value) := by
  cases value with
  | none => simpa [required, ProvisionError.IsOther, Rejection.IsOther] using known
  | some text => by_cases empty : text = "" <;> simp [required, empty, ProvisionError.IsOther, Rejection.IsOther, known]

theorem Registry.failsOtherwise_parent (value : Option String) : FailsOtherwise (parent "projectId" value) := by
  cases value with
  | none => simp [parent, ProvisionError.IsOther, Rejection.IsOther]
  | some text => by_cases empty : text = "" <;> simp [parent, empty, ProvisionError.IsOther, Rejection.IsOther]

namespace StreamProcessorLifecycle
variable {model : StreamProcessorModel} {workspace : String}

theorem failsOtherwise_ofModel (known : model.workspace = some workspace) :
    FailsOtherwise (StreamProcessorIds.ofModel model) := by
  rw [StreamProcessorIds.ofModel, known]
  exact (failsOtherwise_required _ (by simp)).bind fun _ =>
    (failsOtherwise_required _ (by simp)).bind fun _ => failsOtherwise_ok _

theorem failsOtherwise_plannedState (model : StreamProcessorModel) : FailsOtherwise (plannedState model) := by
  unfold plannedState
  split
  · simp
  · split
    · simp
    · split <;> simp [ProvisionError.IsOther, Rejection.IsOther]

theorem failsOtherwise_request (model : StreamProcessorModel) : FailsOtherwise (request model) := by
  refine (failsOtherwise_required _ (by simp)).bind ?_
  intro text
  split
  · simp [ProvisionError.IsOther, Rejection.IsOther]
  · exact (failsOtherwise_required _ (by simp)).bind fun _ => failsOtherwise_ok _

theorem failsOtherwise_checkTransition (current : String) (planned : StreamProcessorState) :
    FailsOtherwise (checkTransition current planned) := by
  unfold checkTransition
  split
  · simp
  · cases planned with
    | stopped => dsimp only; split <;> simp [ProvisionError.IsOther, Rejection.IsOther]
    | _ => simp [ProvisionError.IsOther, Rejection.IsOther]

theorem failsOtherwise_validate (operation : Operation) (known : model.workspace = some workspace) :
    FailsOtherwise (validate operation model) := by
  refine (failsOtherwise_ofModel known).bind ?_
  intro _
  cases operation with
  | delete => exact failsOtherwise_ok _
  | create =>
    refine (failsOtherwise_plannedState model).bind ?_
    intro planned
    cases planned with
    | created | started => exact (failsOtherwise_request model).bind fun _ => failsOtherwise_ok _
    | _ => simp [ProvisionError.IsOther, Rejection.IsOther]
  | update =>
    refine (failsOtherwise_plannedState model).bind ?_
    intro planned
    cases planned with
    | created | started | stopped => exact (failsOtherwise_request model).bind fun _ => failsOtherwise_ok _
    | _ => simp [ProvisionError.IsOther, Rejection.IsOther]

theorem failsOtherwise_validateTransition (budget : String) (operation : Operation)
    (current : Option RemoteStreamProcessor) (model : StreamProcessorModel) :
    FailsOtherwise ((streamProcessorLifecycle budget operation).validateTransition current model) := by
  cases operation with
  | create | delete => cases current <;> exact failsOtherwise_ok ()
  | update =>
    cases current with
    | none => exact failsOtherwise_ok ()
    | some => exact (failsOtherwise_plannedState model).bind fun planned => failsOtherwise_checkTransition _ planned

end StreamProcessorLifecycle

/-! ## Actions in a workspace -/

/-- All calls are about processors of the workspace, a failure is not for want of one, and what is returned is right. -/
structure StaysIn {α : Type} (workspace : String) (right : α → Prop) (trace : Trace Gateway)
    (result : Except ProvisionError α) : Prop where
  calls : CallsIn workspace trace
  fails : FailsOtherwise result
  right : ∀ value, result = .ok value → right value

/-- An operation goes on in the workspace where it is, and the model that it returns has the one where that lies. -/
def Transition.Carries {P : Type} (place workspace : String) :
    Transition P StreamProcessorIds StreamProcessorModel → Prop
  | .proceed _ ids _ => ids.workspaceName = place
  | .complete model _ => ∀ shown ∈ model, shown.LiesIn workspace

theorem staysIn_iff {α : Type} {workspace : String} {right : α → Prop} {trace : Trace Gateway}
    {result : Except ProvisionError α} :
    StaysIn workspace right trace result ↔
      CallsIn workspace trace ∧ FailsOtherwise result ∧ ∀ value, result = .ok value → right value :=
  ⟨fun ⟨calls, fails, right⟩ => ⟨calls, fails, right⟩, fun ⟨calls, fails, right⟩ => ⟨calls, fails, right⟩⟩

/-- What follows an action in a workspace stays there. -/
theorem StaysIn.bind {α β : Type} {workspace : String} {right : α → Prop} {right' : β → Prop} {action : Action α}
    {next : α → Action β} (first : action.Always (StaysIn workspace right))
    (later : ∀ value, right value → (next value).Always (StaysIn workspace right')) :
    (action >>= next).Always (StaysIn workspace right') := by
  intro trace result ends
  rcases Program.ends_bind.mp ends with ⟨error, failed, rfl⟩ | ⟨value, before, after, passed, goesOn, rfl⟩
  · have stays := first _ _ failed
    exact ⟨stays.calls, failsOtherwise_error.mpr (stays.fails error rfl), by simp⟩
  · have stays := first _ _ passed
    have stays' := later value (stays.right value rfl) _ _ goesOn
    exact ⟨callsIn_append.mpr ⟨stays.calls, stays'.calls⟩, stays'.fails, stays'.right⟩

/-- What follows a check stays in the workspace if the check fails for no want of one. -/
theorem FailsOtherwise.staysIn_bind {α β : Type} {workspace : String} {right : β → Prop}
    {check : Except ProvisionError α} {next : α → Action β} (otherwise : FailsOtherwise check)
    (later : ∀ value, check = .ok value → (next value).Always (StaysIn workspace right)) :
    ((monadLift check : Action α) >>= next).Always (StaysIn workspace right) := by
  rw [Program.always_lift_bind]
  refine ⟨?_, later⟩
  intro error failed
  exact ⟨callsIn_nil, failsOtherwise_error.mpr (otherwise error failed), by simp⟩

namespace StreamProcessorLifecycle
variable {model : StreamProcessorModel} {workspace : String}

attribute [local simp] staysIn_iff ProvisionError.IsOther Rejection.IsOther Transition.Carries Call.workspace?

/-- What follows the identifiers of a model stays in its workspace. -/
theorem staysIn_ofModel_bind {α : Type} {right : α → Prop} (known : model.workspace = some workspace)
    {next : StreamProcessorIds → Action α}
    (later : ∀ ids : StreamProcessorIds, ids.workspaceName = workspace →
      (next ids).Always (StaysIn workspace right)) :
    ((monadLift (StreamProcessorIds.ofModel model) : Action StreamProcessorIds) >>= next).Always
      (StaysIn workspace right) := by
  refine (failsOtherwise_ofModel known).staysIn_bind ?_
  intro ids named
  exact later ids (Option.some.inj ((Family.processor_named_of_ofModel named).2.1.symm.trans known))

theorem staysIn_look (ids : StreamProcessorIds) : (look ids).Always (StaysIn ids.workspaceName fun _ => True) := by
  simp [look, Observation.ofAnswer]

theorem staysIn_startUp (ids : StreamProcessorIds) :
    (startUp ids).Always (StaysIn ids.workspaceName (Transition.Carries ids.workspaceName workspace)) := by
  simp [startUp]

theorem staysIn_change (ids : StreamProcessorIds) (model : StreamProcessorModel) :
    (change ids model).Always (StaysIn ids.workspaceName (Transition.Carries ids.workspaceName workspace)) := by
  simp only [change, Program.info_bind, Program.always_note]
  refine (failsOtherwise_request model).staysIn_bind ?_
  simp

theorem staysIn_cleanup (ids : StreamProcessorIds) :
    (cleanup ids).Always (StaysIn ids.workspaceName fun _ => True) := by
  simp [cleanup]

theorem staysIn_advance (phase : StreamProcessorPhase) (ids : StreamProcessorIds)
    (known : model.workspace = some workspace) (remote : Option RemoteStreamProcessor) :
    (advance phase ids model remote).Always
      (StaysIn ids.workspaceName (Transition.Carries ids.workspaceName workspace)) := by
  simp only [advance]
  split
  · simp
  · rw [Program.always_ite]
    refine ⟨fun _ => staysIn_startUp ids, ?_⟩
    intro _
    split
    · exact staysIn_change ids model
    · simp
    · simp [StreamProcessorModel.liesIn_merge known]

theorem staysIn_inspect (budget : String) (operation : Operation) (known : model.workspace = some workspace) :
    ((streamProcessorLifecycle budget operation).inspect model).Always (StaysIn workspace fun _ => True) := by
  simp only [streamProcessorLifecycle]
  rw [Program.always_ite]
  refine ⟨by simp, ?_⟩
  intro _
  refine staysIn_ofModel_bind known ?_
  rintro ids rfl
  simp [look]

theorem staysIn_start (operation : Operation) (known : model.workspace = some workspace)
    (current : Option RemoteStreamProcessor) :
    (start operation model current).Always (StaysIn workspace (Transition.Carries workspace workspace)) := by
  rw [start]
  refine staysIn_ofModel_bind known ?_
  rintro ids rfl
  cases operation with
  | create =>
    refine (failsOtherwise_plannedState model).staysIn_bind ?_
    intro planned _
    simp only [Program.info_bind, Program.always_note]
    refine (failsOtherwise_request model).staysIn_bind ?_
    simp
  | update =>
    refine (failsOtherwise_plannedState model).staysIn_bind ?_
    intro planned _
    rw [Program.always_ite]
    exact ⟨fun _ => by simp, fun _ => staysIn_change { ids with needsStarting := _ } model⟩
  | delete => simp

theorem staysIn_read (known : model.workspace = some workspace) :
    (read model).Always (StaysIn workspace (StreamProcessorModel.LiesIn workspace)) := by
  rw [read]
  refine staysIn_ofModel_bind known ?_
  rintro ids rfl
  refine StaysIn.bind (staysIn_look ids) ?_
  rintro (remote | _) _ <;> simp [StreamProcessorModel.liesIn_merge known]

theorem staysIn_list (named : workspace ≠ "") (project : String) :
    (list project workspace).Always (StaysIn workspace fun listed => ∀ model ∈ listed, model.LiesIn workspace) := by
  simp [list, StreamProcessorModel.liesIn_ofRemote named]

end StreamProcessorLifecycle

/-! ## Steps in a workspace -/

/-- What a step decides is right for the workspaces: a failure is not for want of one, the operation goes on where it
is, and the model that is returned has the one where that lies. -/
def Verdict.Carries {P : Type} (place workspace : String) : Verdict P StreamProcessorIds StreamProcessorModel → Prop
  | .fails error => error.IsOther
  | .waits continuation _ => continuation.ids.workspaceName = place
  | .succeeds model _ => ∀ shown ∈ model, shown.LiesIn workspace

namespace Family
variable {settings : Settings} {operation : Operation} {model : StreamProcessorModel} {workspace : String}
  {trace : Trace Gateway} {now : Instant}

/-- What is decided after an action is right if its transition is. -/
theorem carries_ofTransition {P : Type} {place : P → StreamProcessorIds → Continuation P StreamProcessorIds}
    (keeps : ∀ phase ids, (place phase ids).ids = ids) {lies : String}
    {result : Except ProvisionError (Transition P StreamProcessorIds StreamProcessorModel)}
    (stays : StaysIn lies (Transition.Carries lies workspace) trace result) :
    (Verdict.ofTransition place result).Carries lies workspace := by
  rcases result with error | ⟨phase, ids, message⟩ | ⟨model, message⟩
  · exact stays.fails error rfl
  · simpa [Verdict.Carries, Transition.Carries, keeps] using stays.right _ rfl
  · exact stays.right _ rfl

/-- A first step is about the workspace of its model. -/
theorem opening_staysIn (known : model.workspace = some workspace) {fresh : OperationId}
    {verdict : Verdict StreamProcessorPhase StreamProcessorIds StreamProcessorModel}
    (opening : (lifecycle settings operation .streamProcessor).Opening fresh model now trace verdict) :
    CallsIn workspace trace ∧ verdict.Carries workspace workspace := by
  have inspect := StreamProcessorLifecycle.staysIn_inspect settings.createTimeout operation known
  cases opening with
  | invalid invalid silent =>
    exact ⟨by simp [silent], StreamProcessorLifecycle.failsOtherwise_validate operation known _ invalid⟩
  | uninspected _ inspected => exact ⟨(inspect _ _ inspected).calls, (inspect _ _ inspected).fails _ rfl⟩
  | alreadyGone _ inspected => exact ⟨(inspect _ _ inspected).calls, by simp [Verdict.Carries]⟩
  | missing _ inspected => exact ⟨(inspect _ _ inspected).calls, trivial⟩
  | refused _ inspected _ refused =>
    exact ⟨(inspect _ _ inspected).calls,
      StreamProcessorLifecycle.failsOtherwise_validateTransition _ _ _ _ _ refused⟩
  | acted _ inspected _ _ started calls decided =>
    have stays := StreamProcessorLifecycle.staysIn_start operation known _ _ _ started
    rw [calls, decided]
    exact ⟨callsIn_append.mpr ⟨(inspect _ _ inspected).calls, stays.calls⟩,
      carries_ofTransition (fun _ _ => rfl) stays⟩

/-- A later step is about the workspace in which its operation is. -/
theorem resumption_staysIn (known : model.workspace = some workspace)
    {continuation : Continuation StreamProcessorPhase StreamProcessorIds}
    {verdict : Verdict StreamProcessorPhase StreamProcessorIds StreamProcessorModel}
    (resumption : (lifecycle settings operation .streamProcessor).Resumption (settings.step .streamProcessor)
      continuation model now trace verdict) :
    CallsIn continuation.ids.workspaceName trace ∧ verdict.Carries continuation.ids.workspaceName workspace := by
  have look := StreamProcessorLifecycle.staysIn_look continuation.ids
  cases resumption with
  | overrun _ cleaned =>
    refine ⟨?_, trivial⟩
    rcases Lifecycle.ends_cleanUp cleaned with ⟨_, rfl, _⟩ | ⟨_, removed, tried, _⟩
    · exact callsIn_nil
    · exact (StreamProcessorLifecycle.staysIn_cleanup _ _ _ tried).calls
  | unobserved _ observed => exact ⟨(look _ _ observed).calls, (look _ _ observed).fails _ rfl⟩
  | vanished _ observed | faulty _ observed => exact ⟨(look _ _ observed).calls, trivial⟩
  | pending _ observed => exact ⟨(look _ _ observed).calls, rfl⟩
  | acted _ observed _ advanced calls decided =>
    have stays := StreamProcessorLifecycle.staysIn_advance _ _ known _ _ _ advanced
    rw [calls, decided]
    exact ⟨callsIn_append.mpr ⟨(look _ _ observed).calls, stays.calls⟩, carries_ofTransition (fun _ _ => rfl) stays⟩

/-- The context does not belong to an operation in another workspace. -/
def KeepsTo (operation : Operation) (workspace : String) (context : Fields) : Prop :=
  ∀ continuation : Continuation StreamProcessorPhase StreamProcessorIds,
    Context.decode ⟨streamProcessor.tag, operation⟩ StreamProcessorIds.shape context = .ok (some continuation) →
      continuation.ids.workspaceName = workspace

/-- A step does not fail for want of a workspace, returns models that lie in that of its model, and is about it if the
context does not belong to another. -/
theorem step_staysIn (known : model.workspace = some workspace) {fresh : OperationId} {context : Fields}
    {outcome : Outcome StreamProcessorModel}
    (ends : ((lifecycle settings operation .streamProcessor).step (settings.step .streamProcessor) fresh context model
      now).Ends trace (.ok outcome)) :
    ∃ (place : String) (verdict : Verdict StreamProcessorPhase StreamProcessorIds StreamProcessorModel), outcome =
      verdict.outcome
        ((lifecycle settings operation .streamProcessor).write StreamProcessorIds.record)
        (settings.step .streamProcessor).pollDelay ∧
      verdict.Carries place workspace ∧ CallsIn place trace ∧
      (KeepsTo operation workspace context → place = workspace) := by
  obtain ⟨verdict, course, same⟩ := (keeps settings operation .streamProcessor).ends_step ends
  have outcome_eq := Except.ok.inj same
  cases course with
  | rejected _ silent => exact ⟨workspace, _, outcome_eq, trivial, by simp [silent], fun _ => rfl⟩
  | opened _ opening =>
    obtain ⟨calls, carries⟩ := opening_staysIn known opening
    exact ⟨workspace, _, outcome_eq, carries, calls, fun _ => rfl⟩
  | @resumed _ continuation decoded resumption =>
    obtain ⟨calls, carries⟩ := resumption_staysIn known resumption
    exact ⟨_, _, outcome_eq, carries, calls, fun keepsTo => keepsTo continuation decoded⟩

/-- An operation stays in the workspace that all models of its steps name. -/
theorem invariant_workspace (settings : Settings) (operation : Operation) (caller : Caller) (workspace : String) :
    (lifecycle settings operation .streamProcessor).Invariant (settings.step .streamProcessor)
      (rereadIds .streamProcessor) caller fun steps stage => (∀ taken ∈ steps, taken.model.workspace = some workspace) →
        stage.All fun continuation => continuation.ids.workspaceName = workspace where
  start _ := trivial
  step := by
    intro steps stage taken verdict holds moves known
    obtain ⟨before, last⟩ := List.forall_mem_append.mp known
    have lies := last taken List.mem_cons_self
    have left {place : String} (same : place = workspace) (carries : verdict.Carries place workspace) :
        verdict.All fun continuation => continuation.ids.workspaceName = workspace := by
      cases verdict with
      | waits => exact Eq.trans carries same
      | fails | succeeds => trivial
    refine (holds before).next caller ?_
    cases moves with
    | opened _ opening => exact left rfl (opening_staysIn lies opening).2
    | rejected => trivial
    | resumed _ _ resumption => exact left (holds before) (resumption_staysIn lies resumption).2

/-- All calls of an operation are about the workspace that all models of its steps name. -/
theorem run_staysIn {caller : Caller} {steps : List (Taken StreamProcessorModel)} {next : Option Fields}
    (run : (lifecycle settings operation .streamProcessor).Run (settings.step .streamProcessor) caller steps next)
    (known : ∀ taken ∈ steps, taken.model.workspace = some workspace) : CallsIn workspace (traceOf steps) := by
  intro answered called
  obtain ⟨taken, member, called'⟩ := List.mem_flatMap.mp called
  -- The step is looked at from the stage before it, where all models so far named the workspace.
  obtain ⟨before, after, rfl⟩ := List.append_of_mem member
  obtain ⟨stage, verdict, holds, _, moves, _⟩ :=
    (keeps settings operation .streamProcessor).exists_move
      (invariant_workspace settings operation caller workspace) run
  have lies := known taken member
  have calls : CallsIn workspace taken.trace := by
    cases moves with
    | opened _ opening => exact (opening_staysIn lies opening).1
    | rejected _ _ _ silent => simp [silent]
    | @resumed continuation _ _ _ resumption =>
      have same : continuation.ids.workspaceName = workspace :=
        holds fun earlier member => known earlier (List.mem_append_left _ member)
      exact same ▸ (resumption_staysIn lies resumption).1
  exact calls answered called'

end Family

namespace StepResponse

/-- The response says that the model names no workspace. -/
def DemandsWorkspace {α : Type} (response : StepResponse α) : Prop :=
  response.errorCategory = some .validation ∧ response.message = Rejection.missingWorkspace.message

end StepResponse

/-- The document is that of a model that has the workspace in both fields. -/
def Json.LiesIn (workspace : String) (document : Json) : Prop :=
  ∃ model : StreamProcessorModel, document = StreamProcessorModel.shape.toJson model ∧ model.LiesIn workspace

namespace Registry
variable {settings : Settings} {document : Json} {model : StreamProcessorModel} {workspace : String}

/-- A step on a model with a workspace does not ask for one, and returns models that lie there. -/
theorem step_staysIn (parsed : parseModel StreamProcessorModel.shape document = .ok model)
    (known : model.workspace = some workspace) (operation : Operation) (fresh : OperationId) (context : Fields)
    (now : Instant) :
    (step settings Family.streamProcessor.tag operation fresh context document now).Always fun trace result =>
      ∃ response, result = .ok response ∧ ¬ response.DemandsWorkspace ∧
        (∀ returned, response.model = some returned → returned.LiesIn workspace) ∧
        (Family.KeepsTo operation workspace context → CallsIn workspace trace) := by
  intro trace result ends
  have parsed' : parseModel Family.streamProcessor.modelShape document = .ok model := parsed
  obtain ⟨outcome, stepped, rfl⟩ := (ends_step_iff parsed').mp ends
  obtain ⟨place, verdict, rfl, carries, calls, same⟩ := Family.step_staysIn known stepped
  refine ⟨_, rfl, ?_, ?_, fun keepsTo => same keepsTo ▸ calls⟩
  · cases verdict with
    | fails error =>
      rintro ⟨category, message⟩
      exact ProvisionError.IsOther.not_demandsWorkspace carries ⟨Option.some.inj category, message⟩
    | waits | succeeds =>
      rintro ⟨⟨⟩, _⟩
  · intro returned shown
    cases verdict with
    | fails | waits => cases shown
    | succeeds found message =>
      obtain ⟨model, here, rfl⟩ := Option.map_eq_some_iff.mp shown
      exact ⟨model, rfl, carries model here⟩

theorem read_staysIn (parsed : parseModel StreamProcessorModel.shape document = .ok model)
    (known : model.workspace = some workspace) :
    (read settings Family.streamProcessor.tag document).Always (StaysIn workspace (Json.LiesIn workspace)) := by
  have parsed' : parseModel Family.streamProcessor.modelShape document = .ok model := parsed
  rw [Family.registry_read_eq, parsed', Program.lift_ok_bind]
  refine StaysIn.bind (StreamProcessorLifecycle.staysIn_read known) ?_
  intro shown lies
  exact Program.always_done.mpr
    ⟨callsIn_nil, failsOtherwise_ok _, fun _ same => ⟨shown, (Except.ok.inj same).symm, lies⟩⟩

theorem list_staysIn (parsed : parseModel StreamProcessorModel.shape document = .ok model)
    (known : model.workspace = some workspace) :
    (list settings Family.streamProcessor.tag document).Always
      (StaysIn workspace fun listed => ∀ entry ∈ listed, entry.LiesIn workspace) := by
  have named := StreamProcessorModel.ne_empty_of_workspace known
  rw [list, findFamily_tag, Program.lift_ok_bind]
  simp only [parsed, Program.lift_ok_bind, known]
  refine (failsOtherwise_parent _).staysIn_bind ?_
  intro project _
  refine StaysIn.bind (StreamProcessorLifecycle.staysIn_list named project) ?_
  intro shown lies
  refine Program.always_done.mpr ⟨callsIn_nil, failsOtherwise_ok _, ?_⟩
  rintro _ ⟨⟩ entry member
  obtain ⟨model, here, rfl⟩ := List.mem_map.mp member
  exact ⟨model, rfl, lies model here⟩

/-- The input is refused before any call. -/
def Refuses {α : Type} (trace : Trace Gateway) (result : Except ProvisionError α) : Prop :=
  trace = [] ∧ ∃ error, result = .error error ∧ error.category = .validation

theorem ofModel_of_missing (missing : model.workspace = none) :
    StreamProcessorIds.ofModel model = .error (.validation .missingWorkspace) := by
  rw [StreamProcessorIds.ofModel, missing]

theorem validate_of_missing (settings : Settings) (missing : model.workspace = none) (operation : Operation) :
    (Family.streamProcessor.lifecycle settings operation).validate model = .error (.validation .missingWorkspace) := by
  have refused : StreamProcessorLifecycle.validate operation model = .error (.validation .missingWorkspace) := by
    rw [StreamProcessorLifecycle.validate.eq_def, ofModel_of_missing missing]
    rfl
  exact refused

theorem step_of_missing (parsed : parseModel StreamProcessorModel.shape document = .ok model)
    (missing : model.workspace = none) (operation : Operation) (fresh : OperationId) (now : Instant) :
    (step settings Family.streamProcessor.tag operation fresh [] document now).Always fun trace result =>
      trace = [] ∧ ∃ response, result = .ok response ∧ response.status = .failed ∧
        response.errorCategory = some .validation := by
  intro trace result ends
  have parsed' : parseModel Family.streamProcessor.modelShape document = .ok model := parsed
  obtain ⟨outcome, stepped, rfl⟩ := (ends_step_iff parsed').mp ends
  obtain ⟨verdict, course, same⟩ := (Family.streamProcessor.keeps settings operation).ends_step stepped
  obtain rfl := Except.ok.inj same
  have invalid := validate_of_missing settings missing operation
  -- On the empty context the operation begins, and the model is checked before anything else.
  cases course with
  | rejected decoded | resumed decoded =>
    rw [Lifecycle.Keeps.decode_empty] at decoded
    cases decoded
  | opened _ opening =>
    cases opening with
    | invalid refused silent =>
      obtain rfl := Except.error.inj (refused.symm.trans invalid)
      exact ⟨silent, _, rfl, rfl, rfl⟩
    | uninspected valid | alreadyGone valid | missing valid | refused valid | acted valid =>
      rw [invalid] at valid
      cases valid

theorem read_of_missing (parsed : parseModel StreamProcessorModel.shape document = .ok model)
    (missing : model.workspace = none) :
    (read settings Family.streamProcessor.tag document).Always Refuses := by
  have parsed' : parseModel Family.streamProcessor.modelShape document = .ok model := parsed
  rw [Family.registry_read_eq, parsed', Program.lift_ok_bind]
  simp [Family.read, StreamProcessorLifecycle.read, ofModel_of_missing missing, Refuses, ProvisionError.category]

theorem list_of_missing (parsed : parseModel StreamProcessorModel.shape document = .ok model)
    (missing : model.workspace = none) :
    (list settings Family.streamProcessor.tag document).Always Refuses := by
  rw [list, findFamily_tag, Program.lift_ok_bind]
  simp only [parsed, Program.lift_ok_bind, Program.always_lift_bind, missing, Program.always_fail]
  refine ⟨?_, fun _ _ => ⟨rfl, _, rfl, rfl⟩⟩
  intro error failed
  unfold parent at failed
  split at failed
  · split at failed <;> cases failed
    exact ⟨rfl, _, rfl, rfl⟩
  · cases failed
    exact ⟨rfl, _, rfl, rfl⟩

/-- Which workspace a model of a stream processor means. Where the newer field names one, that counts, and else the one
that the older field names. No step, read or list on the model fails for want of a workspace; all their calls are about
the one that it means, and all models that they return have it in both fields. Where neither field names one, the first
step, a read and a list refuse the model before any call. -/
theorem workspace_resolved (settings : Settings) :
    (∀ (document : Json) (model : StreamProcessorModel) (workspace : String),
      parseModel StreamProcessorModel.shape document = .ok model → ¬ model.HidesWorkspace →
      model.meantWorkspace? = some workspace →
        (∀ (operation : Operation) (fresh : OperationId) (context : Fields) (now : Instant),
          (step settings Family.streamProcessor.tag operation fresh context document now).Always fun trace result =>
            ∃ response, result = .ok response ∧ ¬ response.DemandsWorkspace ∧
              (∀ returned, response.model = some returned → returned.LiesIn workspace) ∧
              (Family.KeepsTo operation workspace context → CallsIn workspace trace)) ∧
        ((read settings Family.streamProcessor.tag document).Always fun trace result =>
          CallsIn workspace trace ∧ (∀ error, result = .error error → ¬ error.DemandsWorkspace) ∧
            ∀ shown, result = .ok shown → shown.LiesIn workspace) ∧
        (list settings Family.streamProcessor.tag document).Always fun trace result =>
          CallsIn workspace trace ∧ (∀ error, result = .error error → ¬ error.DemandsWorkspace) ∧
            ∀ listed, result = .ok listed → ∀ entry ∈ listed, entry.LiesIn workspace) ∧
    (∀ (operation : Operation) (caller : Caller) (steps : List (Taken StreamProcessorModel)) (next : Option Fields)
      (workspace : String),
      (Family.streamProcessor.lifecycle settings operation).Run (settings.step .streamProcessor) caller steps next →
      (∀ taken ∈ steps, ¬ taken.model.HidesWorkspace ∧ taken.model.meantWorkspace? = some workspace) →
      CallsIn workspace (traceOf steps)) ∧
    ∀ (document : Json) (model : StreamProcessorModel),
      parseModel StreamProcessorModel.shape document = .ok model → model.meantWorkspace? = none →
        (∀ (operation : Operation) (fresh : OperationId) (now : Instant),
          (step settings Family.streamProcessor.tag operation fresh [] document now).Always fun trace result =>
            trace = [] ∧ ∃ response, result = .ok response ∧ response.status = .failed ∧
              response.errorCategory = some .validation) ∧
        (read settings Family.streamProcessor.tag document).Always Refuses ∧
        (list settings Family.streamProcessor.tag document).Always Refuses := by
  refine ⟨?_, ?_, ?_⟩
  · intro document model workspace parsed shown meant
    have known := (StreamProcessorModel.workspace_eq_meant shown).trans meant
    refine ⟨step_staysIn parsed known, ?_, ?_⟩
    · intro trace result ends
      obtain ⟨calls, fails, right⟩ := read_staysIn parsed known trace result ends
      exact ⟨calls, fun error failed => (fails error failed).not_demandsWorkspace, right⟩
    · intro trace result ends
      obtain ⟨calls, fails, right⟩ := list_staysIn parsed known trace result ends
      exact ⟨calls, fun error failed => (fails error failed).not_demandsWorkspace, right⟩
  · intro operation caller steps next workspace run known
    refine Family.run_staysIn run ?_
    intro taken member
    obtain ⟨shown, meant⟩ := known taken member
    exact (StreamProcessorModel.workspace_eq_meant shown).trans meant
  · intro document model parsed nothing
    have shown := StreamProcessorModel.not_hides_of_meant_eq_none nothing
    have missing := (StreamProcessorModel.workspace_eq_meant shown).trans nothing
    exact ⟨step_of_missing parsed missing, read_of_missing parsed missing, list_of_missing parsed missing⟩

end Registry

/-- A model that names its workspace by the older field, and may have the newer one empty. -/
def olderModel (workspaceName : Option String) : StreamProcessorModel where
  projectId := some "p"
  workspaceName := workspaceName
  instanceName := some "w"
  processorName := some "n"

/-- Such a model as a document. -/
def olderDocument (workspaceName : List (String × Json)) : Json :=
  .object ([("instanceName", .string "w"), ("processorName", .string "n"), ("projectId", .string "p")] ++ workspaceName)

theorem parseModel_olderDocument : parseModel StreamProcessorModel.shape (olderDocument []) = .ok (olderModel none) := by
  rfl

/-- The processor is read from the workspace that the older field names, and shown with it in both fields. -/
theorem older_workspace_resolved :
    ∃ shown, (Registry.read {} Family.streamProcessor.tag (olderDocument [])).Ends
        [Family.streamProcessor.answeredRead ("p", "w") pipedProcessor] (.ok shown) ∧ shown.LiesIn "w" := by
  have ends : (Registry.read {} Family.streamProcessor.tag (olderDocument [])).Ends
      [Family.streamProcessor.answeredRead ("p", "w") pipedProcessor]
      (.ok (StreamProcessorModel.shape.toJson ((olderModel none).merge pipedProcessor))) := by
    rw [Family.registry_read_eq]
    exact .call (.done _)
  have shown : ¬ (olderModel none).HidesWorkspace := by
    rintro ⟨⟨⟩, _⟩
  have theory := (Registry.workspace_resolved {}).1 _ _ "w" parseModel_olderDocument shown rfl
  exact ⟨_, ends, (theory.2.1 _ _ ends).2.2 _ rfl⟩

/-- An empty newer field hides the workspace that the older one names: the read fails for want of one. -/
theorem hidden_workspace_unresolved :
    parseModel StreamProcessorModel.shape (olderDocument [("workspaceName", .string "")]) = .ok (olderModel (some "")) ∧
      (olderModel (some "")).meantWorkspace? = some "w" ∧
      (Registry.read {} Family.streamProcessor.tag (olderDocument [("workspaceName", .string "")])).Ends []
        (.error (.validation .missingWorkspace)) := by
  refine ⟨rfl, rfl, ?_⟩
  exact .fail _

end Provisioner
