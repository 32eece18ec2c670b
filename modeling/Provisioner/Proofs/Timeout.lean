import Provisioner.Proofs.Calls
import Provisioner.Proofs.Family

/-!
# Running out of time

A step that finds its operation over time removes what the operation began, if the caller wants that, and reports what
came of it (`Taken.CleansUp`). In all runs this concerns only stream processors that the run itself created
(`Family.overrun_cleaned_up`): what has time stands for a successful creation before (`invariant_owned`), and apart
from deletions nothing else is ever removed (`invariant_building`).
-/
namespace Provisioner

/-! ## Reports -/

namespace CleanupReport

/-- The letter by which the wordings of different kinds of reports differ. -/
def letter : CleanupReport → Char
  | deleted => ' '
  | failed _ => 'a'
  | notAttempted => 'n'

theorem getElem?_message (report : CleanupReport) : report.message.toList[12]? = some report.letter := by
  cases report with
  | deleted =>
    show ("Resource has been deleted because delete-on-timeout is enabled. " ++ _).toList[12]? = _
    rw [String.toList_append, List.getElem?_append_left (by decide)]
    decide
  | failed reason =>
    show ("Cleanup was attempted because delete-on-timeout is enabled but failed: " ++ reason ++ _ ++ _).toList[12]? = _
    rw [String.append_assoc, String.append_assoc, String.toList_append, List.getElem?_append_left (by decide)]
    show _ = some 'a'
    decide
  | notAttempted =>
    show "Cleanup was not performed because delete-on-timeout is disabled.".toList[12]? = _
    decide

/-- Different reports have different wordings. -/
theorem message_injective {report other : CleanupReport} (same : report.message = other.message) : report = other := by
  have letters : report.letter = other.letter := by
    have equal := getElem?_message report
    rw [same, getElem?_message] at equal
    exact (Option.some.inj equal).symm
  cases report <;> cases other
  case deleted.deleted | notAttempted.notAttempted => rfl
  case failed.failed reason reason' =>
    change "Cleanup was attempted because delete-on-timeout is enabled but failed: " ++ reason ++ ". " ++ _ =
      "Cleanup was attempted because delete-on-timeout is enabled but failed: " ++ reason' ++ ". " ++ _ at same
    rw [String.append_left_inj, String.append_left_inj, String.append_right_inj] at same
    rw [same]
  all_goals simp [letter] at letters

end CleanupReport

theorem Overrun.message_waiting_injective {resource : String} {operation : Operation} {report other : CleanupReport}
    (same : (waiting resource operation report).message = (waiting resource operation other).message) :
    report = other := by
  change "Timeout reached when waiting for " ++ resource ++ " " ++ operation.noun ++ ". " ++ report.message =
    "Timeout reached when waiting for " ++ resource ++ " " ++ operation.noun ++ ". " ++ other.message at same
  rw [String.append_right_inj] at same
  exact CleanupReport.message_injective same

/-- The report on the answer to the call that removes a resource, which may not exist. -/
def CleanupReport.ofAnswer : Except GatewayError Unit → CleanupReport
  | .ok () => deleted
  | .error error => if error.isNotFound then deleted else failed error.message

section
variable {answer : Except GatewayError Unit}

theorem CleanupReport.deleted_eq_ofAnswer :
    deleted = ofAnswer answer ↔ answer = .ok () ∨ ∃ error, answer = .error error ∧ error.status? = some 404 := by
  rcases answer with error | _
  · by_cases absent : error.status? = some 404 <;> simp [ofAnswer, GatewayError.isNotFound, absent]
  · simp [ofAnswer]

theorem CleanupReport.failed_eq_ofAnswer {reason : String} :
    failed reason = ofAnswer answer ↔
      ∃ error, answer = .error error ∧ error.status? ≠ some 404 ∧ reason = error.message := by
  rcases answer with error | _
  · by_cases absent : error.status? = some 404 <;> simp [ofAnswer, GatewayError.isNotFound, absent]
  · simp [ofAnswer]

theorem CleanupReport.ofAnswer_ne_notAttempted : ofAnswer answer ≠ notAttempted := by
  rcases answer with error | _
  · rw [ofAnswer]
    split <;> simp
  · simp [ofAnswer]

end

/-- What was begun is removed by one call, and the report is on its answer. -/
theorem StreamProcessorLifecycle.ends_cleanup {ids : StreamProcessorIds} {trace : Trace Gateway}
    {removed : Except ProvisionError Unit} (ends : (cleanup ids).Ends trace removed) :
    ∃ answer, trace = [⟨.control (.deleteProcessor ids.projectId ids.workspaceName ids.processorName), answer⟩] ∧
      CleanupReport.ofRemoval removed = .ofAnswer answer := by
  simp only [cleanup, Action.control?, Program.ask, Program.info_bind, Program.call_bind, Program.done_bind,
    Program.ends_note, Program.ends_call] at ends
  obtain ⟨answer, rest, rfl, later⟩ := ends
  refine ⟨answer, ?_⟩
  rcases answer with error | _
  · by_cases absent : error.isNotFound = true
    · simp only [absent, if_true, Program.pure_eq, Program.ends_done] at later
      obtain ⟨rfl, rfl⟩ := later
      exact ⟨rfl, by rw [CleanupReport.ofAnswer, if_pos absent]; rfl⟩
    · simp only [absent, if_false, Program.ends_fail, Bool.false_eq_true] at later
      obtain ⟨rfl, rfl⟩ := later
      exact ⟨rfl, by rw [CleanupReport.ofAnswer, if_neg absent]; rfl⟩
  · obtain ⟨rfl, rfl⟩ := Program.ends_done.mp later
    exact ⟨rfl, rfl⟩

/-- The step fails because time ran out for the creation of a stream processor, with a report on what was begun. -/
def Taken.Reports {M : Type} (taken : Taken M) (report : CleanupReport) : Prop :=
  taken.outcome = .failed (Overrun.waiting Family.streamProcessor.label .create report).message .timeout false

/-- The context of the step says whether what was begun is to be removed when time runs out. -/
def Taken.Flagged {M : Type} (taken : Taken M) (flag : Bool) : Prop :=
  taken.context.get? "deleteOnTimeout" = some (.bool flag)

/-- How a step ends that finds the creation of a stream processor over time: what it calls, and what it reports. -/
structure Taken.CleansUp {M : Type} (taken : Taken M) (project workspace name : String) : Prop where
  fails : ∃ report, taken.Reports report
  calls : taken.Flagged false ∧ taken.trace = [] ∨
    taken.Flagged true ∧ ∃ answer, taken.trace = [⟨.control (.deleteProcessor project workspace name), answer⟩]
  deleted : taken.Reports .deleted ↔
    ∃ answer, taken.trace = [⟨.control (.deleteProcessor project workspace name), answer⟩] ∧
      (answer = .ok () ∨ ∃ error, answer = .error error ∧ error.status? = some 404)
  failed (reason : String) : taken.Reports (.failed reason) ↔
    ∃ error, taken.trace = [⟨.control (.deleteProcessor project workspace name), .error error⟩] ∧
      error.status? ≠ some 404 ∧ reason = error.message
  notAttempted : taken.Reports .notAttempted ↔ taken.Flagged false

namespace Taken
variable {M : Type} {taken : Taken M} {project workspace name : String}

theorem Reports.unique {report other : CleanupReport} (reports : taken.Reports report) (reports' : taken.Reports other) :
    report = other := by
  rw [Reports, reports, Outcome.failed.injEq] at reports'
  exact Overrun.message_waiting_injective reports'.1

theorem Reports.iff {report other : CleanupReport} (reports : taken.Reports report) :
    taken.Reports other ↔ other = report := by
  constructor
  · exact fun reports' => reports'.unique reports
  · rintro rfl
    exact reports

theorem Flagged.unique {flag other : Bool} (flagged : taken.Flagged flag) (flagged' : taken.Flagged other) :
    flag = other := by
  rw [Flagged, flagged] at flagged'
  simpa using flagged'

theorem CleansUp.of_silent (flagged : taken.Flagged false) (silent : taken.trace = [])
    (reports : taken.Reports .notAttempted) : taken.CleansUp project workspace name where
  fails := ⟨_, reports⟩
  calls := .inl ⟨flagged, silent⟩
  deleted := by simp [reports.iff, silent]
  failed reason := by simp [reports.iff, silent]
  notAttempted := by simp [reports, flagged]

theorem CleansUp.of_answer {answer : Except GatewayError Unit} (flagged : taken.Flagged true)
    (calls : taken.trace = [⟨.control (.deleteProcessor project workspace name), answer⟩])
    (reports : taken.Reports (.ofAnswer answer)) : taken.CleansUp project workspace name where
  fails := ⟨_, reports⟩
  calls := .inr ⟨flagged, answer, calls⟩
  deleted := by
    rw [reports.iff, CleanupReport.deleted_eq_ofAnswer, calls]
    simp
  failed reason := by
    rw [reports.iff, CleanupReport.failed_eq_ofAnswer, calls]
    simp
  notAttempted := by
    rw [reports.iff]
    constructor
    · intro same
      exact absurd same.symm CleanupReport.ofAnswer_ne_notAttempted
    · intro flagged'
      exact absurd (flagged.unique flagged') (by decide)

end Taken

/-! ## Steps that find their operation over time -/

@[simp] theorem Continuation.deletesOnTimeout_reread {P I : Type} (continuation : Continuation P I) (reread : I → I) :
    (continuation.reread reread).deletesOnTimeout = continuation.deletesOnTimeout := by
  cases timed : continuation.timing <;> simp [deletesOnTimeout, Continuation.reread, timed, Timing.reread]

namespace Lifecycle
variable {M P I R : Type} [Tagged P] (lifecycle : Lifecycle M P I R) (settings : StepSettings)

/-- The step finds its operation over time. -/
def Overruns (taken : Taken M) : Prop :=
  ∃ continuation : Continuation P I, Context.decode lifecycle.target lifecycle.ids taken.context = .ok (some continuation) ∧
    continuation.isLate settings.fallbackTimeout taken.now = true

variable {lifecycle settings} {record : Record I} {reread : I → I} {caller : Caller} {taken : Taken M}
  {before after : List (Taken M)} {next : Option Fields} {continuation : Continuation P I}

namespace Keeps
variable (keeps : lifecycle.Keeps record reread)
include keeps

/-- A context with a start says what to do when time runs out. -/
theorem get?_deleteOnTimeout (timed : continuation.timing.isSome) :
    (lifecycle.write record continuation).get? "deleteOnTimeout" = some (.bool continuation.deletesOnTimeout) := by
  rw [write, Context.get?_contextOf keeps.fits _ _ (by decide)]
  obtain ⟨timing, known⟩ := Option.isSome_iff_exists.mp timed
  simp [Context.reservedList, Context.timingFields, Continuation.deletesOnTimeout, known]

/-- In a run, a step that finds its operation over time only cleans up. -/
theorem exists_overrun [Tagged.Distinct P] {J : List (Taken M) → Stage P I → Prop}
    (invariant : lifecycle.Invariant settings reread caller J)
    (run : lifecycle.Run settings caller (before ++ taken :: after) next) (overruns : lifecycle.Overruns settings taken) :
    ∃ (continuation : Continuation P I) (report : CleanupReport), J before (.waiting continuation) ∧
      continuation.timing.isSome ∧ taken.context = lifecycle.write record continuation ∧
      (lifecycle.cleanUp (continuation.reread reread)).Ends taken.trace (.ok report) ∧
      taken.outcome = .ofError (.timeout (.waiting lifecycle.label lifecycle.operation report)) := by
  obtain ⟨stage, verdict, holds, stands, moves, outcome⟩ := keeps.exists_move invariant run
  obtain ⟨read, decoded, late⟩ := overruns
  cases moves with
  | opened empty =>
    rw [empty, decode_empty] at decoded
    cases decoded
  | rejected _ _ failed =>
    rw [failed] at decoded
    cases decoded
  | @resumed continuation _ _ resumed resumption =>
    have context : taken.context = lifecycle.write record continuation := (Option.some.inj stands).symm
    rw [resumed] at decoded
    cases decoded
    cases resumption with
    | overrun late cleaned =>
      have timed := Continuation.isSome_of_isLate late
      rw [Continuation.isSome_timing_reread] at timed
      exact ⟨continuation, _, holds, timed, context, cleaned, outcome⟩
    | unobserved inTime | vanished inTime | faulty inTime | pending inTime | acted inTime =>
      rw [inTime] at late
      cases late

end Keeps
end Lifecycle

/-! ## What is removed -/

/-- The call removes something on the other side. -/
def Call.isRemoval : Call → Bool
  | control (.deleteCluster ..) => true
  | control (.deleteProcessor ..) => true
  | control (.deleteService ..) => true
  | control (.detachInterface ..) => true
  | network (.deleteEndpoints ..) => true
  | _ => false

theorem Call.isMutating_of_isRemoval {c : Call} (removes : c.isRemoval = true) : c.isMutating = true := by
  unfold isRemoval at removes
  split at removes <;> first | rfl | cases removes

/-- No call removes anything. -/
def Spares (trace : Trace Gateway) : Prop :=
  ∀ answered ∈ trace, answered.call.isRemoval = false

@[simp] theorem spares_nil : Spares [] := by
  simp [Spares]

@[simp] theorem spares_cons {answered : Answered Gateway} {trace : Trace Gateway} :
    Spares (answered :: trace) ↔ answered.call.isRemoval = false ∧ Spares trace := by
  simp [Spares]

theorem Reads.spares {trace : Trace Gateway} (reads : Reads trace) : Spares trace := by
  intro answered member
  have harmless := reads answered member
  cases removal : answered.call.isRemoval with
  | false => rfl
  | true => rw [Call.isMutating_of_isRemoval removal] at harmless; cases harmless

theorem Spares.append {before after : Trace Gateway} (first : Spares before) (second : Spares after) :
    Spares (before ++ after) := by
  intro answered member
  exact (List.mem_append.mp member).elim (first answered) (second answered)

section
variable {M P I R : Type}

/-- An action removes nothing, and leads to one of some phases. -/
def Builds (building : P → Prop) (trace : Trace Gateway) (result : Except ProvisionError (Transition P I M)) : Prop :=
  Spares trace ∧ ∀ phase ids message, result = .ok (.proceed phase ids message) → building phase

/-- In some phases nothing is removed; the lifecycle begins there and stays there. -/
structure Lifecycle.Constructive (lifecycle : Lifecycle M P I R) (building : P → Prop) : Prop where
  start (model : M) (current : Option R) : (lifecycle.start model current).Always (Builds building)
  advance (phase : P) (ids : I) (model : M) (remote : Option R) (builds : building phase) :
    (lifecycle.advance phase ids model remote).Always (Builds building)

/-- What has time has been created; its identifiers stand for what a call created. -/
structure Lifecycle.CreatesTimed (lifecycle : Lifecycle M P I R) (reread : I → I)
    (created : I → Answered Gateway → Prop) : Prop where
  reread {ids : I} {answered : Answered Gateway} (creation : created ids answered) : created (reread ids) answered
  start (model : M) (current : Option R) (timed : lifecycle.timeoutSettings model ≠ none) :
    (lifecycle.start model current).Always fun trace result =>
      ∀ phase ids message, result = .ok (.proceed phase ids message) → ∃ answered ∈ trace, created ids answered
  advance (phase : P) (ids : I) (model : M) (remote : Option R) (answered : Answered Gateway)
    (creation : created ids answered) : (lifecycle.advance phase ids model remote).Always fun _ result =>
      ∀ phase ids message, result = .ok (.proceed phase ids message) → created ids answered

end

namespace Family

/-- The phases in which an operation builds something up. -/
def Building : (family : Family) → family.Phase → Prop
  | .privateEndpoint, phase =>
    phase = .serviceProvisioning ∨ phase = .creatingNetworkEndpoint ∨ phase = .attachingInterface
  | _, _ => True

/-- The call created what identifiers stand for. -/
def Created (operation : Operation) : (family : Family) → family.Ids → Answered Gateway → Prop
  | .streamProcessor, ids, answered => operation = .create ∧ ∃ request remote,
    answered = ⟨.control (.createProcessor ids.projectId ids.workspaceName request), .ok remote⟩ ∧
      request.name = ids.processorName
  | _, _, _ => False

attribute [local simp] Builds Call.isRemoval Building

theorem constructive (settings : Settings) {operation : Operation} (kept : operation ≠ .delete) (family : Family) :
    (family.lifecycle settings operation).Constructive family.Building := by
  cases family with
  | cluster =>
    exact
      { start model current := by
          cases operation with
          | create | update => simp [lifecycle, clusterLifecycle, ClusterLifecycle.start]
          | delete => exact absurd rfl kept
        advance phase ids model remote _ := by
          simp only [lifecycle, clusterLifecycle, ClusterLifecycle.advance, ClusterLifecycle.afterIdle]
          split
          · simp
          · rw [Program.always_ite]
            refine ⟨by simp, ?_⟩
            intro _
            split <;> simp
          · simp }
  | streamProcessor =>
    exact
      { start model current := by
          cases operation with
          | create | update =>
            simp [lifecycle, streamProcessorLifecycle, StreamProcessorLifecycle.start, StreamProcessorLifecycle.change]
          | delete => exact absurd rfl kept
        advance phase ids model remote _ := by
          simp only [lifecycle, streamProcessorLifecycle, StreamProcessorLifecycle.advance]
          split
          · simp
          · rw [Program.always_ite]
            refine ⟨by simp [StreamProcessorLifecycle.startUp], ?_⟩
            intro _
            split <;> simp [StreamProcessorLifecycle.change] }
  | privateEndpoint =>
    exact
      { start model current := by
          cases operation with
          | create | update => simp [lifecycle, privateEndpointLifecycle, PrivateEndpointLifecycle.start]
          | delete => exact absurd rfl kept
        advance phase ids model remote builds := by
          simp only [lifecycle, privateEndpointLifecycle, PrivateEndpointLifecycle.advance]
          split
          · simp only [PrivateEndpointLifecycle.createNetworkEndpoint]
            split <;> simp
          · simp [PrivateEndpointLifecycle.attachInterface]
          · simp [PrivateEndpointLifecycle.connected]
          · simp at builds
          · simp at builds
          · simp
          · simp }
  | exportJob =>
    exact
      { start model current := by
          cases operation <;> cases current <;> simp [lifecycle, exportJobLifecycle, ExportJobLifecycle.start]
        advance phase ids model remote _ := by
          cases phase <;> cases remote <;> simp [lifecycle, exportJobLifecycle, ExportJobLifecycle.advance] }

/-- A model names the processor that it gives identifiers for, its workspace and its project. -/
theorem processor_named_of_ofModel {model : StreamProcessorModel} {ids : StreamProcessorIds}
    (known : StreamProcessorIds.ofModel model = .ok ids) :
    model.projectId = some ids.projectId ∧ model.workspace = some ids.workspaceName ∧
      model.processorName = some ids.processorName := by
  unfold StreamProcessorIds.ofModel at known
  split at known
  · cases known
  · next workspace lies =>
    simp only [bind_eq_ok, required_eq_ok] at known
    obtain ⟨_, ⟨project, _⟩, _, ⟨name, _⟩, ⟨⟩⟩ := known
    exact ⟨project, lies, name⟩

/-- A request names the processor that the identifiers of its model name. -/
theorem name_of_request {model : StreamProcessorModel} {ids : StreamProcessorIds} {request : StreamProcessorRequest}
    (known : StreamProcessorIds.ofModel model = .ok ids)
    (requested : StreamProcessorLifecycle.request model = .ok request) : request.name = ids.processorName := by
  obtain ⟨_, _, named⟩ := processor_named_of_ofModel known
  simp only [StreamProcessorLifecycle.request, bind_eq_ok] at requested
  obtain ⟨_, _, built⟩ := requested
  split at built
  · cases built
  · simp only [bind_eq_ok, required_eq_ok] at built
    obtain ⟨name, ⟨named', _⟩, ⟨⟩⟩ := built
    exact Option.some.inj (named'.symm.trans named)

theorem createsTimed (settings : Settings) (operation : Operation) (family : Family) :
    (family.lifecycle settings operation).CreatesTimed family.rereadIds (family.Created operation) := by
  cases family with
  | cluster =>
    exact
      { reread creation := creation.elim
        start _ _ timed := absurd rfl timed
        advance _ _ _ _ _ creation := creation.elim }
  | streamProcessor =>
    exact
      { reread creation := creation
        start model current timed := by
          obtain rfl : operation = .create := by
            by_contra other
            exact timed (if_neg other)
          simp only [lifecycle, streamProcessorLifecycle, StreamProcessorLifecycle.start, Program.always_lift_bind]
          refine ⟨by simp, ?_⟩
          intro ids known
          refine ⟨by simp, ?_⟩
          intro planned _
          simp only [Program.info_bind, Program.always_note, Program.always_lift_bind]
          refine ⟨by simp, ?_⟩
          intro request requested
          have named := name_of_request known requested
          simp [Created, named]
        advance phase ids model remote answered creation := by
          simp only [lifecycle, streamProcessorLifecycle, StreamProcessorLifecycle.advance]
          split
          · simp
          · rw [Program.always_ite]
            refine ⟨by simp [StreamProcessorLifecycle.startUp, creation], ?_⟩
            intro _
            split <;> simp [StreamProcessorLifecycle.change, creation] }
  | privateEndpoint =>
    exact
      { reread creation := creation.elim
        start _ _ timed := absurd rfl timed
        advance _ _ _ _ _ creation := creation.elim }
  | exportJob =>
    exact
      { reread creation := creation.elim
        start _ _ timed := absurd rfl timed
        advance _ _ _ _ _ creation := creation.elim }

end Family

/-! ## Runs -/

namespace Lifecycle
variable {M P I R : Type} [Tagged P] {lifecycle : Lifecycle M P I R} {settings : StepSettings} {reread : I → I}
  {caller : Caller} {taken : Taken M} {stage : Stage P I} {verdict : Verdict P I M} {building : P → Prop}
  {created : I → Answered Gateway → Prop}

/-- A step in a building phase removes nothing unless it finds its operation over time. -/
theorem Moves.spares (looks : lifecycle.Looks) (constructive : lifecycle.Constructive building)
    (moves : lifecycle.Moves settings reread taken stage verdict)
    (builds : stage.All fun continuation => building continuation.phase) :
    lifecycle.Overruns settings taken ∨ Spares taken.trace := by
  cases moves with
  | opened _ opening =>
    right
    cases opening with
    | invalid _ silent => simp [silent]
    | uninspected _ inspected | alreadyGone _ inspected | missing _ inspected | refused _ inspected =>
      exact (looks.inspect _ _ _ inspected).spares
    | acted _ inspected _ _ started calls =>
      rw [calls]
      exact (looks.inspect _ _ _ inspected).spares.append (constructive.start _ _ _ _ started).1
  | rejected _ _ _ silent => exact .inr (by simp [silent])
  | resumed _ decoded resumption =>
    cases resumption with
    | overrun late => exact .inl ⟨_, decoded, late⟩
    | unobserved _ observed | vanished _ observed | faulty _ observed | pending _ observed =>
      exact .inr (looks.observe _ _ _ _ observed).spares
    | acted _ observed _ advanced calls =>
      right
      rw [calls]
      exact (looks.observe _ _ _ _ observed).spares.append (constructive.advance _ _ _ _ builds _ _ advanced).1

/-- A step leads to a building phase, from one or at first. -/
theorem Moves.builds (constructive : lifecycle.Constructive building)
    (moves : lifecycle.Moves settings reread taken stage verdict)
    (builds : stage.All fun continuation => building continuation.phase) :
    verdict.All fun continuation => building continuation.phase := by
  cases moves with
  | opened _ opening =>
    cases opening with
    | acted _ _ _ _ started _ decided =>
      rw [decided]
      exact Verdict.all_ofTransition (constructive.start _ _ _ _ started).2
    | _ => trivial
  | rejected => trivial
  | resumed _ _ resumption =>
    cases resumption with
    | pending => exact builds
    | acted _ _ _ advanced _ decided =>
      rw [decided]
      exact Verdict.all_ofTransition (constructive.advance _ _ _ _ builds _ _ advanced).2
    | _ => trivial

theorem invariant_building (constructive : lifecycle.Constructive building) :
    lifecycle.Invariant settings reread caller fun _ stage => stage.All fun continuation => building continuation.phase where
  start := trivial
  step builds moves := builds.next caller (moves.builds constructive builds)

/-- Where an operation has time, its identifiers stand for what a call of a trace created. -/
def Owns (created : I → Answered Gateway → Prop) (trace : Trace Gateway) (continuation : Continuation P I) : Prop :=
  continuation.timing.isSome → ∃ answered ∈ trace, created continuation.ids answered

omit [Tagged P] in
theorem Owns.append {before : Trace Gateway} {continuation : Continuation P I} (owns : Owns created before continuation)
    (after : Trace Gateway) : Owns created (before ++ after) continuation := by
  intro timed
  obtain ⟨answered, member, creation⟩ := owns timed
  exact ⟨answered, List.mem_append_left after member, creation⟩

omit [Tagged P] in
theorem owns_reread (creates : lifecycle.CreatesTimed reread created) {trace : Trace Gateway}
    {continuation : Continuation P I} (owns : Owns created trace continuation) :
    Owns created trace (continuation.reread reread) := by
  intro timed
  obtain ⟨answered, member, creation⟩ := owns (by rwa [Continuation.isSome_timing_reread] at timed)
  exact ⟨answered, member, creates.reread creation⟩

theorem Moves.owns (creates : lifecycle.CreatesTimed reread created)
    (moves : lifecycle.Moves settings reread taken stage verdict) {before : Trace Gateway}
    (owns : stage.All (Owns created before)) : verdict.All (Owns created (before ++ taken.trace)) := by
  cases moves with
  | opened _ opening =>
    cases opening with
    | acted _ _ _ _ started calls decided =>
      rw [decided]
      refine Verdict.all_ofTransition ?_
      intro phase ids message proceeded timed
      have limited : lifecycle.timeoutSettings taken.model ≠ none := by
        intro unlimited
        simp [place, timing, unlimited] at timed
      obtain ⟨answered, member, creation⟩ := creates.start _ _ limited _ _ started _ _ _ proceeded
      rw [calls]
      exact ⟨answered, List.mem_append_right _ (List.mem_append_right _ member), creation⟩
    | _ => trivial
  | rejected => trivial
  | resumed _ _ resumption =>
    cases resumption with
    | pending => exact (owns_reread creates owns).append _
    | acted _ _ _ advanced _ decided =>
      rw [decided]
      refine Verdict.all_ofTransition ?_
      intro phase ids message proceeded timed
      obtain ⟨answered, member, creation⟩ := owns_reread creates owns timed
      exact ⟨answered, List.mem_append_left _ member, creates.advance _ _ _ _ _ creation _ _ advanced _ _ _ proceeded⟩
    | _ => trivial

theorem invariant_owned (creates : lifecycle.CreatesTimed reread created) :
    lifecycle.Invariant settings reread caller fun steps stage => stage.All (Owns created (traceOf steps)) where
  start := trivial
  step := by
    intro steps stage taken verdict owns moves
    rw [traceOf_concat]
    have more : stage.All (Owns created (traceOf steps ++ taken.trace)) := by
      exact owns.imp fun continuation owns => owns.append taken.trace
    exact more.next caller (moves.owns creates owns)

end Lifecycle

/-- Only the creation of a stream processor can be over time, and apart from deletions nothing is removed unless it
is. A step that finds it over time fails for good; it removes at most the stream processor that the run created before,
if the context asks for that, and reports truthfully what came of it. -/
theorem Family.overrun_cleaned_up (settings : Settings) (operation : Operation) (family : Family) {caller : Caller}
    {before after : List (Taken family.Model)} {taken : Taken family.Model} {next : Option Fields}
    (run : (family.lifecycle settings operation).Run (settings.step family) caller (before ++ taken :: after) next) :
    (∀ answered ∈ taken.trace, answered.call.isRemoval = true → operation = .delete ∨
      (family.lifecycle settings operation).Overruns (settings.step family) taken ∧ taken.Flagged true) ∧
    ((family.lifecycle settings operation).Overruns (settings.step family) taken →
      family = .streamProcessor ∧ operation = .create ∧
      ∃ project workspace request remote,
        ⟨.control (.createProcessor project workspace request), .ok remote⟩ ∈ traceOf before ∧
        taken.CleansUp project workspace request.name) := by
  have keeps := family.keeps settings operation
  have cleansUp (overruns : (family.lifecycle settings operation).Overruns (settings.step family) taken) :
      family = .streamProcessor ∧ operation = .create ∧ ∃ project workspace request remote,
        ⟨.control (.createProcessor project workspace request), .ok remote⟩ ∈ traceOf before ∧
        taken.CleansUp project workspace request.name := by
    obtain ⟨continuation, report, owns, timed, context, cleaned, outcome⟩ :=
      keeps.exists_overrun (Lifecycle.invariant_owned (family.createsTimed settings operation)) run overruns
    obtain ⟨answered, member, creation⟩ := owns timed
    have flagged : taken.Flagged continuation.deletesOnTimeout := by
      rw [Taken.Flagged, context, keeps.get?_deleteOnTimeout timed]
    cases family with
    | cluster | privateEndpoint | exportJob => exact creation.elim
    | streamProcessor =>
      obtain ⟨rfl, request, remote, rfl, named⟩ := creation
      refine ⟨rfl, rfl, _, _, request, remote, member, ?_⟩
      rw [named]
      rcases Lifecycle.ends_cleanUp cleaned with ⟨unwanted, silent, same⟩ | ⟨wanted, removed, tried, same⟩
      · rw [Continuation.deletesOnTimeout_reread] at unwanted
        rw [unwanted] at flagged
        cases same
        exact .of_silent flagged silent outcome
      · rw [Continuation.deletesOnTimeout_reread] at wanted
        rw [wanted] at flagged
        obtain ⟨answer, calls, reported⟩ := StreamProcessorLifecycle.ends_cleanup tried
        rw [reported] at same
        cases same
        exact .of_answer flagged calls outcome
  refine ⟨?_, cleansUp⟩
  intro answered member removal
  by_cases deletes : operation = .delete
  · exact .inl deletes
  · right
    have constructive := family.constructive settings deletes
    obtain ⟨stage, verdict, builds, _, moves, _⟩ := keeps.exists_move (Lifecycle.invariant_building constructive) run
    rcases moves.spares (family.looks settings operation) constructive builds with overruns | spares
    · obtain ⟨_, _, _, _, _, _, _, cleaned⟩ := cleansUp overruns
      rcases cleaned.calls with ⟨_, silent⟩ | ⟨flagged, _⟩
      · rw [silent] at member
        cases member
      · exact ⟨overruns, flagged⟩
    · rw [spares answered member] at removal
      cases removal

/-- The stream processor that is to be created. -/
def overdueModel : StreamProcessorModel where
  projectId := some "p"
  workspaceName := some "w"
  processorName := some "n"
  pipeline := some "[]"

/-- The operation that waits for it. -/
def overdueBegun : Continuation StreamProcessorPhase StreamProcessorIds where
  operationId := .nil
  phase := .creating
  ids := { projectId := "p", workspaceName := "w", processorName := "n" }
  timing := some { startedAt := .epoch, timeout := some "20m", deleteOnTimeout := true }

/-- The context in which it waits. -/
def overdueContext : Fields :=
  (Family.streamProcessor.lifecycle {} .create).write Family.streamProcessor.idsRecord overdueBegun

/-- The first step creates the processor. -/
def overdueCreated : Taken StreamProcessorModel where
  fresh := .nil
  context := []
  model := overdueModel
  now := .epoch
  trace := [⟨.control (.createProcessor "p" "w" { name := "n", pipeline := [] }), .ok { name := "n", state := "INIT" }⟩]
  outcome := .inProgress overdueContext (.ofSeconds 3) "Stream processor creation requested"

/-- The second step comes a day later, and its call to delete the processor fails. -/
def overdueRemoved : Taken StreamProcessorModel where
  fresh := .nil
  context := overdueContext
  model := overdueModel
  now := { Instant.epoch with day := 1 }
  trace := [⟨.control (.deleteProcessor "p" "w" "n"), .error (.api 503 "busy")⟩]
  outcome := .ofError (.timeout (.waiting Family.streamProcessor.label .create
    (.failed (GatewayError.api 503 "busy").message)))

theorem decode_overdueContext :
    Context.decode (Family.streamProcessor.lifecycle {} .create).target (Family.streamProcessor.lifecycle {} .create).ids
      overdueContext = .ok (some overdueBegun) :=
  (Family.streamProcessor.keeps {} .create).decode_write (by rintro _ ⟨⟩; decide)

theorem takes_overdueCreated :
    (Family.streamProcessor.lifecycle {} .create).Takes (Settings.step {} .streamProcessor) overdueCreated := by
  refine Lifecycle.takes_of_ends (.note (.call (.note ?_)))
  exact (Family.streamProcessor.keeps {} .create).ends_waiting overdueBegun _

theorem warning?_overdueBegun : (some "20m").bind Budget.warning? = none := by
  decide +kernel

theorem exceeded?_overdueBegun :
    (Budget.exceeded? StepSettings.defaultFallbackTimeout
      { startedAt := .epoch, timeout := some "20m", deleteOnTimeout := true }
      { Instant.epoch with day := 1 }).isSome = true := by
  decide +kernel

theorem takes_overdueRemoved :
    (Family.streamProcessor.lifecycle {} .create).Takes (Settings.step {} .streamProcessor) overdueRemoved := by
  rw [Lifecycle.Takes, overdueRemoved, Lifecycle.step, Lifecycle.tryStep, decode_overdueContext]
  simp only [Lifecycle.resume, Lifecycle.checkTime, overdueBegun, warning?_overdueBegun, Settings.step,
    exceeded?_overdueBegun, if_true, Program.pure_eq, Program.warn_bind, Program.note_bind,
    Program.attempt_note]
  exact .note (.note (.call (.note (.note (.done _)))))

theorem overruns_overdueRemoved :
    (Family.streamProcessor.lifecycle {} .create).Overruns (Settings.step {} .streamProcessor) overdueRemoved := by
  refine ⟨overdueBegun, decode_overdueContext, ?_⟩
  rw [Continuation.isLate, overdueBegun, Option.any_some]
  exact exceeded?_overdueBegun

/-- The processor that was created is to be removed, and the report says what came of that. -/
theorem overdue_cleaned_up : overdueRemoved.CleansUp "p" "w" "n" := by
  have run : (Family.streamProcessor.lifecycle {} .create).Run (Settings.step {} .streamProcessor) .plain
      ([overdueCreated] ++ overdueRemoved :: []) (Caller.plain.next overdueRemoved) :=
    .step (.step .start takes_overdueCreated) takes_overdueRemoved
  obtain ⟨_, overrun⟩ := Family.overrun_cleaned_up {} .create .streamProcessor run
  obtain ⟨_, _, project, workspace, request, remote, member, cleaned⟩ := overrun overruns_overdueRemoved
  obtain ⟨⟩ := List.mem_singleton.mp member
  exact cleaned

end Provisioner
