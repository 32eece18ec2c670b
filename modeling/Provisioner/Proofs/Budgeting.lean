import Provisioner.Proofs.Closure
import Provisioner.Proofs.Timeout

/-!
# One budget for a whole operation

The first step of an operation fixes its id, its start and its budget. Every later step reads them from the context and
returns them as they are (`Lifecycle.BegunBy`), whether it goes on waiting or enters another phase, and whatever the
model says by then. As nothing that a lifecycle does by itself takes too long (`Lifecycle.Unhurried`), a later step runs
out of time exactly if the time since that start reaches that budget (`Family.budget_fixed`).
-/
namespace Provisioner

/-- The step fails because time ran out. -/
def Outcome.TimesOut {α : Type} (outcome : Outcome α) : Prop :=
  ∃ message retryable, outcome = .failed message .timeout retryable

/-- The step opens an operation, which waits from then on. -/
structure Taken.Begins {M : Type} (taken : Taken M) : Prop where
  empty : taken.context = []
  waits : taken.outcome.isTerminal = false

/-- The context carries the id of an operation and its timing. -/
structure Context.Carries (context : Fields) (operationId : OperationId) (timing : Timing) : Prop where
  operationId : context.get? "operationId" = some (.string (String.ofList operationId.text))
  startTime : context.get? "startTime" = some (.string (String.ofList timing.startedAt.text))
  timeoutDuration : context.get? "timeoutDuration" = timing.timeout.map .string
  deleteOnTimeout : context.get? "deleteOnTimeout" = some (.bool timing.deleteOnTimeout)

/-- It is not time that ran out. -/
def Untimed {α : Type} (result : Except ProvisionError α) : Prop :=
  ∀ cause, result ≠ .error (.timeout cause)

section
variable {α β : Type} {result : Except ProvisionError α}

@[simp] theorem untimed_ok (value : α) : Untimed (.ok value) := by
  simp [Untimed]

@[simp] theorem untimed_error {error : ProvisionError} (other : ∀ cause, error ≠ .timeout cause) :
    Untimed (.error error : Except ProvisionError α) := by
  rintro cause ⟨⟩
  exact other cause rfl

/-- An error is passed on for the same reason. -/
@[simp] theorem untimed_error_of_eq :
    (∀ error, result = .error error → Untimed (.error error : Except ProvisionError β)) ↔ Untimed result := by
  cases result <;> simp [Untimed]

@[simp] theorem Rejects.untimed (rejects : Rejects result) : Untimed result := by
  intro cause failed
  obtain ⟨_, ⟨⟩⟩ := rejects _ failed

/-- Only the failures of time belong to their category. -/
theorem ProvisionError.category_eq_timeout {error : ProvisionError} :
    error.category = .timeout ↔ ∃ cause, error = .timeout cause := by
  cases error with
  | gateway cause =>
    rw [category]
    split
    · simp
    · split <;> simp
  | _ => simp [category]

end

/-- Nothing that a lifecycle does by itself fails because time ran out. -/
structure Lifecycle.Unhurried {M P I R : Type} (lifecycle : Lifecycle M P I R) : Prop where
  validate (model : M) : Untimed (lifecycle.validate model)
  validateTransition (current : Option R) (model : M) : Untimed (lifecycle.validateTransition current model)
  inspect (model : M) : (lifecycle.inspect model).Always fun _ result => Untimed result
  start (model : M) (current : Option R) : (lifecycle.start model current).Always fun _ result => Untimed result
  observe (phase : P) (ids : I) : (lifecycle.observe phase ids).Always fun _ result => Untimed result
  advance (phase : P) (ids : I) (model : M) (remote : Option R) :
    (lifecycle.advance phase ids model remote).Always fun _ result => Untimed result

theorem PrivateEndpointIds.untimed_known (key : String) (value : Option String) : Untimed (known key value) := by
  cases value <;> simp [known]

@[simp] theorem PrivateEndpointIds.untimed_service (ids : PrivateEndpointIds) : Untimed ids.service :=
  untimed_known _ _

@[simp] theorem PrivateEndpointIds.untimed_interfaceEndpoint (ids : PrivateEndpointIds) :
    Untimed ids.interfaceEndpoint :=
  untimed_known _ _

@[simp] theorem PrivateEndpointIds.untimed_networkEndpoint (ids : PrivateEndpointIds) : Untimed ids.networkEndpoint :=
  untimed_known _ _

theorem PrivateEndpointLifecycle.untimed_deleteService (ids : PrivateEndpointIds) :
    (deleteService ids).Always fun _ result => Untimed result := by
  simp [deleteService]

theorem PrivateEndpointLifecycle.untimed_detachNext (ids : PrivateEndpointIds) (service : EndpointService) :
    (detachNext ids service).Always fun _ result => Untimed result := by
  simp only [detachNext]
  split
  · rw [Program.always_ite]
    exact ⟨fun _ => untimed_deleteService _, fun _ => by simp [removeNetworkEndpoints]⟩
  · simp

theorem Family.unhurried (settings : Settings) (operation : Operation) (family : Family) :
    (family.lifecycle settings operation).Unhurried := by
  cases family with
  | cluster =>
    exact
      { validate model := (rejects_validate settings operation .cluster model).untimed
        validateTransition _ _ := untimed_ok ()
        inspect model := by simp [lifecycle, clusterLifecycle, ClusterLifecycle.look]
        start model current := by cases operation <;> simp [lifecycle, clusterLifecycle, ClusterLifecycle.start]
        observe phase ids := by simp [lifecycle, clusterLifecycle, ClusterLifecycle.look, Observation.ofAnswer]
        advance phase ids model remote := by
          simp only [lifecycle, clusterLifecycle, ClusterLifecycle.advance, ClusterLifecycle.afterIdle]
          split
          · simp
          · rw [Program.always_ite]
            refine ⟨by simp, ?_⟩
            intro _
            split <;> simp
          · simp }
  | streamProcessor =>
    exact
      { validate model := (rejects_validate settings operation .streamProcessor model).untimed
        validateTransition current model :=
          (rejects_validateTransition settings operation .streamProcessor current model).untimed
        inspect model := by simp [lifecycle, streamProcessorLifecycle, StreamProcessorLifecycle.look]
        start model current := by
          cases operation <;>
            simp [lifecycle, streamProcessorLifecycle, StreamProcessorLifecycle.start, StreamProcessorLifecycle.change]
        observe phase ids := by
          simp [lifecycle, streamProcessorLifecycle, StreamProcessorLifecycle.look, Observation.ofAnswer]
        advance phase ids model remote := by
          simp only [lifecycle, streamProcessorLifecycle, StreamProcessorLifecycle.advance]
          split
          · simp
          · rw [Program.always_ite]
            refine ⟨by simp [StreamProcessorLifecycle.startUp], ?_⟩
            intro _
            split <;> simp [StreamProcessorLifecycle.change] }
  | privateEndpoint =>
    exact
      { validate model := (rejects_validate settings operation .privateEndpoint model).untimed
        validateTransition _ _ := untimed_ok ()
        inspect model := by simp [lifecycle, privateEndpointLifecycle, PrivateEndpointLifecycle.look]
        start model current := by
          simp only [lifecycle, privateEndpointLifecycle, PrivateEndpointLifecycle.start, Program.always_lift_bind]
          refine ⟨by simp, ?_⟩
          intro ids _
          split
          · simp
          · exact PrivateEndpointLifecycle.untimed_detachNext _ _
          · simp
        observe phase ids := by
          cases phase <;>
            simp [lifecycle, privateEndpointLifecycle, PrivateEndpointLifecycle.observe, PrivateEndpointLifecycle.look]
        advance phase ids model remote := by
          simp only [lifecycle, privateEndpointLifecycle, PrivateEndpointLifecycle.advance]
          split
          · simp only [PrivateEndpointLifecycle.createNetworkEndpoint]
            split <;> simp
          · simp [PrivateEndpointLifecycle.attachInterface]
          · simp [PrivateEndpointLifecycle.connected]
          · exact PrivateEndpointLifecycle.untimed_detachNext _ _
          · exact PrivateEndpointLifecycle.untimed_deleteService _
          · simp
          · simp }
  | exportJob =>
    exact
      { validate model := (rejects_validate settings operation .exportJob model).untimed
        validateTransition _ _ := untimed_ok ()
        inspect model := by simp [lifecycle, exportJobLifecycle, ExportJobLifecycle.look]
        start model current := by
          cases operation <;> cases current <;> simp [lifecycle, exportJobLifecycle, ExportJobLifecycle.start]
        observe phase ids := by simp [lifecycle, exportJobLifecycle, ExportJobLifecycle.look, Observation.ofAnswer]
        advance phase ids model remote := by
          cases phase <;> cases remote <;> simp [lifecycle, exportJobLifecycle, ExportJobLifecycle.advance] }

/-! ## Steps -/

/-- The step fails because time ran out. -/
def Verdict.TimesOut {P I M : Type} : Verdict P I M → Prop
  | fails error => error.category = .timeout
  | _ => False

section
variable {M P I : Type} {verdict : Verdict P I M}

theorem Verdict.timesOut_outcome {write : Continuation P I → Fields} {delay : Duration} :
    (verdict.outcome write delay).TimesOut ↔ verdict.TimesOut := by
  cases verdict with
  | fails error => simp [Outcome.TimesOut, outcome, TimesOut, Outcome.ofError]
  | waits | succeeds => simp [Outcome.TimesOut, outcome, TimesOut]

theorem Untimed.not_timesOut {error : ProvisionError} (untimed : Untimed (.error error : Except ProvisionError M)) :
    ¬ (Verdict.fails error : Verdict P I M).TimesOut := by
  intro timesOut
  obtain ⟨cause, rfl⟩ := ProvisionError.category_eq_timeout.mp timesOut
  exact untimed cause rfl

theorem Untimed.not_timesOut_ofTransition {place : P → I → Continuation P I}
    {result : Except ProvisionError (Transition P I M)} (untimed : Untimed result) :
    ¬ (Verdict.ofTransition place result).TimesOut := by
  rcases result with error | ⟨_⟩ | ⟨_⟩
  · exact untimed_error_of_eq.mpr untimed error rfl |>.not_timesOut
  · exact id
  · exact id

end

namespace Lifecycle
variable {M P I R : Type} [Tagged P] {lifecycle : Lifecycle M P I R} {settings : StepSettings} {record : Record I}
  {reread : I → I} {caller : Caller} {before rest steps : List (Taken M)} {first taken : Taken M} {next : Option Fields}
  {continuation : Continuation P I} {verdict : Verdict P I M} {timing : Timing}

omit [Tagged P] in
/-- A first step does not run out of time. -/
theorem Opening.not_timesOut (unhurried : lifecycle.Unhurried) {fresh : OperationId} {model : M} {now : Instant}
    {trace : Trace Gateway} (opening : lifecycle.Opening fresh model now trace verdict) : ¬ verdict.TimesOut := by
  cases opening with
  | invalid invalid => exact (untimed_error_of_eq.mpr (unhurried.validate model) _ invalid).not_timesOut
  | uninspected _ inspected => exact (untimed_error_of_eq.mpr (unhurried.inspect model _ _ inspected) _ rfl).not_timesOut
  | refused _ _ _ refused =>
    exact (untimed_error_of_eq.mpr (unhurried.validateTransition _ model) _ refused).not_timesOut
  | acted _ _ _ _ started _ decided =>
    rw [decided]
    exact (unhurried.start model _ _ _ started).not_timesOut_ofTransition
  | alreadyGone => exact id
  | missing => simp [Verdict.TimesOut, ProvisionError.category]

/-- A later step runs out of time exactly if its operation is over time. -/
theorem Resumption.timesOut_iff (unhurried : lifecycle.Unhurried) {model : M} {now : Instant} {trace : Trace Gateway}
    (resumption : lifecycle.Resumption settings continuation model now trace verdict) :
    verdict.TimesOut ↔ continuation.isLate settings.fallbackTimeout now = true := by
  cases resumption with
  | overrun late => simp [Verdict.TimesOut, ProvisionError.category, late]
  | unobserved inTime observed =>
    refine iff_of_false ?_ (by simp [inTime])
    exact (untimed_error_of_eq.mpr (unhurried.observe _ _ _ _ observed) _ rfl).not_timesOut
  | acted inTime _ _ advanced _ decided =>
    refine iff_of_false ?_ (by simp [inTime])
    rw [decided]
    exact (unhurried.advance _ _ model _ _ _ advanced).not_timesOut_ofTransition
  | vanished inTime | faulty inTime | pending inTime => simp [Verdict.TimesOut, ProvisionError.category, inTime]

theorem Moves.timesOut_iff (unhurried : lifecycle.Unhurried) (plain : continuation.HasPlainStart)
    (moves : lifecycle.Moves settings reread taken (.waiting continuation) verdict) :
    verdict.TimesOut ↔ (continuation.reread reread).isLate settings.fallbackTimeout taken.now = true := by
  cases moves with
  | rejected known odd => exact absurd (plain _ known) odd
  | resumed _ _ resumption => exact resumption.timesOut_iff unhurried

/-! ## Operations go on as they began -/

/-- The operation goes on with the id and the timing that its first step gave it. Of its start only what is read back
counts. -/
structure BegunBy (lifecycle : Lifecycle M P I R) (first : Taken M) (continuation : Continuation P I) : Prop where
  operationId : continuation.operationId = first.fresh
  timing : continuation.timing.map Timing.reread = (lifecycle.timing first.model first.now).map Timing.reread

omit [Tagged P] in
theorem BegunBy.readBack (begun : lifecycle.BegunBy first continuation) (reread : I → I) :
    lifecycle.BegunBy first (continuation.reread reread) where
  operationId := begun.operationId
  timing := by
    rw [← begun.timing, Continuation.reread, Option.map_map]
    exact congrArg (Option.map · continuation.timing) (funext Timing.reread_reread)

/-- The first step gives an operation its id and its timing. -/
theorem Moves.begun (moves : lifecycle.Moves settings reread first .unopened verdict) :
    verdict.All (lifecycle.BegunBy first) := by
  cases moves with
  | opened _ opening =>
    cases opening with
    | acted _ _ _ _ _ _ decided =>
      rw [decided]
      exact Verdict.all_ofTransition fun _ _ _ _ => ⟨rfl, rfl⟩
    | _ => trivial

/-- A later step leaves them to it. -/
theorem BegunBy.step (begun : lifecycle.BegunBy first continuation)
    (moves : lifecycle.Moves settings reread taken (.waiting continuation) verdict) :
    verdict.All (lifecycle.BegunBy first) := by
  cases moves with
  | rejected => trivial
  | resumed _ _ resumption =>
    have kept := begun.readBack reread
    cases resumption with
    | pending => exact kept
    | acted _ _ _ _ _ decided =>
      rw [decided]
      exact Verdict.all_ofTransition fun _ _ _ _ => ⟨kept.operationId, kept.timing⟩
    | _ => trivial

/-- Every operation that waits was begun by a step of the run. -/
theorem invariant_begun : lifecycle.Invariant settings reread caller fun steps stage =>
    stage.All fun continuation => ∃ first ∈ steps, lifecycle.BegunBy first continuation where
  start := trivial
  step := by
    intro steps stage taken verdict holds moves
    have earlier {continuation : Continuation P I} : (∃ first ∈ steps, lifecycle.BegunBy first continuation) →
        ∃ first ∈ steps ++ [taken], lifecycle.BegunBy first continuation := by
      rintro ⟨first, member, begun⟩
      exact ⟨first, List.mem_append_left _ member, begun⟩
    refine (holds.imp fun _ => earlier).next caller ?_
    cases stage with
    | unopened => exact moves.begun.imp fun _ begun => ⟨taken, by simp, begun⟩
    | waiting continuation =>
      obtain ⟨first, member, begun⟩ := holds
      exact (begun.step moves).imp fun _ begun => earlier ⟨first, member, begun⟩
    | ended => cases moves

omit [Tagged P] in
/-- An operation goes on in the year in which it began. -/
theorem BegunBy.plain (begun : lifecycle.BegunBy first continuation) (plain : first.now.HasPlainYear) :
    continuation.HasPlainStart := by
  intro timing known
  have same := begun.timing
  rw [Option.mem_def.mp known, Option.map_some, eq_comm, Option.map_eq_some_iff] at same
  obtain ⟨fixed, given, same⟩ := same
  obtain ⟨limits, _, rfl⟩ := Option.map_eq_some_iff.mp given
  have start : first.now.reread = timing.startedAt.reread := congrArg Timing.startedAt same
  have day : first.now.day = timing.startedAt.day := by simpa using congrArg Instant.day start
  rwa [Instant.HasPlainYear, Instant.year, ← day]

omit [Tagged P] in
/-- An operation is over time by the start that its first step gave it, to the millisecond. -/
theorem BegunBy.isLate_iff (begun : lifecycle.BegunBy first continuation) {fallback : Duration} {now : Instant} :
    (continuation.reread reread).isLate fallback now = true ↔
      ∃ timing, lifecycle.timing first.model first.now = some timing ∧
        (Budget.exceeded? fallback timing.reread now).isSome := by
  rw [Continuation.isLate, Continuation.reread, begun.timing]
  cases lifecycle.timing first.model first.now <;> simp

/-- The context of an operation carries its id and its timing as its first step gave them. -/
theorem BegunBy.carries (begun : lifecycle.BegunBy first continuation) (keeps : lifecycle.Keeps record reread)
    (given : lifecycle.timing first.model first.now = some timing) :
    Context.Carries (lifecycle.write record continuation) first.fresh timing := by
  have fields : continuation.timing.map Context.timingFields = some (Context.timingFields timing) := by
    rw [← Context.map_timingFields_reread, begun.timing, Context.map_timingFields_reread, given, Option.map_some]
  have get {key : String} (reserved : Context.isReserved key = true) :=
    Context.get?_contextOf keeps.fits lifecycle.target continuation reserved
  refine ⟨?_, ?_, ?_, ?_⟩
  · rw [get (by decide)]
    simp [Context.reservedList, begun.operationId]
  · rw [get (by decide)]
    simp [Context.reservedList, fields, Context.timingFields]
  · rw [get (by decide)]
    cases limit : timing.timeout <;> simp [Context.reservedList, fields, Context.timingFields, limit]
  · rw [get (by decide)]
    simp [Context.reservedList, fields, Context.timingFields]

namespace Keeps
variable [Tagged.Distinct P] (keeps : lifecycle.Keeps record reread)
include keeps

/-- The step that begins an operation opens it, and leaves it waiting. -/
theorem exists_opening (run : lifecycle.Run settings caller (before ++ first :: rest) next) (begins : first.Begins) :
    ∃ (continuation : Continuation P I) (message : String),
      lifecycle.Opening first.fresh first.model first.now first.trace (.waits continuation message) ∧
      first.outcome = .inProgress (lifecycle.write record continuation) settings.pollDelay message := by
  have starts : (Stage.unopened : Stage P I).context? (lifecycle.write record) = some first.context := by
    rw [begins.empty]
    rfl
  obtain ⟨verdict, moves, outcome⟩ := keeps.moves starts run.of_append.2
  have waits := begins.waits
  rw [outcome] at waits
  cases moves with
  | opened _ opening =>
    cases verdict with
    | fails | succeeds => cases waits
    | waits continuation message => exact ⟨continuation, message, opening, outcome⟩

/-- What it leaves waiting has what it was given. -/
theorem exists_begun (run : lifecycle.Run settings caller (before ++ first :: rest) next) (begins : first.Begins) :
    ∃ continuation message, lifecycle.BegunBy first continuation ∧
      first.outcome = .inProgress (lifecycle.write record continuation) settings.pollDelay message := by
  obtain ⟨continuation, message, opening, outcome⟩ := keeps.exists_opening run begins
  have moves : lifecycle.Moves settings id first .unopened (.waits continuation message) := .opened begins.empty opening
  exact ⟨continuation, message, moves.begun, outcome⟩

/-- Each step after the one that began an operation is a move from where the operation waits. -/
theorem exists_move_begun (run : lifecycle.Run settings caller (before ++ first :: rest) next) (begins : first.Begins)
    (member : taken ∈ rest) :
    ∃ continuation verdict, lifecycle.BegunBy first continuation ∧
      lifecycle.Moves settings reread taken (.waiting continuation) verdict ∧
      taken.outcome = verdict.outcome (lifecycle.write record) settings.pollDelay := by
  obtain ⟨continuation, message, begun, outcome⟩ := keeps.exists_begun run begins
  obtain ⟨continuation, verdict, begun, _, moves, outcome⟩ :=
    keeps.exists_move_after (Caller.next_eq_some outcome) begun (fun _ begun moves => begun.step moves) run member
  exact ⟨continuation, verdict, begun, moves, outcome⟩

/-- A step runs out of time by the budget and the start of the step that began the operation. -/
theorem timesOut_iff (unhurried : lifecycle.Unhurried)
    (run : lifecycle.Run settings caller (before ++ first :: rest) next) (begins : first.Begins)
    (plain : first.now.HasPlainYear) (member : taken ∈ rest) :
    taken.outcome.TimesOut ↔ ∃ timing, lifecycle.timing first.model first.now = some timing ∧
      (Budget.exceeded? settings.fallbackTimeout timing.reread taken.now).isSome := by
  obtain ⟨continuation, verdict, begun, moves, outcome⟩ := keeps.exists_move_begun run begins member
  rw [outcome, Verdict.timesOut_outcome, moves.timesOut_iff unhurried (begun.plain plain), begun.isLate_iff]

/-- From the step that began an operation on, all contexts carry what that step fixed. -/
theorem carries (run : lifecycle.Run settings caller (before ++ first :: rest) next) (begins : first.Begins)
    (given : lifecycle.timing first.model first.now = some timing) (member : taken ∈ first :: rest) {context : Fields}
    {delay : Duration} {message : String} (waits : taken.outcome = .inProgress context delay message) :
    Context.Carries context first.fresh timing := by
  rcases List.mem_cons.mp member with rfl | later
  · obtain ⟨continuation, message, begun, outcome⟩ := keeps.exists_begun run begins
    rw [outcome] at waits
    cases waits
    exact begun.carries keeps given
  · obtain ⟨continuation, verdict, begun, moves, outcome⟩ := keeps.exists_move_begun run begins later
    have left := begun.step moves
    rw [outcome] at waits
    cases verdict with
    | fails | succeeds => cases waits
    | waits continuation =>
      cases waits
      exact left.carries keeps given

/-- Without a budget no step runs out of time. -/
theorem not_timesOut (unhurried : lifecycle.Unhurried) (unlimited : ∀ model, lifecycle.timeoutSettings model = none)
    (run : lifecycle.Run settings caller steps next) (member : taken ∈ steps) : ¬ taken.outcome.TimesOut := by
  obtain ⟨before, after, rfl⟩ := List.append_of_mem member
  obtain ⟨stage, verdict, holds, _, moves, outcome⟩ := keeps.exists_move invariant_begun run
  rw [outcome, Verdict.timesOut_outcome]
  cases stage with
  | unopened =>
    cases moves with
    | opened _ opening => exact opening.not_timesOut unhurried
  | ended => cases moves
  | waiting continuation =>
    obtain ⟨first, _, begun⟩ := holds
    have untimed : continuation.timing = none := by
      simpa [timing, unlimited] using begun.timing
    have plain : continuation.HasPlainStart := by
      rw [Continuation.HasPlainStart, untimed]
      rintro _ ⟨⟩
    rw [moves.timesOut_iff unhurried plain, Continuation.isLate, Continuation.reread, untimed]
    simp

end Keeps
end Lifecycle

/-- The second step of the creation comes within its budget, and finds the processor on its way. -/
def overdueAwaited : Taken StreamProcessorModel where
  fresh := .nil
  context := overdueContext
  model := {}
  now := { Instant.epoch with second := ⟨1199, by decide⟩ }
  trace := [⟨.control (.getProcessor "p" "w" "n"), .ok { name := "n", state := "INIT" }⟩]
  outcome := .inProgress overdueContext (.ofSeconds 3) "stream processor creation in progress (CREATING)"

theorem exceeded?_overdueAwaited :
    (Budget.exceeded? StepSettings.defaultFallbackTimeout
      { startedAt := .epoch, timeout := some "20m", deleteOnTimeout := true }
      { Instant.epoch with second := ⟨1199, by decide⟩ }).isSome = false := by
  decide +kernel

theorem takes_overdueAwaited :
    (Family.streamProcessor.lifecycle {} .create).Takes (Settings.step {} .streamProcessor) overdueAwaited := by
  apply Lifecycle.takes_of_ends
  rw [overdueAwaited, Lifecycle.tryStep, decode_overdueContext]
  simp only [Lifecycle.resume, Lifecycle.checkTime, overdueBegun, warning?_overdueBegun, Settings.step,
    exceeded?_overdueAwaited]
  exact .call ((Family.streamProcessor.keeps {} .create).ends_waiting overdueBegun _)

end Provisioner
