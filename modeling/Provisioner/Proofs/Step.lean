import Provisioner.Lifecycle.Step
import Provisioner.Proofs.Context
import Provisioner.Proofs.Trace

/-!
# What a step comes to

A step fails, waits in a phase, or succeeds (`Verdict`). Without a context it opens an operation (`Opening`), with one
it resumes it (`Resumption`); each case of these relations is a way the step can go, with the calls made on that way.
`Lifecycle.Keeps.ends_step` says that there is no other way. Where identifiers fit into a context, writing one never
fails, so that nothing can go wrong any more once an action has been taken.
-/
namespace Provisioner

/-- What a step decides. -/
inductive Verdict (P I M : Type) where
  | fails (error : ProvisionError)
  | waits (continuation : Continuation P I) (message : String)
  | succeeds (model : Option M) (message : String)

namespace Verdict
variable {P I M : Type}

/-- What is decided after acting, or that acting failed. A phase to wait in is a place of the operation. -/
@[simp]
def ofTransition (place : P → I → Continuation P I) : Except ProvisionError (Transition P I M) → Verdict P I M
  | .error error => fails error
  | .ok (.proceed phase ids message) => waits (place phase ids) message
  | .ok (.complete model message) => succeeds model message

/-- The outcome of a step, or its error, with a writer of contexts. -/
@[simp]
def result (write : Continuation P I → Fields) (delay : Duration) : Verdict P I M → Except ProvisionError (Outcome M)
  | fails error => .error error
  | waits continuation message => .ok (.inProgress (write continuation) delay message)
  | succeeds model message => .ok (.success model message)

/-- The outcome of a step. -/
def outcome (write : Continuation P I → Fields) (delay : Duration) : Verdict P I M → Outcome M
  | fails error => .ofError error
  | waits continuation message => .inProgress (write continuation) delay message
  | succeeds model message => .success model message

variable {place : P → I → Continuation P I} {transition : Except ProvisionError (Transition P I M)}

@[simp] theorem fails_eq_ofTransition {error : ProvisionError} :
    fails error = ofTransition place transition ↔ transition = .error error := by
  rcases transition with _ | _ | _ <;> simp [eq_comm]

@[simp] theorem waits_eq_ofTransition {continuation : Continuation P I} {message : String} :
    waits continuation message = ofTransition place transition ↔
      ∃ phase ids, transition = .ok (.proceed phase ids message) ∧ continuation = place phase ids := by
  rcases transition with _ | _ | _ <;> simp [and_comm, eq_comm]

@[simp] theorem succeeds_eq_ofTransition {model : Option M} {message : String} :
    succeeds model message = ofTransition place transition ↔ transition = .ok (.complete model message) := by
  rcases transition with _ | _ | _ <;> simp [eq_comm]

end Verdict

/-- The resource, where it is there. -/
def Observation.remote? {R : Type} : Observation R → Option R
  | found remote => some remote
  | absent => none

/-- The operation is over time. -/
def Continuation.isLate {P I : Type} (fallback : Duration) (continuation : Continuation P I) (now : Instant) : Bool :=
  continuation.timing.any fun timing => (Budget.exceeded? fallback timing now).isSome

/-- Only what has time can be over time. -/
theorem Continuation.isSome_of_isLate {P I : Type} {fallback : Duration} {continuation : Continuation P I} {now : Instant}
    (late : continuation.isLate fallback now = true) : continuation.timing.isSome :=
  Option.isSome_of_any late

/-- The resource is to be deleted when the operation is over time. -/
def Continuation.deletesOnTimeout {P I : Type} (continuation : Continuation P I) : Bool :=
  (continuation.timing.map (·.deleteOnTimeout)).getD false

/-- The report on an attempt to remove a resource. -/
def CleanupReport.ofRemoval : Except ProvisionError Unit → CleanupReport
  | .ok () => deleted
  | .error error => failed error.message

namespace Lifecycle
variable {M P I R : Type} [Tagged P]

/-- The identifiers of a lifecycle are those of a record, and fit into contexts. -/
structure Keeps (lifecycle : Lifecycle M P I R) (record : Record I) (reread : I → I) : Prop where
  ids_eq : lifecycle.ids = record.shape
  fits : record.Fits reread

variable (lifecycle : Lifecycle M P I R) (settings : StepSettings)

/-- The context in which an operation waits. -/
abbrev write (record : Record I) (continuation : Continuation P I) : Fields :=
  Context.contextOf lifecycle.target record continuation

/-- What was seen is what a phase waits for. -/
def isDue (phase : P) : Observation R → Bool
  | .found remote => lifecycle.isReached phase remote
  | .absent => lifecycle.awaitsAbsence phase

/-- An operation that a first step opens, in the phase it begins with. -/
def place (fresh : OperationId) (model : M) (now : Instant) (phase : P) (ids : I) : Continuation P I :=
  { operationId := fresh, phase, ids, timing := lifecycle.timing model now }

/-- The first step: its calls, and what it decides. -/
inductive Opening (fresh : OperationId) (model : M) (now : Instant) : Trace Gateway → Verdict P I M → Prop where
  | invalid {trace : Trace Gateway} {error : ProvisionError} (invalid : lifecycle.validate model = .error error)
    (silent : trace = []) : Opening fresh model now trace (.fails error)
  | uninspected {trace : Trace Gateway} {error : ProvisionError} (valid : lifecycle.validate model = .ok ())
    (inspected : (lifecycle.inspect model).Ends trace (.error error)) : Opening fresh model now trace (.fails error)
  | alreadyGone {trace : Trace Gateway} (valid : lifecycle.validate model = .ok ())
    (inspected : (lifecycle.inspect model).Ends trace (.ok (some .absent))) (deletes : lifecycle.operation = .delete) :
    Opening fresh model now trace (.succeeds none s!"{lifecycle.label} does not exist")
  | missing {trace : Trace Gateway} (valid : lifecycle.validate model = .ok ())
    (inspected : (lifecycle.inspect model).Ends trace (.ok (some .absent))) (needed : lifecycle.operation ≠ .delete) :
    Opening fresh model now trace (.fails (.notFound (.resource lifecycle.label)))
  | refused {trace : Trace Gateway} {seen : Option (Observation R)} {error : ProvisionError}
    (valid : lifecycle.validate model = .ok ()) (inspected : (lifecycle.inspect model).Ends trace (.ok seen))
    (present : seen ≠ some .absent)
    (refused : lifecycle.validateTransition (seen.bind Observation.remote?) model = .error error) :
    Opening fresh model now trace (.fails error)
  | acted {trace before after : Trace Gateway} {verdict : Verdict P I M} {seen : Option (Observation R)}
    {result : Except ProvisionError (Transition P I M)} (valid : lifecycle.validate model = .ok ())
    (inspected : (lifecycle.inspect model).Ends before (.ok seen)) (present : seen ≠ some .absent)
    (allowed : lifecycle.validateTransition (seen.bind Observation.remote?) model = .ok ())
    (started : (lifecycle.start model (seen.bind Observation.remote?)).Ends after result)
    (calls : trace = before ++ after) (decided : verdict = .ofTransition (lifecycle.place fresh model now) result) :
    Opening fresh model now trace verdict

/-- A step after the first: its calls, and what it decides. -/
inductive Resumption (continuation : Continuation P I) (model : M) (now : Instant) :
    Trace Gateway → Verdict P I M → Prop where
  | overrun {trace : Trace Gateway} {report : CleanupReport}
    (late : continuation.isLate settings.fallbackTimeout now = true)
    (cleaned : (lifecycle.cleanUp continuation).Ends trace (.ok report)) :
    Resumption continuation model now trace (.fails (.timeout (.waiting lifecycle.label lifecycle.operation report)))
  | unobserved {trace : Trace Gateway} {error : ProvisionError}
    (inTime : continuation.isLate settings.fallbackTimeout now = false)
    (observed : (lifecycle.observe continuation.phase continuation.ids).Ends trace (.error error)) :
    Resumption continuation model now trace (.fails error)
  | vanished {trace : Trace Gateway} (inTime : continuation.isLate settings.fallbackTimeout now = false)
    (observed : (lifecycle.observe continuation.phase continuation.ids).Ends trace (.ok .absent))
    (needed : lifecycle.awaitsAbsence continuation.phase = false) :
    Resumption continuation model now trace
      (.fails (.notFound (.whileWaiting lifecycle.label (Tagged.tag continuation.phase))))
  | faulty {trace : Trace Gateway} {remote : R} {fault : RemoteFault}
    (inTime : continuation.isLate settings.fallbackTimeout now = false)
    (observed : (lifecycle.observe continuation.phase continuation.ids).Ends trace (.ok (.found remote)))
    (unreached : lifecycle.isReached continuation.phase remote = false)
    (lost : lifecycle.fault? continuation.phase remote = some fault) :
    Resumption continuation model now trace (.fails (.remoteFailure fault))
  | pending {trace : Trace Gateway} {remote : R} (inTime : continuation.isLate settings.fallbackTimeout now = false)
    (observed : (lifecycle.observe continuation.phase continuation.ids).Ends trace (.ok (.found remote)))
    (unreached : lifecycle.isReached continuation.phase remote = false)
    (sound : lifecycle.fault? continuation.phase remote = none) :
    Resumption continuation model now trace
      (.waits continuation
        s!"{lifecycle.label} {lifecycle.operation.noun} in progress ({Tagged.tag continuation.phase})")
  | acted {trace before after : Trace Gateway} {verdict : Verdict P I M} {seen : Observation R}
    {result : Except ProvisionError (Transition P I M)}
    (inTime : continuation.isLate settings.fallbackTimeout now = false)
    (observed : (lifecycle.observe continuation.phase continuation.ids).Ends before (.ok seen))
    (due : lifecycle.isDue continuation.phase seen = true)
    (advanced : (lifecycle.advance continuation.phase continuation.ids model seen.remote?).Ends after result)
    (calls : trace = before ++ after) (decided : verdict = .ofTransition continuation.advance result) :
    Resumption continuation model now trace verdict

/-- A step: its calls, and what it decides. -/
inductive Course (fresh : OperationId) (context : Fields) (model : M) (now : Instant) :
    Trace Gateway → Verdict P I M → Prop where
  | rejected {trace : Trace Gateway} {error : ContextError}
    (decoded : Context.decode (P := P) lifecycle.target lifecycle.ids context = .error error) (silent : trace = []) :
    Course fresh context model now trace (.fails (.context error))
  | opened {trace : Trace Gateway} {verdict : Verdict P I M}
    (decoded : Context.decode (P := P) lifecycle.target lifecycle.ids context = .ok none)
    (opening : lifecycle.Opening fresh model now trace verdict) : Course fresh context model now trace verdict
  | resumed {trace : Trace Gateway} {verdict : Verdict P I M} {continuation : Continuation P I}
    (decoded : Context.decode lifecycle.target lifecycle.ids context = .ok (some continuation))
    (resumption : lifecycle.Resumption settings continuation model now trace verdict) :
    Course fresh context model now trace verdict

/-! ## No other way -/

section
variable {lifecycle settings} {trace : Trace Gateway}

omit [Tagged P] in
/-- An action whose transition is followed by no call comes to what the transition decides. -/
theorem ends_decided {action : Action (Transition P I M)} {next : Transition P I M → Action (Outcome M)}
    {place : P → I → Continuation P I} {write : Continuation P I → Fields} {delay : Duration}
    {result : Except ProvisionError (Outcome M)}
    (silent : ∀ transition, ∀ {trace result}, (next transition).Ends trace result →
      trace = [] ∧ result = (Verdict.ofTransition place (.ok transition)).result write delay)
    (ends : (action >>= next).Ends trace result) :
    ∃ transition, action.Ends trace transition ∧ result = (Verdict.ofTransition place transition).result write delay := by
  rcases Program.ends_bind.mp ends with ⟨error, failed, rfl⟩ | ⟨transition, before, after, acted, later, rfl⟩
  · exact ⟨.error error, failed, rfl⟩
  · obtain ⟨rfl, rfl⟩ := silent transition later
    rw [List.append_nil]
    exact ⟨.ok transition, acted, rfl⟩

omit [Tagged P] in
/-- Removing what was begun always comes to a report, and is only tried where the caller wants it. -/
theorem ends_cleanUp {continuation : Continuation P I} {result : Except ProvisionError CleanupReport}
    (ends : (lifecycle.cleanUp continuation).Ends trace result) :
    (continuation.deletesOnTimeout = false ∧ trace = [] ∧ result = .ok .notAttempted) ∨
      (continuation.deletesOnTimeout = true ∧ ∃ removed, (lifecycle.cleanup continuation.ids).Ends trace removed ∧
        result = .ok (CleanupReport.ofRemoval removed)) := by
  rw [cleanUp, ← Continuation.deletesOnTimeout] at ends
  by_cases wanted : continuation.deletesOnTimeout = true
  · rw [if_pos wanted] at ends
    rcases Program.ends_bind.mp ends with ⟨error, failed, rfl⟩ | ⟨removed, before, after, tried, later, rfl⟩
    · simp at failed
    · obtain ⟨removed, tried, ⟨⟩⟩ := Program.ends_attempt.mp tried
      rcases removed with error | _
      · simp only [Program.warn_bind, Program.ends_note, Program.pure_eq, Program.ends_done] at later
        obtain ⟨rfl, rfl⟩ := later
        rw [List.append_nil]
        exact .inr ⟨wanted, _, tried, rfl⟩
      · simp only [Program.pure_eq, Program.ends_done] at later
        obtain ⟨rfl, rfl⟩ := later
        rw [List.append_nil]
        exact .inr ⟨wanted, _, tried, rfl⟩
  · rw [if_neg wanted] at ends
    obtain ⟨rfl, rfl⟩ := Program.ends_done.mp ends
    exact .inl ⟨by simpa using wanted, rfl, rfl⟩

omit [Tagged P] in
theorem ends_checkTime {continuation : Continuation P I} {now : Instant} {result : Except ProvisionError Unit}
    (ends : (lifecycle.checkTime settings continuation now).Ends trace result) :
    (continuation.isLate settings.fallbackTimeout now = false ∧ trace = [] ∧ result = .ok ()) ∨
      (continuation.isLate settings.fallbackTimeout now = true ∧ ∃ report,
        (lifecycle.cleanUp continuation).Ends trace (.ok report) ∧
          result = .error (.timeout (.waiting lifecycle.label lifecycle.operation report))) := by
  rw [checkTime] at ends
  cases timed : continuation.timing with
  | none =>
    rw [timed] at ends
    obtain ⟨rfl, rfl⟩ := Program.ends_done.mp ends
    exact .inl ⟨by simp [Continuation.isLate, timed], rfl, rfl⟩
  | some timing =>
    -- a budget that is no duration is reported, which makes no call
    have ends : (if (Budget.exceeded? settings.fallbackTimeout timing now).isSome then do
          Program.warn "Operation timed out"
          let report ← lifecycle.cleanUp continuation
          .fail (.timeout (.waiting lifecycle.label lifecycle.operation report))
        else pure () : Action Unit).Ends trace result := by
      rw [timed] at ends
      cases warned : timing.timeout.bind Budget.warning? <;> simpa [warned] using ends
    by_cases late : (Budget.exceeded? settings.fallbackTimeout timing now).isSome = true
    · have isLate : continuation.isLate settings.fallbackTimeout now = true := by simp [Continuation.isLate, timed, late]
      rw [if_pos late, Program.warn_bind, Program.ends_note] at ends
      rcases Program.ends_bind.mp ends with ⟨error, failed, rfl⟩ | ⟨report, before, after, cleaned, later, rfl⟩
      · rcases ends_cleanUp failed with ⟨_, _, ⟨⟩⟩ | ⟨_, _, _, ⟨⟩⟩
      · obtain ⟨rfl, rfl⟩ := Program.ends_fail.mp later
        rw [List.append_nil]
        exact .inr ⟨isLate, report, cleaned, rfl⟩
    · rw [if_neg late] at ends
      obtain ⟨rfl, rfl⟩ := Program.ends_done.mp ends
      exact .inl ⟨by simpa [Continuation.isLate, timed] using late, rfl, rfl⟩

end

namespace Keeps
variable {lifecycle settings} {record : Record I} {reread : I → I} (keeps : lifecycle.Keeps record reread)

include keeps

theorem write_ne_nil (continuation : Continuation P I) : lifecycle.write record continuation ≠ [] := by
  intro empty
  have written : (lifecycle.write record continuation).isEmpty = false :=
    Context.contextOf_ne_nil keeps.fits lifecycle.target continuation
  rw [empty] at written
  cases written

theorem waiting_eq (continuation : Continuation P I) (message : String) :
    lifecycle.waiting settings continuation message =
      .done (.inProgress (lifecycle.write record continuation) settings.pollDelay message) := by
  rw [waiting, keeps.ids_eq, Context.encode_eq keeps.fits]

theorem ends_waiting (continuation : Continuation P I) (message : String) :
    (lifecycle.waiting settings continuation message).Ends []
      (.ok (.inProgress (lifecycle.write record continuation) settings.pollDelay message)) := by
  rw [keeps.waiting_eq]
  exact .done _

variable {trace : Trace Gateway} {result : Except ProvisionError (Outcome M)}

theorem ends_launch {fresh : OperationId} {model : M} {now : Instant} {current : Option R}
    (allowed : lifecycle.validateTransition current model = .ok ())
    (ends : (lifecycle.launch settings fresh model now current).Ends trace result) :
    ∃ transition, (lifecycle.start model current).Ends trace transition ∧
      result = (Verdict.ofTransition (lifecycle.place fresh model now) transition).result (lifecycle.write record)
        settings.pollDelay := by
  simp only [launch, allowed, Program.lift_ok_bind] at ends
  refine ends_decided ?_ ends
  rintro (⟨phase, ids, message⟩ | ⟨model, message⟩) trace result later
  · simpa [keeps.waiting_eq, place] using later
  · simpa using later

theorem ends_proceed {continuation : Continuation P I} {model : M} {remote : Option R}
    (ends : (lifecycle.proceed settings continuation model remote).Ends trace result) :
    ∃ transition, (lifecycle.advance continuation.phase continuation.ids model remote).Ends trace transition ∧
      result = (Verdict.ofTransition continuation.advance transition).result (lifecycle.write record)
        settings.pollDelay := by
  refine ends_decided ?_ ends
  rintro (⟨phase, ids, message⟩ | ⟨model, message⟩) trace result later
  · simpa [keeps.waiting_eq] using later
  · simpa using later

/-- The first step goes one of the ways of `Opening`. -/
theorem ends_firstStep {fresh : OperationId} {model : M} {now : Instant}
    (ends : (lifecycle.firstStep settings fresh model now).Ends trace result) :
    ∃ verdict, lifecycle.Opening fresh model now trace verdict ∧
      result = verdict.result (lifecycle.write record) settings.pollDelay := by
  rw [firstStep] at ends
  cases valid : lifecycle.validate model with
  | error error =>
    simp only [valid, Program.lift_error_bind, Program.ends_fail] at ends
    obtain ⟨rfl, rfl⟩ := ends
    exact ⟨_, .invalid valid rfl, rfl⟩
  | ok =>
    simp only [valid, Program.lift_ok_bind] at ends
    rcases Program.ends_bind.mp ends with ⟨error, failed, rfl⟩ | ⟨seen, before, after, inspected, later, rfl⟩
    · exact ⟨_, .uninspected valid failed, rfl⟩
    · have launched (present : seen ≠ some .absent)
          (later : (lifecycle.launch settings fresh model now (seen.bind Observation.remote?)).Ends after result) :
          ∃ verdict, lifecycle.Opening fresh model now (before ++ after) verdict ∧
            result = verdict.result (lifecycle.write record) settings.pollDelay := by
        cases allowed : lifecycle.validateTransition (seen.bind Observation.remote?) model with
        | error error =>
          simp only [launch, allowed, Program.lift_error_bind, Program.ends_fail] at later
          obtain ⟨rfl, rfl⟩ := later
          rw [List.append_nil]
          exact ⟨_, .refused valid inspected present allowed, rfl⟩
        | ok =>
          obtain ⟨transition, started, rfl⟩ := keeps.ends_launch allowed later
          exact ⟨_, .acted valid inspected present allowed started rfl rfl, rfl⟩
      rcases seen with _ | remote | _
      · exact launched (by simp) later
      · exact launched (by simp) later
      · by_cases deletes : lifecycle.operation = .delete
        · simp only [deletes, if_true, Program.info_bind, Program.ends_note, Program.pure_eq, Program.ends_done] at later
          obtain ⟨rfl, rfl⟩ := later
          rw [List.append_nil]
          exact ⟨_, .alreadyGone valid inspected deletes, rfl⟩
        · simp only [deletes, if_false, Program.ends_fail] at later
          obtain ⟨rfl, rfl⟩ := later
          rw [List.append_nil]
          exact ⟨_, .missing valid inspected deletes, rfl⟩

/-- A step after the first goes one of the ways of `Resumption`. -/
theorem ends_resume {continuation : Continuation P I} {model : M} {now : Instant}
    (ends : (lifecycle.resume settings continuation model now).Ends trace result) :
    ∃ verdict, lifecycle.Resumption settings continuation model now trace verdict ∧
      result = verdict.result (lifecycle.write record) settings.pollDelay := by
  rw [resume] at ends
  rcases Program.ends_bind.mp ends with ⟨error, failed, rfl⟩ | ⟨_, before, rest, passed, later, rfl⟩
  · rcases ends_checkTime failed with ⟨_, _, ⟨⟩⟩ | ⟨late, report, cleaned, ⟨⟩⟩
    exact ⟨_, .overrun late cleaned, rfl⟩
  rcases ends_checkTime passed with ⟨inTime, rfl, _⟩ | ⟨_, _, _, ⟨⟩⟩
  rw [List.nil_append]
  rcases Program.ends_bind.mp later with ⟨error, failed, rfl⟩ | ⟨seen, before, after, observed, acted, rfl⟩
  · exact ⟨_, .unobserved inTime failed, rfl⟩
  have proceeded (due : lifecycle.isDue continuation.phase seen = true)
      (acted : (lifecycle.proceed settings continuation model seen.remote?).Ends after result) :
      ∃ verdict, lifecycle.Resumption settings continuation model now (before ++ after) verdict ∧
        result = verdict.result (lifecycle.write record) settings.pollDelay := by
    obtain ⟨transition, advanced, rfl⟩ := keeps.ends_proceed acted
    exact ⟨_, .acted inTime observed due advanced rfl rfl, rfl⟩
  rcases seen with remote | _ <;> dsimp only at acted
  · by_cases reached : lifecycle.isReached continuation.phase remote = true
    · rw [if_pos reached] at acted
      exact proceeded reached acted
    · have unreached : lifecycle.isReached continuation.phase remote = false := by simpa using reached
      rw [if_neg reached] at acted
      cases lost : lifecycle.fault? continuation.phase remote with
      | some fault =>
        rw [lost] at acted
        obtain ⟨rfl, rfl⟩ := Program.ends_fail.mp acted
        rw [List.append_nil]
        exact ⟨_, .faulty inTime observed unreached lost, rfl⟩
      | none =>
        rw [lost] at acted
        simp only [keeps.waiting_eq, Program.ends_done] at acted
        obtain ⟨rfl, rfl⟩ := acted
        rw [List.append_nil]
        exact ⟨_, .pending inTime observed unreached lost, rfl⟩
  · by_cases awaited : lifecycle.awaitsAbsence continuation.phase = true
    · rw [if_pos awaited] at acted
      exact proceeded awaited acted
    · rw [if_neg awaited] at acted
      obtain ⟨rfl, rfl⟩ := Program.ends_fail.mp acted
      rw [List.append_nil]
      exact ⟨_, .vanished inTime observed (by simpa using awaited), rfl⟩

theorem ends_tryStep {fresh : OperationId} {context : Fields} {model : M} {now : Instant}
    (ends : (lifecycle.tryStep settings fresh context model now).Ends trace result) :
    ∃ verdict, lifecycle.Course settings fresh context model now trace verdict ∧
      result = verdict.result (lifecycle.write record) settings.pollDelay := by
  rw [tryStep] at ends
  rcases decoded : Context.decode (P := P) lifecycle.target lifecycle.ids context with error | _ | continuation
  · rw [decoded] at ends
    obtain ⟨rfl, rfl⟩ := Program.ends_fail.mp ends
    exact ⟨_, .rejected decoded rfl, rfl⟩
  · rw [decoded] at ends
    obtain ⟨verdict, opening, rfl⟩ := keeps.ends_firstStep ends
    exact ⟨verdict, .opened decoded opening, rfl⟩
  · rw [decoded] at ends
    obtain ⟨verdict, resumption, rfl⟩ := keeps.ends_resume ends
    exact ⟨verdict, .resumed decoded resumption, rfl⟩

/-- A step goes one of the ways of `Course`, and its outcome is the one decided there. -/
theorem ends_step {fresh : OperationId} {context : Fields} {model : M} {now : Instant}
    {result : Except Empty (Outcome M)}
    (ends : (lifecycle.step settings fresh context model now).Ends trace result) :
    ∃ verdict, lifecycle.Course settings fresh context model now trace verdict ∧
      result = .ok (verdict.outcome (lifecycle.write record) settings.pollDelay) := by
  rw [step] at ends
  rcases Program.ends_bind.mp ends with ⟨error, _, _⟩ | ⟨tried, before, after, attempted, later, rfl⟩
  · exact error.elim
  obtain ⟨tried, attempted, ⟨⟩⟩ := Program.ends_attempt.mp attempted
  obtain ⟨verdict, course, rfl⟩ := keeps.ends_tryStep attempted
  refine ⟨verdict, ?_⟩
  cases verdict with
  | fails error =>
    simp only [Verdict.result, Program.warn_bind, Program.ends_note, Program.pure_eq, Program.ends_done] at later
    obtain ⟨rfl, rfl⟩ := later
    rw [List.append_nil]
    exact ⟨course, rfl⟩
  | waits | succeeds =>
    simp only [Verdict.result, Program.pure_eq, Program.ends_done] at later
    obtain ⟨rfl, rfl⟩ := later
    rw [List.append_nil]
    exact ⟨course, rfl⟩

end Keeps

end Lifecycle
end Provisioner
