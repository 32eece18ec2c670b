import Provisioner.Proofs.Step

/-!
# Runs

A run takes step after step, each with the context that the one before returned, from the empty context on
(`Lifecycle.Run`). A caller may also come back after a step that failed, with the context it still has. At every
point a run has not opened its operation, waits in a phase, or has ended (`Stage`); what holds at the start and is kept
by every move from stage to stage (`Lifecycle.Invariant`) holds in all runs (`Lifecycle.Keeps.holds`).
-/
namespace Provisioner

/-- A step that was taken: what it was given, its calls with their answers, and its outcome. -/
structure Taken (M : Type) where
  fresh : OperationId
  context : Fields
  model : M
  now : Instant
  trace : Trace Gateway
  outcome : Outcome M

/-- What a caller does after a step that failed: nothing more, or it comes back with the context it has. -/
inductive Caller where
  | plain
  | persistent
  deriving DecidableEq, Repr

/-- The context with which a caller takes the step after a step, if it takes one. -/
def Caller.next {M : Type} (caller : Caller) (taken : Taken M) : Option Fields :=
  match taken.outcome, caller with
  | .inProgress context _ _, _ => some context
  | .failed .., .persistent => some taken.context
  | .failed .., .plain => none
  | .success .., _ => none

theorem Caller.next_eq_some {M : Type} {caller : Caller} {taken : Taken M} {context : Fields} {delay : Duration}
    {message : String} (waits : taken.outcome = .inProgress context delay message) : caller.next taken = some context := by
  unfold next
  rw [waits]

/-- The calls of some steps with their answers. -/
def traceOf {M : Type} (steps : List (Taken M)) : Trace Gateway :=
  steps.flatMap (·.trace)

/-- Where a run stands. -/
inductive Stage (P I : Type) where
  | unopened
  | waiting (continuation : Continuation P I)
  | ended

/-- The context with which a run goes on. -/
def Stage.context? {P I : Type} (write : Continuation P I → Fields) : Stage P I → Option Fields
  | unopened => some []
  | waiting continuation => some (write continuation)
  | ended => none

/-- What holds of the operation, if one waits. -/
def Stage.All {P I : Type} (p : Continuation P I → Prop) : Stage P I → Prop
  | waiting continuation => p continuation
  | _ => True

/-- What holds of the operation, if a step leaves it waiting. -/
def Verdict.All {P I M : Type} (p : Continuation P I → Prop) : Verdict P I M → Prop
  | waits continuation _ => p continuation
  | _ => True

/-- Where a run stands after a step. -/
def Verdict.stage {P I M : Type} (caller : Caller) (before : Stage P I) : Verdict P I M → Stage P I
  | fails _ =>
    match caller with
    | .plain => .ended
    | .persistent => before
  | waits continuation _ => .waiting continuation
  | succeeds .. => .ended

@[simp] theorem traceOf_nil {M : Type} : traceOf ([] : List (Taken M)) = [] := rfl

@[simp] theorem traceOf_append {M : Type} (before after : List (Taken M)) :
    traceOf (before ++ after) = traceOf before ++ traceOf after :=
  List.flatMap_append

@[simp] theorem traceOf_cons {M : Type} (taken : Taken M) (steps : List (Taken M)) :
    traceOf (taken :: steps) = taken.trace ++ traceOf steps := rfl

theorem traceOf_concat {M : Type} (steps : List (Taken M)) (taken : Taken M) :
    traceOf (steps ++ [taken]) = traceOf steps ++ taken.trace := by
  rw [traceOf_append, traceOf_cons, traceOf_nil, List.append_nil]

section
variable {M P I : Type} {p q : Continuation P I → Prop} {stage : Stage P I} {verdict : Verdict P I M}

theorem Stage.All.imp (all : stage.All p) (weaker : ∀ continuation, p continuation → q continuation) : stage.All q := by
  cases stage with
  | waiting continuation => exact weaker continuation all
  | unopened | ended => trivial

theorem Verdict.all_ofTransition {place : P → I → Continuation P I} {result : Except ProvisionError (Transition P I M)}
    (proceeds : ∀ phase ids message, result = .ok (.proceed phase ids message) → p (place phase ids)) :
    (Verdict.ofTransition place result).All p := by
  rcases result with error | ⟨phase, ids, message⟩ | _
  · trivial
  · exact proceeds phase ids message rfl
  · trivial

/-- After a step an operation waits where the step leaves it, or where it waited before. -/
theorem Stage.All.next (all : stage.All p) (caller : Caller) (left : verdict.All p) :
    (verdict.stage caller stage).All p := by
  cases verdict with
  | waits => exact left
  | succeeds => trivial
  | fails error =>
    cases caller with
    | plain => trivial
    | persistent => exact all

theorem Verdict.All.imp (all : verdict.All p) (weaker : ∀ continuation, p continuation → q continuation) :
    verdict.All q := by
  cases verdict with
  | waits continuation => exact weaker continuation all
  | fails | succeeds => trivial

theorem Verdict.stage_plain_ne (verdict : Verdict P I M) (before : Stage P I) :
    verdict.stage .plain before ≠ .unopened := by
  cases verdict <;> rintro ⟨⟩

/-- A plain caller only waits where the step leaves an operation. -/
theorem Verdict.All.next (left : verdict.All p) (before : Stage P I) : (verdict.stage .plain before).All p := by
  cases verdict with
  | waits => exact left
  | fails | succeeds => trivial

end

namespace Lifecycle
variable {M P I R : Type} [Tagged P] (lifecycle : Lifecycle M P I R) (settings : StepSettings)

/-- A step that the lifecycle can take. -/
def Takes (taken : Taken M) : Prop :=
  (lifecycle.step settings taken.fresh taken.context taken.model taken.now).Ends taken.trace (.ok taken.outcome)

/-- A step is taken where the attempt at it comes to its outcome. -/
theorem takes_of_ends {lifecycle : Lifecycle M P I R} {settings : StepSettings} {taken : Taken M}
    (ends : (lifecycle.tryStep settings taken.fresh taken.context taken.model taken.now).Ends taken.trace
      (.ok taken.outcome)) : lifecycle.Takes settings taken := by
  rw [Takes, step, Program.ends_bind]
  refine .inr ⟨.ok taken.outcome, taken.trace, [], ?_, .done _, (List.append_nil _).symm⟩
  exact Program.ends_attempt.mpr ⟨_, ends, rfl⟩

/-- A step that fails is taken where the attempt at it comes to the error. -/
theorem takes_of_fails {lifecycle : Lifecycle M P I R} {settings : StepSettings} {taken : Taken M}
    (error : ProvisionError)
    (fails : (lifecycle.tryStep settings taken.fresh taken.context taken.model taken.now).Ends taken.trace (.error error))
    (failed : taken.outcome = .ofError error) : lifecycle.Takes settings taken := by
  rw [Takes, step, Program.ends_bind]
  refine .inr ⟨.error error, taken.trace, [], ?_, ?_, (List.append_nil _).symm⟩
  · exact Program.ends_attempt.mpr ⟨_, fails, rfl⟩
  · rw [failed]
    exact .note (.done _)

/-- The steps of a run, and the context with which it goes on if it has not ended. -/
inductive Run (caller : Caller) : List (Taken M) → Option Fields → Prop where
  | start : Run caller [] (some [])
  | step {steps : List (Taken M)} {taken : Taken M} (run : Run caller steps (some taken.context))
    (takes : lifecycle.Takes settings taken) : Run caller (steps ++ [taken]) (caller.next taken)

/-- A step from where a run stands: how its context is read, its calls, and what it decides. -/
inductive Moves (reread : I → I) (taken : Taken M) : Stage P I → Verdict P I M → Prop where
  | opened {verdict : Verdict P I M} (empty : taken.context = [])
    (opening : lifecycle.Opening taken.fresh taken.model taken.now taken.trace verdict) :
    Moves reread taken .unopened verdict
  | rejected {continuation : Continuation P I} {timing : Timing} (known : continuation.timing = some timing)
    (odd : ¬ timing.startedAt.HasPlainYear)
    (decoded : Context.decode (P := P) lifecycle.target lifecycle.ids taken.context =
      .error (.invalidStartTime (String.ofList timing.startedAt.text))) (silent : taken.trace = []) :
    Moves reread taken (.waiting continuation)
      (.fails (.context (.invalidStartTime (String.ofList timing.startedAt.text))))
  | resumed {continuation : Continuation P I} {verdict : Verdict P I M} (plain : continuation.HasPlainStart)
    (decoded : Context.decode lifecycle.target lifecycle.ids taken.context =
      .ok (some (continuation.reread reread)))
    (resumption : lifecycle.Resumption settings (continuation.reread reread) taken.model taken.now taken.trace
      verdict) :
    Moves reread taken (.waiting continuation) verdict

/-- What holds at the start of a run and is kept by every move. -/
structure Invariant (reread : I → I) (caller : Caller) (J : List (Taken M) → Stage P I → Prop) : Prop where
  start : J [] .unopened
  step {steps : List (Taken M)} {stage : Stage P I} {taken : Taken M} {verdict : Verdict P I M} (holds : J steps stage)
    (moves : lifecycle.Moves settings reread taken stage verdict) :
    J (steps ++ [taken]) (verdict.stage caller stage)

variable {lifecycle settings} {caller : Caller} {steps before after : List (Taken M)} {taken : Taken M}
  {next : Option Fields}

/-- Each step of a run is taken where the steps before it lead. -/
theorem Run.of_append (run : lifecycle.Run settings caller (before ++ taken :: after) next) :
    lifecycle.Run settings caller before (some taken.context) ∧ lifecycle.Takes settings taken := by
  generalize whole : before ++ taken :: after = steps at run
  induction run generalizing after with
  | start => simp at whole
  | @step steps last run takes ih =>
    rcases List.eq_nil_or_concat after with rfl | ⟨after, final, rfl⟩
    · obtain ⟨rfl, rfl⟩ := List.append_singleton_inj.mp whole
      exact ⟨run, takes⟩
    · rw [List.concat_eq_append, ← List.cons_append, ← List.append_assoc] at whole
      obtain ⟨same, _⟩ := List.append_singleton_inj.mp whole
      exact ih same

/-- A run begins with the empty context. -/
theorem Run.next_start (run : lifecycle.Run settings caller [] next) : next = some [] := by
  generalize nothing : [] = steps at run
  cases run with
  | start => rfl
  | step => simp at nothing

/-- A run goes on with the context that its last step leaves. -/
theorem Run.next_eq (run : lifecycle.Run settings caller (steps ++ [taken]) next) : next = caller.next taken := by
  generalize whole : steps ++ [taken] = all at run
  cases run with
  | start => simp at whole
  | step =>
    obtain ⟨_, rfl⟩ := List.append_singleton_inj.mp whole
    rfl

/-- No step follows one that leaves the caller without a context. -/
theorem Run.eq_nil_of_next (run : lifecycle.Run settings caller (before ++ taken :: after) next)
    (ends : caller.next taken = none) : after = [] := by
  cases after with
  | nil => rfl
  | cons later after =>
    rw [List.append_cons] at run
    have goes := run.of_append.1.next_eq
    rw [ends] at goes
    cases goes

/-- No step follows one that succeeds. -/
theorem Run.eq_nil_of_success {result : Option M} {message : String}
    (run : lifecycle.Run settings caller (before ++ taken :: after) next)
    (succeeded : taken.outcome = .success result message) : after = [] :=
  run.eq_nil_of_next (by simp [Caller.next, succeeded])

namespace Keeps
variable [Tagged.Distinct P] {record : Record I} {reread : I → I} (keeps : lifecycle.Keeps record reread)
include keeps

omit [Tagged.Distinct P] keeps in
theorem decode_empty : Context.decode (P := P) lifecycle.target lifecycle.ids [] = .ok none := rfl

theorem decode_write {continuation : Continuation P I} (plain : continuation.HasPlainStart) :
    Context.decode lifecycle.target lifecycle.ids (lifecycle.write record continuation) =
      .ok (some (continuation.reread reread)) := by
  rw [keeps.ids_eq, Context.decode_contextOf keeps.fits lifecycle.target plain]

theorem decode_write_of_odd {continuation : Continuation P I} {timing : Timing}
    (known : continuation.timing = some timing) (odd : ¬ timing.startedAt.HasPlainYear) :
    Context.decode (P := P) lifecycle.target lifecycle.ids (lifecycle.write record continuation) =
      .error (.invalidStartTime (String.ofList timing.startedAt.text)) := by
  rw [keeps.ids_eq, Context.decode_contextOf_of_odd keeps.fits lifecycle.target known odd]

/-- A step with the context of a stage is a move from that stage. -/
theorem moves {stage : Stage P I} (stands : stage.context? (lifecycle.write record) = some taken.context)
    (takes : lifecycle.Takes settings taken) :
    ∃ verdict, lifecycle.Moves settings reread taken stage verdict ∧
      taken.outcome = verdict.outcome (lifecycle.write record) settings.pollDelay := by
  obtain ⟨verdict, course, same⟩ := keeps.ends_step takes
  refine ⟨verdict, ?_, Except.ok.inj same⟩
  cases stage with
  | ended => cases stands
  | unopened =>
    have empty : taken.context = [] := (Option.some.inj stands).symm
    have read : Context.decode (P := P) lifecycle.target lifecycle.ids taken.context = .ok none := by
      rw [empty, decode_empty]
    rcases course with ⟨decoded, silent⟩ | ⟨decoded, opening⟩ | ⟨decoded, resumption⟩
    · rw [read] at decoded
      cases decoded
    · exact .opened empty opening
    · rw [read] at decoded
      cases decoded
  | waiting continuation =>
    have context : taken.context = lifecycle.write record continuation := (Option.some.inj stands).symm
    by_cases plain : continuation.HasPlainStart
    · have read := keeps.decode_write plain
      rw [← context] at read
      rcases course with ⟨decoded, silent⟩ | ⟨decoded, opening⟩ | ⟨decoded, resumption⟩
      · rw [read] at decoded
        cases decoded
      · rw [read] at decoded
        cases decoded
      · rw [read] at decoded
        cases decoded
        exact .resumed plain read resumption
    · simp only [Continuation.HasPlainStart, not_forall] at plain
      obtain ⟨timing, known, odd⟩ := plain
      have read := keeps.decode_write_of_odd known odd
      rw [← context] at read
      rcases course with ⟨decoded, silent⟩ | ⟨decoded, opening⟩ | ⟨decoded, resumption⟩
      · rw [read] at decoded
        cases decoded
        exact .rejected known odd read silent
      · rw [read] at decoded
        cases decoded
      · rw [read] at decoded
        cases decoded

/-- The first step of a run opens an operation. -/
theorem opens (run : lifecycle.Run settings caller (taken :: after) next) :
    ∃ verdict, lifecycle.Opening taken.fresh taken.model taken.now taken.trace verdict ∧
      taken.outcome = verdict.outcome (lifecycle.write record) settings.pollDelay := by
  rw [← List.nil_append (taken :: after)] at run
  obtain ⟨begins, takes⟩ := run.of_append
  have stands : (Stage.unopened : Stage P I).context? (lifecycle.write record) = some taken.context := begins.next_start.symm
  obtain ⟨verdict, moves, outcome⟩ := keeps.moves stands takes
  cases moves with
  | opened _ opening => exact ⟨verdict, opening, outcome⟩

/-- An invariant holds in all runs. -/
theorem holds {J : List (Taken M) → Stage P I → Prop} (invariant : lifecycle.Invariant settings reread caller J)
    (run : lifecycle.Run settings caller steps next) :
    ∃ stage, J steps stage ∧ next = stage.context? (lifecycle.write record) := by
  induction run with
  | start => exact ⟨.unopened, invariant.start, rfl⟩
  | step run takes ih =>
    obtain ⟨stage, holds, stands⟩ := ih
    obtain ⟨verdict, moves, outcome⟩ := keeps.moves stands.symm takes
    refine ⟨verdict.stage caller stage, invariant.step holds moves, ?_⟩
    unfold Caller.next
    rw [outcome]
    cases verdict with
    | fails error =>
      cases caller with
      | plain => rfl
      | persistent => exact stands
    | waits | succeeds => rfl

/-- Each step of a run is a move from a stage at which an invariant holds. -/
theorem exists_move {J : List (Taken M) → Stage P I → Prop} (invariant : lifecycle.Invariant settings reread caller J)
    (run : lifecycle.Run settings caller (before ++ taken :: after) next) :
    ∃ stage verdict, J before stage ∧ stage.context? (lifecycle.write record) = some taken.context ∧
      lifecycle.Moves settings reread taken stage verdict ∧
      taken.outcome = verdict.outcome (lifecycle.write record) settings.pollDelay := by
  obtain ⟨before, takes⟩ := run.of_append
  obtain ⟨stage, holds, stands⟩ := keeps.holds invariant before
  obtain ⟨verdict, moves, outcome⟩ := keeps.moves stands.symm takes
  exact ⟨stage, verdict, holds, stands.symm, moves, outcome⟩

section
variable {q : Continuation P I → Prop} {first : Taken M} {continuation : Continuation P I} {rest : List (Taken M)}
  {context : Fields}

/-- What holds of an operation that begins to wait, and is kept by every later step that leaves it waiting, holds as long
as it waits. -/
theorem stays (begun : caller.next first = some (lifecycle.write record continuation)) (holds : q continuation)
    (step : ∀ {taken : Taken M} {continuation : Continuation P I} {verdict : Verdict P I M}, taken ∈ rest →
      q continuation → lifecycle.Moves settings reread taken (.waiting continuation) verdict → verdict.All q)
    (run : lifecycle.Run settings caller (before ++ first :: rest) (some context)) :
    ∃ continuation, q continuation ∧ lifecycle.write record continuation = context := by
  induction rest using List.reverseRecOn generalizing context with
  | nil => exact ⟨continuation, holds, Option.some.inj (begun.symm.trans run.next_eq.symm)⟩
  | append_singleton rest taken ih =>
    rw [← List.cons_append, ← List.append_assoc] at run
    obtain ⟨earlier, takes⟩ := run.of_append
    obtain ⟨continuation, holds, stands⟩ := ih (fun member => step (List.mem_append_left _ member)) earlier
    have waits : (Stage.waiting continuation).context? (lifecycle.write record) = some taken.context := congrArg some stands
    obtain ⟨verdict, moves, outcome⟩ := keeps.moves waits takes
    have left := step (by simp) holds moves
    have goes := run.next_eq
    unfold Caller.next at goes
    rw [outcome] at goes
    cases verdict with
    | waits continuation => exact ⟨continuation, left, (Option.some.inj goes).symm⟩
    | succeeds => cases goes
    | fails error =>
      cases caller with
      | plain => cases goes
      | persistent => exact ⟨continuation, holds, stands.trans (Option.some.inj goes).symm⟩

/-- Each step after an operation began to wait is a move from where it waits. -/
theorem exists_move_after (begun : caller.next first = some (lifecycle.write record continuation))
    (holds : q continuation)
    (step : ∀ {taken : Taken M} {continuation : Continuation P I} {verdict : Verdict P I M}, taken ∈ rest →
      q continuation → lifecycle.Moves settings reread taken (.waiting continuation) verdict → verdict.All q)
    (run : lifecycle.Run settings caller (before ++ first :: rest) next) (member : taken ∈ rest) :
    ∃ continuation verdict, q continuation ∧ lifecycle.write record continuation = taken.context ∧
      lifecycle.Moves settings reread taken (.waiting continuation) verdict ∧
      taken.outcome = verdict.outcome (lifecycle.write record) settings.pollDelay := by
  obtain ⟨middle, after, rfl⟩ := List.append_of_mem member
  rw [← List.cons_append, ← List.append_assoc] at run
  obtain ⟨earlier, takes⟩ := run.of_append
  obtain ⟨continuation, holds, stands⟩ :=
    keeps.stays begun holds (fun member => step (List.mem_append_left _ member)) earlier
  have waits : (Stage.waiting continuation).context? (lifecycle.write record) = some taken.context := congrArg some stands
  obtain ⟨verdict, moves, outcome⟩ := keeps.moves waits takes
  exact ⟨continuation, verdict, holds, stands, moves, outcome⟩

end

end Keeps
end Lifecycle
end Provisioner
