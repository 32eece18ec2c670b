import Provisioner.Proofs.Calls
import Provisioner.Proofs.Run

/-!
# Accounts of runs

An account of an operation says what its calls are like at any time, what they are like while it waits in a phase, and
what they were like when it succeeds (`Account`). If looking and acting uphold an account of a model
(`Lifecycle.Upholds`), it is true of all runs with that model until one of its steps fails (`Lifecycle.Upholds.holds`).
-/
namespace Provisioner

/-- What is told of the calls of an operation: at any time, while it waits, and when it succeeds. -/
structure Account (M P I : Type) where
  calls : Trace Gateway → Prop
  waits : Trace Gateway → P → I → Prop
  succeeds : Trace Gateway → Option M → Prop

namespace Account
variable {M P I : Type} (account : Account M P I)

/-- What is told once an action is over. -/
@[simp]
def Acted (trace : Trace Gateway) : Except ProvisionError (Transition P I M) → Prop
  | .error _ => True
  | .ok (.proceed phase ids _) => account.waits trace phase ids
  | .ok (.complete result _) => account.succeeds trace result

/-- What is told once an action is over that some calls came before. -/
def Acts (past after : Trace Gateway) (result : Except ProvisionError (Transition P I M)) : Prop :=
  account.calls (past ++ after) ∧ account.Acted (past ++ after) result

end Account

/-! ## Actions that make one call -/

/-- One call is made; its result leads on, and its error ends the action. -/
def CallsOnce {α : Type} (c : Call) (next : c.Result → α) (trace : Trace Gateway) (result : Except ProvisionError α) :
    Prop :=
  ∃ answer, trace = [⟨c, answer⟩] ∧ result = (answer.mapError .gateway).map next

/-- The action fails without a call. -/
def FailsSilently {α : Type} (trace : Trace Gateway) (result : Except ProvisionError α) : Prop :=
  trace = [] ∧ ∃ error, result = .error error

section
variable {α : Type} {trace : Trace Gateway} {result : Except ProvisionError α}

theorem callsOnce_ask {c : Call} {next : c.Result → α}
    (ends : ((Program.ask (ι := Gateway) c >>= Action.require) >>= fun value => .done (next value)).Ends trace result) :
    CallsOnce c next trace result := by
  obtain ⟨answer, rest, rfl, later⟩ := Program.ends_call.mp ends
  rcases answer with error | value
  · obtain ⟨rfl, rfl⟩ := Program.ends_fail.mp later
    exact ⟨.error error, rfl, rfl⟩
  · obtain ⟨rfl, rfl⟩ := Program.ends_done.mp later
    exact ⟨.ok value, rfl, rfl⟩

/-- An action that needs a value fails silently without it. -/
theorem failsSilently_or_lift {β : Type} {value : Except ProvisionError β} {f : β → Action α}
    (ends : ((monadLift value : Action β) >>= f).Ends trace result) :
    FailsSilently trace result ∨ ∃ found, value = .ok found ∧ (f found).Ends trace result := by
  rcases value with error | found
  · obtain ⟨rfl, rfl⟩ := Program.ends_fail.mp ends
    exact .inl ⟨rfl, error, rfl⟩
  · exact .inr ⟨found, rfl, ends⟩

end

namespace Account
variable {M P I : Type} {account : Account M P I} {past after : Trace Gateway}
  {result : Except ProvisionError (Transition P I M)}

theorem acts_of_failsSilently (calls : account.calls past) (fails : FailsSilently after result) :
    account.Acts past after result := by
  obtain ⟨rfl, error, rfl⟩ := fails
  rw [Acts, List.append_nil]
  exact ⟨calls, trivial⟩

/-- After one call, what is told of its result depends on where that leads. -/
theorem acts_of_callsOnce {c : Call} {next : c.Result → Transition P I M} (once : CallsOnce c next after result)
    (calls : ∀ answer, account.calls (past ++ [⟨c, answer⟩]))
    (leads : ∀ value, after = [⟨c, .ok value⟩] → account.Acted (past ++ [⟨c, .ok value⟩]) (.ok (next value))) :
    account.Acts past after result := by
  obtain ⟨answer, rfl, rfl⟩ := once
  refine ⟨calls answer, ?_⟩
  rcases answer with error | value
  · trivial
  · exact leads value rfl

end Account

namespace Lifecycle
variable {M P I R : Type}

/-- The first action is taken after what was seen. -/
def Launches (lifecycle : Lifecycle M P I R) (model : M) (seen : Except ProvisionError (Option (Observation R))) : Prop :=
  ∃ found, seen = .ok found ∧ found ≠ some .absent ∧
    lifecycle.validateTransition (found.bind Observation.remote?) model = .ok ()

/-- Looking and acting uphold an account of a model, provided the answers are fitting. -/
structure Upholds (lifecycle : Lifecycle M P I R) (reread : I → I) (fitting : Answered Gateway → Prop) (model : M)
    (account : Account M P I) : Prop where
  unopened : account.calls []
  reread {past : Trace Gateway} {phase : P} {ids : I} (waits : account.waits past phase ids) :
    account.waits past phase (reread ids)
  inspect (valid : lifecycle.validate model = .ok ()) : (lifecycle.inspect model).Always fun look seen =>
    ¬ lifecycle.Launches model seen →
      account.calls look ∧ (seen = .ok (some .absent) → lifecycle.operation = .delete → account.succeeds look none)
  start {look : Trace Gateway} {seen : Option (Observation R)} (valid : lifecycle.validate model = .ok ())
    (inspected : (lifecycle.inspect model).Ends look (.ok seen)) (present : seen ≠ some .absent)
    (allowed : lifecycle.validateTransition (seen.bind Observation.remote?) model = .ok ()) :
    (lifecycle.start model (seen.bind Observation.remote?)).Always fun after result =>
      (∀ answered ∈ after, fitting answered) → account.Acts look after result
  observe {past : Trace Gateway} {phase : P} {ids : I} (calls : account.calls past)
    (waits : account.waits past phase ids) : (lifecycle.observe phase ids).Always fun look _ =>
      account.calls (past ++ look) ∧ account.waits (past ++ look) phase ids
  advance {past look : Trace Gateway} {phase : P} {ids : I} {seen : Observation R}
    (valid : lifecycle.validate model = .ok ()) (calls : account.calls (past ++ look))
    (waits : account.waits (past ++ look) phase ids) (observed : (lifecycle.observe phase ids).Ends look (.ok seen))
    (due : lifecycle.isDue phase seen = true) : (lifecycle.advance phase ids model seen.remote?).Always fun after result =>
      (∀ answered ∈ after, fitting answered) → account.Acts (past ++ look) after result
  cleanup {past : Trace Gateway} {phase : P} {ids : I} (timed : (lifecycle.timeoutSettings model).isSome)
    (calls : account.calls past) (waits : account.waits past phase ids) : (lifecycle.cleanup ids).Always fun trace _ =>
      account.calls (past ++ trace)

namespace Upholds
variable [Tagged P] {lifecycle : Lifecycle M P I R} {settings : StepSettings} {reread : I → I}
  {fitting : Answered Gateway → Prop} {model : M} {account : Account M P I} {past trace : Trace Gateway}
  {verdict : Verdict P I M} {continuation : Continuation P I} {fresh : OperationId} {now : Instant} {taken : Taken M}
  {stage : Stage P I} {steps : List (Taken M)} {next : Option Fields}

/-- What is told of an operation that waits; only one that has time may be over time. -/
structure Told (lifecycle : Lifecycle M P I R) (model : M) (account : Account M P I) (trace : Trace Gateway)
    (continuation : Continuation P I) : Prop where
  valid : lifecycle.validate model = .ok ()
  timed : continuation.timing.isSome → (lifecycle.timeoutSettings model).isSome
  waits : account.waits trace continuation.phase continuation.ids

/-- What is told of a step that was decided. -/
def Decided (lifecycle : Lifecycle M P I R) (model : M) (account : Account M P I) (trace : Trace Gateway) :
    Verdict P I M → Prop
  | .fails _ => True
  | .waits continuation _ => Told lifecycle model account trace continuation
  | .succeeds result _ => account.succeeds trace result

omit [Tagged P] in
theorem decided_ofTransition {result : Except ProvisionError (Transition P I M)}
    {place : P → I → Continuation P I} (valid : lifecycle.validate model = .ok ()) (acted : account.Acted trace result)
    (placed : ∀ phase ids, (place phase ids).phase = phase ∧ (place phase ids).ids = ids)
    (timed : ∀ phase ids, (place phase ids).timing.isSome → (lifecycle.timeoutSettings model).isSome) :
    Decided lifecycle model account trace (.ofTransition place result) := by
  rcases result with error | ⟨phase, ids, message⟩ | ⟨result, message⟩
  · trivial
  · refine ⟨valid, timed phase ids, ?_⟩
    rw [(placed phase ids).1, (placed phase ids).2]
    exact acted
  · exact acted

omit [Tagged P] in
theorem opening (upholds : lifecycle.Upholds reread fitting model account)
    (opening : lifecycle.Opening fresh model now trace verdict) (fits : ∀ answered ∈ trace, fitting answered) :
    account.calls trace ∧ Decided lifecycle model account trace verdict := by
  cases opening with
  | invalid _ silent =>
    rw [silent]
    exact ⟨upholds.unopened, trivial⟩
  | uninspected valid inspected =>
    refine ⟨(upholds.inspect valid _ _ inspected ?_).1, trivial⟩
    rintro ⟨_, ⟨⟩, _⟩
  | missing valid inspected =>
    refine ⟨(upholds.inspect valid _ _ inspected ?_).1, trivial⟩
    rintro ⟨_, ⟨⟩, present, _⟩
    exact present rfl
  | refused valid inspected _ refused =>
    refine ⟨(upholds.inspect valid _ _ inspected ?_).1, trivial⟩
    rintro ⟨_, ⟨⟩, _, allowed⟩
    rw [refused] at allowed
    cases allowed
  | alreadyGone valid inspected deletes =>
    obtain ⟨calls, gone⟩ := upholds.inspect valid _ _ inspected (by rintro ⟨_, ⟨⟩, present, _⟩; exact present rfl)
    exact ⟨calls, gone rfl deletes⟩
  | @acted before after _ seen _ valid inspected present allowed started calls decided =>
    rw [calls] at fits
    obtain ⟨called, acted⟩ := upholds.start valid inspected present allowed _ _ started
      fun answered member => fits answered (List.mem_append_right _ member)
    rw [calls, decided]
    refine ⟨called, decided_ofTransition valid acted (fun _ _ => ⟨rfl, rfl⟩) ?_⟩
    intro phase ids timed
    rwa [place, timing, Option.isSome_map] at timed

theorem resumption (upholds : lifecycle.Upholds reread fitting model account)
    (resumption : lifecycle.Resumption settings continuation model now trace verdict)
    (fits : ∀ answered ∈ trace, fitting answered) (calls : account.calls past)
    (told : Told lifecycle model account past continuation) :
    account.calls (past ++ trace) ∧ Decided lifecycle model account (past ++ trace) verdict := by
  obtain ⟨valid, timed, waits⟩ := told
  cases resumption with
  | overrun late cleaned =>
    refine ⟨?_, trivial⟩
    rcases ends_cleanUp cleaned with ⟨_, rfl, _⟩ | ⟨_, removed, tried, _⟩
    · rwa [List.append_nil]
    · exact upholds.cleanup (timed (Continuation.isSome_of_isLate late)) calls waits _ _ tried
  | unobserved _ observed | vanished _ observed | faulty _ observed =>
    exact ⟨(upholds.observe calls waits _ _ observed).1, trivial⟩
  | pending _ observed =>
    obtain ⟨called, waits⟩ := upholds.observe calls waits _ _ observed
    exact ⟨called, valid, timed, waits⟩
  | @acted before after _ seen _ _ observed due advanced split decided =>
    obtain ⟨called, waits⟩ := upholds.observe calls waits _ _ observed
    rw [split] at fits
    obtain ⟨called, acted⟩ := upholds.advance valid called waits observed due _ _ advanced
      fun answered member => fits answered (List.mem_append_right _ member)
    rw [split, decided, ← List.append_assoc]
    exact ⟨called, decided_ofTransition valid acted (fun _ _ => ⟨rfl, rfl⟩) fun _ _ => timed⟩

theorem moves (upholds : lifecycle.Upholds reread fitting taken.model account)
    (moves : lifecycle.Moves settings reread taken stage verdict) (fits : ∀ answered ∈ taken.trace, fitting answered)
    (first : stage = .unopened → past = []) (calls : account.calls past)
    (told : stage.All (Told lifecycle taken.model account past)) :
    account.calls (past ++ taken.trace) ∧ Decided lifecycle taken.model account (past ++ taken.trace) verdict := by
  cases moves with
  | opened _ opening =>
    rw [first rfl, List.nil_append]
    exact upholds.opening opening fits
  | rejected _ _ _ silent =>
    rw [silent, List.append_nil]
    exact ⟨calls, trivial⟩
  | @resumed continuation _ _ _ resumption =>
    obtain ⟨valid, timed, waits⟩ := told
    refine upholds.resumption resumption fits calls ⟨valid, ?_, upholds.reread waits⟩
    rwa [Continuation.isSome_timing_reread]

/-- What is told of a run before a step. -/
structure Stands (lifecycle : Lifecycle M P I R) (model : M) (account : Account M P I) (trace : Trace Gateway)
    (stage : Stage P I) : Prop where
  first : stage = .unopened → trace = []
  calls : account.calls trace
  told : stage.All (Told lifecycle model account trace)

theorem invariant (upholds : lifecycle.Upholds reread fitting model account) :
    lifecycle.Invariant settings reread .plain fun steps stage =>
      (∀ taken ∈ steps, taken.model = model) → (∀ answered ∈ traceOf steps, fitting answered) →
        Stands lifecycle model account (traceOf steps) stage where
  start _ _ := ⟨fun _ => rfl, upholds.unopened, trivial⟩
  step := by
    intro steps stage taken verdict holds moves same fits
    rw [traceOf_concat] at fits ⊢
    obtain ⟨earlier, last⟩ := List.forall_mem_append.mp same
    obtain ⟨before, after⟩ := List.forall_mem_append.mp fits
    obtain rfl : taken.model = model := last taken List.mem_cons_self
    obtain ⟨first, calls, told⟩ := holds earlier before
    obtain ⟨calls, decided⟩ := upholds.moves moves after first calls told
    refine ⟨fun opened => absurd opened (verdict.stage_plain_ne stage), calls, ?_⟩
    refine Verdict.All.next ?_ stage
    cases verdict with
    | waits => exact decided
    | fails | succeeds => trivial

/-- An account that is upheld is true of all runs. -/
theorem holds [Tagged.Distinct P] {record : Record I} (upholds : lifecycle.Upholds reread fitting model account)
    (keeps : lifecycle.Keeps record reread) (run : lifecycle.Run settings .plain steps next)
    (same : ∀ taken ∈ steps, taken.model = model) (fits : ∀ answered ∈ traceOf steps, fitting answered) :
    account.calls (traceOf steps) ∧ ∀ taken ∈ steps, ∀ result message, taken.outcome = .success result message →
      account.succeeds (traceOf steps) result := by
  refine ⟨?_, ?_⟩
  · obtain ⟨stage, stands, _⟩ := keeps.holds upholds.invariant run
    exact (stands same fits).calls
  · intro taken member result message succeeded
    obtain ⟨before, after, rfl⟩ := List.append_of_mem member
    obtain rfl : after = [] := run.eq_nil_of_success succeeded
    obtain ⟨earlier, last⟩ := List.forall_mem_append.mp same
    rw [traceOf_concat] at fits ⊢
    obtain ⟨fits, fits'⟩ := List.forall_mem_append.mp fits
    obtain rfl : taken.model = model := last taken List.mem_cons_self
    obtain ⟨stage, verdict, stands, _, moves, outcome⟩ := keeps.exists_move upholds.invariant run
    obtain ⟨first, calls, told⟩ := stands earlier fits
    obtain ⟨_, decided⟩ := upholds.moves moves fits' first calls told
    rw [succeeded] at outcome
    cases verdict with
    | fails | waits => cases outcome
    | succeeds =>
      cases outcome
      exact decided

end Upholds
end Lifecycle
end Provisioner
