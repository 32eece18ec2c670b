import Provisioner.Proofs.Calls
import Provisioner.Proofs.Family

/-!
# Failed steps change nothing

A step that fails, but not because time ran out, has changed nothing: looking changes nothing, and an action fails only
as long as it has changed nothing (`Careful`). A caller may therefore come back with the context it has. What it creates
on the way is counted by the phases that come after a creation (`CreatesOnce`): a run as a whole creates everything at
most once.
-/
namespace Provisioner

/-- Where an action fails, it has changed nothing. -/
def Atomic {α : Type} (trace : Trace Gateway) (result : Except ProvisionError α) : Prop :=
  ∀ error, result = .error error → Untouched trace

@[simp] theorem atomic_ok {α : Type} {trace : Trace Gateway} {value : α} :
    Atomic trace (.ok value : Except ProvisionError α) := by
  simp [Atomic]

@[simp] theorem atomic_error {α : Type} {trace : Trace Gateway} {error : ProvisionError} :
    Atomic trace (.error error : Except ProvisionError α) ↔ Untouched trace := by
  simp [Atomic]

namespace Lifecycle
variable {M P I R : Type} [Tagged P]

/-- An action that fails changes nothing. -/
structure Careful (lifecycle : Lifecycle M P I R) : Prop where
  start (model : M) (current : Option R) : (lifecycle.start model current).Always Atomic
  advance (phase : P) (ids : I) (model : M) (remote : Option R) :
    (lifecycle.advance phase ids model remote).Always Atomic

variable {lifecycle : Lifecycle M P I R} {settings : StepSettings} {trace : Trace Gateway} {error : ProvisionError}
  {record : Record I} {reread : I → I}

omit [Tagged P] in
theorem Opening.untouched (looks : lifecycle.Looks) (careful : lifecycle.Careful) {fresh : OperationId} {model : M}
    {now : Instant} (opening : lifecycle.Opening fresh model now trace (.fails error)) : Untouched trace := by
  cases opening with
  | invalid _ silent => simp [silent]
  | uninspected _ inspected | missing _ inspected | refused _ inspected =>
    exact (looks.inspect _ _ _ inspected).untouched
  | acted _ inspected _ _ started calls decided =>
    rw [calls, untouched_append]
    exact ⟨(looks.inspect _ _ _ inspected).untouched,
      careful.start _ _ _ _ started _ (Verdict.fails_eq_ofTransition.mp decided)⟩

/-- Only the removal of a resource that was not ready in time changes something in a step that fails. -/
theorem Resumption.untouched (looks : lifecycle.Looks) (careful : lifecycle.Careful)
    {continuation : Continuation P I} {model : M} {now : Instant}
    (resumption : lifecycle.Resumption settings continuation model now trace (.fails error)) :
    (∃ report, error = .timeout (.waiting lifecycle.label lifecycle.operation report) ∧
      (lifecycle.cleanUp continuation).Ends trace (.ok report)) ∨ Untouched trace := by
  cases resumption with
  | overrun _ cleaned => exact .inl ⟨_, rfl, cleaned⟩
  | unobserved _ observed | vanished _ observed | faulty _ observed =>
    exact .inr (looks.observe _ _ _ _ observed).untouched
  | acted _ observed _ advanced calls decided =>
    right
    rw [calls, untouched_append]
    exact ⟨(looks.observe _ _ _ _ observed).untouched,
      careful.advance _ _ _ _ _ _ advanced _ (Verdict.fails_eq_ofTransition.mp decided)⟩

/-- A step that fails, but not because time ran out, has changed nothing. -/
theorem Careful.untouched (careful : lifecycle.Careful) (looks : lifecycle.Looks)
    (keeps : lifecycle.Keeps record reread) {taken : Taken M} (takes : lifecycle.Takes settings taken)
    {message : String} {category : ErrorCategory} {retryable : Bool}
    (failed : taken.outcome = .failed message category retryable) (other : category ≠ .timeout) :
    Untouched taken.trace := by
  obtain ⟨verdict, course, same⟩ := keeps.ends_step takes
  rw [failed, Except.ok.injEq] at same
  cases verdict with
  | waits | succeeds => cases same
  | fails error =>
    cases same
    cases course with
    | rejected _ silent => simp [silent]
    | opened _ opening => exact opening.untouched looks careful
    | resumed _ resumption =>
      rcases resumption.untouched looks careful with ⟨report, rfl, _⟩ | untouched
      · exact absurd rfl other
      · exact untouched

end Lifecycle

/-! ## The families -/

namespace ClusterLifecycle

theorem careful (reserved : Label) (operation : Operation) : (clusterLifecycle reserved operation).Careful where
  start model current := by cases operation <;> simp [clusterLifecycle, start]
  advance phase ids model remote := by
    simp only [clusterLifecycle, advance, afterIdle]
    split
    · simp
    · simp only [Program.always_ite, Program.pure_eq, Program.always_done, atomic_ok, implies_true, true_and]
      intro _
      split <;> simp
    · simp

end ClusterLifecycle

namespace StreamProcessorLifecycle

theorem careful (budget : String) (operation : Operation) : (streamProcessorLifecycle budget operation).Careful where
  start model current := by cases operation <;> simp [streamProcessorLifecycle, start, change]
  advance phase ids model remote := by
    simp only [streamProcessorLifecycle, advance]
    split
    · simp
    · rw [Program.always_ite]
      refine ⟨by simp [startUp], ?_⟩
      intro _
      split <;> simp [change]

end StreamProcessorLifecycle

namespace PrivateEndpointLifecycle

theorem atomic_detachNext (ids : PrivateEndpointIds) (service : EndpointService) :
    (detachNext ids service).Always Atomic := by
  simp only [detachNext, deleteService, removeNetworkEndpoints]
  split <;> simp

theorem careful (operation : Operation) : (privateEndpointLifecycle operation).Careful where
  start model current := by
    rcases current with _ | (_ | _ | _ | _) <;> cases operation <;>
      simp [privateEndpointLifecycle, start, atomic_detachNext]
  advance phase ids model remote := by
    simp only [privateEndpointLifecycle, advance]
    split
    · simp only [createNetworkEndpoint]
      split <;> simp
    · simp [attachInterface]
    · simp [connected]
    · exact atomic_detachNext _ _
    · simp [deleteService]
    · simp
    · simp

end PrivateEndpointLifecycle

namespace ExportJobLifecycle

theorem careful (completion : String) (operation : Operation) : (exportJobLifecycle completion operation).Careful where
  start model current := by
    cases operation <;> cases current <;> simp [exportJobLifecycle, start]
  advance phase ids model remote := by
    cases phase <;> cases remote <;> simp [exportJobLifecycle, advance]

end ExportJobLifecycle

/-- The lifecycles of all families are careful. -/
theorem Family.careful (settings : Settings) (operation : Operation) (family : Family) :
    (family.lifecycle settings operation).Careful := by
  cases family with
  | cluster => exact ClusterLifecycle.careful _ _
  | streamProcessor => exact StreamProcessorLifecycle.careful _ _
  | privateEndpoint => exact PrivateEndpointLifecycle.careful _
  | exportJob => exact ExportJobLifecycle.careful _ _

/-! ## Nothing is created twice -/

section
variable {P I M : Type}

/-- How often a resource may have been created when an action comes to something: not at all before a phase that does
not come after its creation, and once otherwise. -/
def allowance (past : P → Bool) (before : Nat) : Except ProvisionError (Transition P I M) → Nat
  | .error _ => before
  | .ok (.proceed phase _ _) => (past phase).toNat
  | .ok (.complete _ _) => 1

/-- An action creates resources of a kind as often as allowed, counting those created before. -/
def Creates (creation : Creation) (past : P → Bool) (before : Nat) (trace : Trace Gateway)
    (result : Except ProvisionError (Transition P I M)) : Prop :=
  before + creations creation trace ≤ allowance past before result

end

/-- A kind of resource is created at most once, on the way to the phases that come after its creation. -/
structure Lifecycle.CreatesOnce {M P I R : Type} [Tagged P] (lifecycle : Lifecycle M P I R) (creation : Creation)
    (past : P → Bool) : Prop where
  start (model : M) (current : Option R) : (lifecycle.start model current).Always (Creates creation past 0)
  advance (phase : P) (ids : I) (model : M) (remote : Option R) :
    (lifecycle.advance phase ids model remote).Always (Creates creation past (past phase).toNat)
  cleanup (ids : I) : (lifecycle.cleanup ids).Always fun trace _ => creations creation trace = 0

/-- The phases of a family that come after a creation, in any operation. -/
def Family.isPast (creation : Creation) : (family : Family) → family.Phase → Bool
  | .privateEndpoint, phase =>
    match creation, phase with
    | .networkEndpoint, .serviceProvisioning => false
    | .interface, .serviceProvisioning => false
    | .interface, .creatingNetworkEndpoint => false
    | _, _ => true
  | _, _ => true

attribute [local simp] Creates allowance Family.isPast

theorem ClusterLifecycle.createsOnce (reserved : Label) (operation : Operation) (creation : Creation) :
    (clusterLifecycle reserved operation).CreatesOnce creation (Family.isPast creation .cluster) where
  start model current := by cases operation <;> cases creation <;> simp [clusterLifecycle, start]
  advance phase ids model remote := by
    simp only [clusterLifecycle, advance, afterIdle]
    split
    · simp
    · rw [Program.always_ite]
      refine ⟨by simp, ?_⟩
      intro _
      split <;> simp
    · simp
  cleanup ids := by simp [clusterLifecycle]

theorem StreamProcessorLifecycle.createsOnce (budget : String) (operation : Operation) (creation : Creation) :
    (streamProcessorLifecycle budget operation).CreatesOnce creation (Family.isPast creation .streamProcessor) where
  start model current := by
    cases operation <;> cases creation <;> simp [streamProcessorLifecycle, start, change]
  advance phase ids model remote := by
    simp only [streamProcessorLifecycle, advance]
    split
    · simp
    · rw [Program.always_ite]
      refine ⟨by simp [startUp], ?_⟩
      intro _
      split <;> simp [change]
  cleanup ids := by simp [streamProcessorLifecycle, cleanup]

namespace PrivateEndpointLifecycle
variable {creation : Creation}

/-- Taking an endpoint apart creates nothing. -/
theorem creates_detachNext {before : Nat} (few : before ≤ 1) (ids : PrivateEndpointIds) (service : EndpointService) :
    (detachNext ids service).Always (Creates creation (Family.isPast creation .privateEndpoint) before) := by
  simp only [detachNext, deleteService, removeNetworkEndpoints]
  split <;> simp [few]

theorem createsOnce (operation : Operation) (creation : Creation) :
    (privateEndpointLifecycle operation).CreatesOnce creation (Family.isPast creation .privateEndpoint) where
  start model current := by
    rcases current with _ | (_ | _ | _ | _) <;> cases operation <;> cases creation <;>
      simp [privateEndpointLifecycle, start, creates_detachNext]
  advance phase ids model remote := by
    simp only [privateEndpointLifecycle, advance]
    split
    · simp only [createNetworkEndpoint]
      split <;> cases creation <;> simp
    · cases creation <;> simp [attachInterface]
    · simp [connected]
    · exact creates_detachNext (Bool.toNat_le _) _ _
    · simp [deleteService]
    · simp
    · simp
  cleanup ids := by simp [privateEndpointLifecycle]

end PrivateEndpointLifecycle

theorem ExportJobLifecycle.createsOnce (completion : String) (operation : Operation) (creation : Creation) :
    (exportJobLifecycle completion operation).CreatesOnce creation (Family.isPast creation .exportJob) where
  start model current := by
    cases operation <;> cases current <;> cases creation <;> simp [exportJobLifecycle, start]
  advance phase ids model remote := by
    cases phase <;> cases remote <;> simp [exportJobLifecycle, advance]
  cleanup ids := by simp [exportJobLifecycle]

/-- Resources of every kind are created at most once, in every family. -/
theorem Family.createsOnce (settings : Settings) (operation : Operation) (creation : Creation) (family : Family) :
    (family.lifecycle settings operation).CreatesOnce creation (family.isPast creation) := by
  cases family with
  | cluster => exact ClusterLifecycle.createsOnce _ _ _
  | streamProcessor => exact StreamProcessorLifecycle.createsOnce _ _ _
  | privateEndpoint => exact PrivateEndpointLifecycle.createsOnce _ _
  | exportJob => exact ExportJobLifecycle.createsOnce _ _ _

/-! ## Runs -/

/-- How often a resource may have been created where a run stands. -/
def Stage.allowance {P I : Type} (past : P → Bool) : Stage P I → Nat
  | unopened => 0
  | waiting continuation => (past continuation.phase).toNat
  | ended => 1

section
variable {P I M : Type} {caller : Caller} {past : P → Bool}

theorem Stage.allowance_le_one (stage : Stage P I) : stage.allowance past ≤ 1 := by
  cases stage with
  | unopened => exact Nat.zero_le 1
  | waiting continuation => exact Bool.toNat_le _
  | ended => exact Nat.le_refl 1

/-- After a step that failed a caller has at least the context it had. -/
theorem Stage.allowance_le_fails (stage : Stage P I) (error : ProvisionError) :
    stage.allowance past ≤ ((.fails error : Verdict P I M).stage caller stage).allowance past := by
  cases caller with
  | plain => exact stage.allowance_le_one
  | persistent => exact Nat.le_refl _

theorem Stage.allowance_ofTransition (stage : Stage P I) {place : P → I → Continuation P I}
    (kept : ∀ phase ids, (place phase ids).phase = phase) (result : Except ProvisionError (Transition P I M)) :
    Provisioner.allowance past (stage.allowance past) result ≤
      ((Verdict.ofTransition place result).stage caller stage).allowance past := by
  rcases result with error | ⟨phase, ids, message⟩ | ⟨model, message⟩
  · exact stage.allowance_le_fails error
  · simp [Provisioner.allowance, Verdict.stage, Stage.allowance, kept]
  · exact Nat.le_refl 1

end

namespace Lifecycle
variable {M P I R : Type} [Tagged P] {lifecycle : Lifecycle M P I R} {settings : StepSettings}
  {reread : I → I} {caller : Caller} {creation : Creation} {past : P → Bool} {taken : Taken M} {stage : Stage P I}
  {verdict : Verdict P I M}

omit [Tagged P] in
theorem creations_le_of_reads {trace : Trace Gateway} (reads : Reads trace) (error : ProvisionError) :
    stage.allowance past + creations creation trace ≤
      ((.fails error : Verdict P I M).stage caller stage).allowance past := by
  rw [reads.creations_eq_zero]
  exact stage.allowance_le_fails error

theorem Opening.creations_le (looks : lifecycle.Looks) (once : lifecycle.CreatesOnce creation past)
    {fresh : OperationId} {model : M} {now : Instant} {trace : Trace Gateway}
    (opening : lifecycle.Opening fresh model now trace verdict) :
    (Stage.unopened : Stage P I).allowance past + creations creation trace ≤
      (verdict.stage caller .unopened).allowance past := by
  cases opening with
  | alreadyGone _ inspected =>
    rw [(looks.inspect _ _ _ inspected).creations_eq_zero]
    exact Nat.zero_le 1
  | acted _ inspected _ _ started calls decided =>
    rw [calls, creations_append, (looks.inspect _ _ _ inspected).creations_eq_zero, Nat.zero_add, decided]
    exact (once.start _ _ _ _ started).trans (Stage.allowance_ofTransition .unopened (fun _ _ => rfl) _)
  | invalid _ silent => exact creations_le_of_reads (by simp [silent]) _
  | uninspected _ inspected | missing _ inspected | refused _ inspected =>
    exact creations_le_of_reads (looks.inspect _ _ _ inspected) _

theorem Resumption.creations_le (looks : lifecycle.Looks) (once : lifecycle.CreatesOnce creation past)
    {kept continuation : Continuation P I} (same : kept.phase = continuation.phase) {model : M} {now : Instant}
    {trace : Trace Gateway} (resumption : lifecycle.Resumption settings continuation model now trace verdict) :
    (Stage.waiting kept).allowance past + creations creation trace ≤
      (verdict.stage caller (.waiting kept)).allowance past := by
  cases resumption with
  | overrun _ cleaned =>
    have uncreated : creations creation trace = 0 := by
      rcases ends_cleanUp cleaned with ⟨_, rfl, _⟩ | ⟨_, _, removed, _⟩
      · rfl
      · exact once.cleanup _ _ _ removed
    rw [uncreated]
    exact (Stage.waiting kept).allowance_le_fails _
  | unobserved _ observed | vanished _ observed | faulty _ observed =>
    exact creations_le_of_reads (looks.observe _ _ _ _ observed) _
  | pending _ observed =>
    rw [(looks.observe _ _ _ _ observed).creations_eq_zero, Stage.allowance, same]
    exact Nat.le_refl _
  | acted _ observed _ advanced calls decided =>
    rw [calls, creations_append, (looks.observe _ _ _ _ observed).creations_eq_zero, Nat.zero_add, decided]
    refine Nat.le_trans ?_ (Stage.allowance_ofTransition (.waiting kept) (fun _ _ => rfl) _)
    rw [Stage.allowance, same]
    exact once.advance _ _ _ _ _ _ advanced

/-- A step creates no more than is allowed where it leads. -/
theorem Moves.creations_le (looks : lifecycle.Looks) (once : lifecycle.CreatesOnce creation past)
    (moves : lifecycle.Moves settings reread taken stage verdict) :
    stage.allowance past + creations creation taken.trace ≤ (verdict.stage caller stage).allowance past := by
  cases moves with
  | opened _ opening => exact opening.creations_le looks once
  | rejected _ _ _ silent => exact creations_le_of_reads (by simp [silent]) _
  | @resumed continuation _ _ _ resumption =>
    have same : continuation.phase = (continuation.reread reread).phase := rfl
    exact resumption.creations_le looks once same

theorem invariant_creations (looks : lifecycle.Looks) (once : lifecycle.CreatesOnce creation past) :
    lifecycle.Invariant settings reread caller fun steps stage =>
      creations creation (traceOf steps) ≤ stage.allowance past where
  start := by simp
  step := by
    intro steps stage taken verdict few moves
    have more : stage.allowance past + creations creation taken.trace ≤ (verdict.stage caller stage).allowance past :=
      moves.creations_le looks once
    rw [traceOf_concat, creations_append]
    omega

end Lifecycle

/-- A step that fails, but not because time ran out, has changed nothing. Consequently a caller may come back with the
context it has after any step that failed: in every run everything is created at most once. -/
theorem Family.untouched_of_failed_and_creations_le_one (settings : Settings) (operation : Operation)
    (family : Family) :
    (∀ (taken : Taken family.Model) (message : String) (category : ErrorCategory) (retryable : Bool),
      (family.lifecycle settings operation).Takes (settings.step family) taken →
      taken.outcome = .failed message category retryable → category ≠ .timeout → Untouched taken.trace) ∧
    ∀ (caller : Caller) (steps : List (Taken family.Model)) (next : Option Fields) (creation : Creation),
      (family.lifecycle settings operation).Run (settings.step family) caller steps next →
      creations creation (traceOf steps) ≤ 1 := by
  have keeps := family.keeps settings operation
  have looks := family.looks settings operation
  have careful := family.careful settings operation
  refine ⟨fun taken _ _ _ takes failed other => careful.untouched looks keeps takes failed other, ?_⟩
  intro caller steps next creation run
  have once := family.createsOnce settings operation creation
  obtain ⟨stage, few, _⟩ := keeps.holds (Lifecycle.invariant_creations looks once) run
  exact few.trans stage.allowance_le_one

/-- The first step of an export, by the answer to its call and what it comes to. -/
def exportStep (answer : Except GatewayError RemoteExportJob) (outcome : Outcome ExportJobModel) :
    Taken ExportJobModel where
  fresh := .nil
  context := []
  model := { projectId := some "p", clusterName := some "c", snapshotId := some "s", exportBucketId := some "b" }
  now := .epoch
  trace := [⟨.control (.createExport "p" "c" { snapshotId := "s", exportBucketId := "b" }), answer⟩]
  outcome := outcome

/-- The step is refused at first. -/
def exportRefused : Taken ExportJobModel :=
  exportStep (.error (.api 503 "busy")) (.ofError (.gateway (.api 503 "busy")))

/-- The operation that waits for the export. -/
def exportBegun : Continuation ExportJobPhase ExportJobIds where
  operationId := .nil
  phase := .exporting
  ids := { projectId := "p", clusterName := "c", exportId := "e" }
  timing := none

/-- The step creates an export when it is taken again. -/
def exportCreated : Taken ExportJobModel :=
  exportStep (.ok { id := "e", state := "Queued" })
    (.inProgress ((Family.exportJob.lifecycle {} .create).write Family.exportJob.idsRecord exportBegun) (.ofSeconds 35)
      ("Export job created, state " ++ "Queued"))

theorem takes_exportRefused :
    (Family.exportJob.lifecycle {} .create).Takes (Settings.step {} .exportJob) exportRefused :=
  .note (.call (.note (.done _)))

theorem takes_exportCreated :
    (Family.exportJob.lifecycle {} .create).Takes (Settings.step {} .exportJob) exportCreated := by
  refine Lifecycle.takes_of_ends (.note (.call (.note ?_)))
  exact (Family.exportJob.keeps {} .create).ends_waiting exportBegun _

/-- An export that is refused at first is created once. -/
theorem export_created_once :
    Untouched exportRefused.trace ∧ creations .exportJob (traceOf [exportRefused, exportCreated]) = 1 := by
  obtain ⟨untouched, once⟩ := Family.untouched_of_failed_and_creations_le_one {} .create .exportJob
  have run : (Family.exportJob.lifecycle {} .create).Run (Settings.step {} .exportJob) .persistent
      ([exportRefused] ++ [exportCreated]) (Caller.persistent.next exportCreated) :=
    .step (.step .start takes_exportRefused) takes_exportCreated
  exact ⟨untouched _ _ _ _ takes_exportRefused rfl (by decide), Nat.le_antisymm (once _ _ _ _ run) (by decide)⟩

end Provisioner
