import Provisioner.Proofs.Closure
import Provisioner.Proofs.Timeout

/-!
# Phases

All operations on a family share one type of phases, and a context may name any of them. Into which ones an operation
gets is said by a graph: the phases with which it begins, and the edges along which it goes on (`PhaseGraph`). A
lifecycle that keeps to a graph (`Lifecycle.KeepsTo`) does so in all runs (`invariant_phases`). That is what keeps the
operations apart: within its graph a deletion changes nothing but by removing, and nothing else removes anything
(`Call.Suits`).
-/
namespace Provisioner

/-- The phases with which an operation begins, and which of them come after which. -/
structure PhaseGraph (P : Type) where
  entries : List P
  edges : List (P × P)

namespace PhaseGraph
variable {P : Type} (graph : PhaseGraph P)

/-- The phases in which an operation may wait. -/
def phases : List P :=
  graph.entries ++ graph.edges.map (·.2)

/-- An operation stays in its phase, or follows an edge. -/
def Leads (phase next : P) : Prop :=
  next = phase ∨ (phase, next) ∈ graph.edges

/-- A step that is given a context may return another one. -/
inductive Allows [Tagged P] : Fields → Fields → Prop where
  | enters {context : Fields} {phase : P} (entry : phase ∈ graph.entries)
    (read : Context.readPhase context = .ok phase) : Allows [] context
  | goes {given returned : Fields} {phase next : P} (within : phase ∈ graph.phases) (leads : graph.Leads phase next)
    (before : Context.readPhase given = .ok phase) (after : Context.readPhase returned = .ok next) :
    Allows given returned

variable {graph} {phase next : P}

theorem mem_phases_of_entry (entry : phase ∈ graph.entries) : phase ∈ graph.phases :=
  List.mem_append_left _ entry

theorem Leads.mem_phases (leads : graph.Leads phase next) (within : phase ∈ graph.phases) : next ∈ graph.phases := by
  rcases leads with rfl | edge
  · exact within
  · exact List.mem_append_right _ (List.mem_map.mpr ⟨_, edge, rfl⟩)

end PhaseGraph

/-- The call is one for an operation: a deletion changes nothing but by removing, and nothing else removes. -/
def Call.Suits (operation : Operation) (c : Call) : Prop :=
  if operation = .delete then c.isMutating = true → c.isRemoval = true else c.isRemoval = false

theorem Reads.suits {trace : Trace Gateway} (reads : Reads trace) (operation : Operation) :
    ∀ answered ∈ trace, answered.call.Suits operation := by
  intro answered member
  rw [Call.Suits]
  split
  · intro mutating
    rw [reads answered member] at mutating
    cases mutating
  · exact reads.spares answered member

section
variable {M P I R : Type}

/-- An action only calls what suits its operation and leads to a phase it may lead to; a model is left unless the
operation deletes. -/
@[mk_iff]
structure Serves (operation : Operation) (leads : P → Prop) (trace : Trace Gateway)
    (result : Except ProvisionError (Transition P I M)) : Prop where
  calls : ∀ answered ∈ trace, answered.call.Suits operation
  proceeds : ∀ phase ids message, result = .ok (.proceed phase ids message) → leads phase
  completes : ∀ model message, result = .ok (.complete model message) → (model.isSome = true ↔ operation ≠ .delete)

/-- A step only calls what suits its operation, and what it decides serves the operation. -/
structure Verdict.Serves (operation : Operation) (leads : P → Prop) (trace : Trace Gateway)
    (verdict : Verdict P I M) : Prop where
  calls : ∀ answered ∈ trace, answered.call.Suits operation
  waits : verdict.All fun continuation => leads continuation.phase
  succeeds : ∀ model message, verdict = .succeeds model message → (model.isSome = true ↔ operation ≠ .delete)

/-- A lifecycle begins in its graph and does not leave it. -/
structure Lifecycle.KeepsTo (lifecycle : Lifecycle M P I R) (graph : PhaseGraph P) : Prop where
  start (model : M) (current : Option R) :
    (lifecycle.start model current).Always (Serves lifecycle.operation (· ∈ graph.entries))
  advance (phase : P) (ids : I) (model : M) (seen : Observation R) (within : phase ∈ graph.phases)
    (due : lifecycle.isDue phase seen = true) :
    (lifecycle.advance phase ids model seen.remote?).Always (Serves lifecycle.operation (graph.Leads phase))
  cleanup (ids : I) : (lifecycle.cleanup ids).Always fun trace _ => ∀ answered ∈ trace, answered.call.isRemoval = true

end

section
variable {M P I : Type} {operation : Operation} {leads : P → Prop} {trace : Trace Gateway}

@[simp] theorem serves_error {error : ProvisionError} :
    Serves (M := M) (I := I) operation leads trace (.error error) ↔ ∀ answered ∈ trace, answered.call.Suits operation := by
  simp [serves_iff]

@[simp] theorem serves_proceed {phase : P} {ids : I} {message : String} :
    Serves (M := M) operation leads trace (.ok (.proceed phase ids message)) ↔
      (∀ answered ∈ trace, answered.call.Suits operation) ∧ leads phase := by
  simp [serves_iff]

@[simp] theorem serves_complete {model : Option M} {message : String} :
    Serves (I := I) operation leads trace (.ok (.complete model message)) ↔
      (∀ answered ∈ trace, answered.call.Suits operation) ∧ (model.isSome = true ↔ operation ≠ .delete) := by
  simp [serves_iff]

end

theorem Serves.mono {M P I : Type} {operation : Operation} {leads leads' : P → Prop} {trace : Trace Gateway}
    {result : Except ProvisionError (Transition P I M)} (serves : Serves operation leads trace result)
    (weaker : ∀ phase, leads phase → leads' phase) : Serves operation leads' trace result where
  calls := serves.calls
  proceeds phase ids message proceeded := weaker phase (serves.proceeds phase ids message proceeded)
  completes := serves.completes

/-! ## The families -/

attribute [local simp] Call.Suits Call.isRemoval PhaseGraph.Leads PhaseGraph.phases

namespace ClusterLifecycle

/-- Process settings are applied before a cluster is paused, and either may be left out. -/
def graph : Operation → PhaseGraph ClusterPhase
  | .create => ⟨[.creating], [(.creating, .configuring), (.creating, .pausing), (.configuring, .pausing)]⟩
  | .update => ⟨[.updating], [(.updating, .configuring), (.updating, .pausing), (.configuring, .pausing)]⟩
  | .delete => ⟨[.deleting], []⟩

theorem serves_afterIdle (reserved : Label) {operation : Operation} (kept : operation ≠ .delete) {phase : ClusterPhase}
    (within : phase ∈ (graph operation).phases) (ids : ClusterIds) (model : ClusterModel) (remote : RemoteCluster) :
    (afterIdle reserved phase ids model remote).Always (Serves operation ((graph operation).Leads phase)) := by
  cases operation with
  | delete => exact absurd rfl kept
  | create | update =>
    simp only [afterIdle]
    split
    · next pending =>
      cases phase <;> simp [graph, pendingArgs?] at within pending ⊢
    · next pending =>
      cases phase <;> simp [graph, pendingPause?] at within pending ⊢
    · simp

/-- An operation that waits for a cluster to go is a deletion. -/
theorem eq_delete_of_mem_phases {operation : Operation} (within : .deleting ∈ (graph operation).phases) :
    operation = .delete := by
  cases operation <;> simp [graph] at within ⊢

theorem ne_delete_of_mem_phases {operation : Operation} {phase : ClusterPhase} (within : phase ∈ (graph operation).phases)
    (other : phase ≠ .deleting) : operation ≠ .delete := by
  rintro rfl
  simp [graph, other] at within

theorem keepsTo (reserved : Label) (operation : Operation) :
    (clusterLifecycle reserved operation).KeepsTo (graph operation) where
  start model current := by cases operation <;> simp [clusterLifecycle, start, graph]
  advance phase ids model seen within due := by
    by_cases deletes : phase = .deleting
    · subst deletes
      obtain rfl := eq_delete_of_mem_phases within
      simp [clusterLifecycle, advance]
    · rcases seen with remote | _
      · have kept := ne_delete_of_mem_phases within deletes
        simp only [clusterLifecycle, advance, Observation.remote?]
        rw [Program.always_ite]
        refine ⟨by simp, ?_⟩
        intro _
        exact serves_afterIdle reserved kept within ids model remote
      · simp only [clusterLifecycle, Lifecycle.isDue, decide_eq_true_eq] at due
        exact absurd due deletes
  cleanup ids := by simp [clusterLifecycle]

end ClusterLifecycle

namespace StreamProcessorLifecycle

/-- A processor that runs is stopped before it is changed; after it was created or changed it may be started. -/
def graph : Operation → PhaseGraph StreamProcessorPhase
  | .create => ⟨[.creating], [(.creating, .starting)]⟩
  | .update => ⟨[.stopping, .updating], [(.stopping, .updating), (.updating, .starting)]⟩
  | .delete => ⟨[.deleting], []⟩

theorem eq_delete_of_mem_phases {operation : Operation} (within : .deleting ∈ (graph operation).phases) :
    operation = .delete := by
  cases operation <;> simp [graph] at within ⊢

theorem serves_startUp {operation : Operation} {phase : StreamProcessorPhase}
    (within : phase ∈ (graph operation).phases) {ids : StreamProcessorIds} {remote : RemoteStreamProcessor}
    (due : mustStart phase ids remote = true) :
    (startUp ids).Always (Serves operation ((graph operation).Leads phase)) := by
  cases operation <;> cases phase <;> simp [graph, mustStart, startUp] at within due ⊢

theorem keepsTo (budget : String) (operation : Operation) :
    (streamProcessorLifecycle budget operation).KeepsTo (graph operation) where
  start model current := by cases operation <;> simp [streamProcessorLifecycle, start, change, graph]
  advance phase ids model seen within due := by
    rcases seen with remote | _
    · simp only [streamProcessorLifecycle, advance, Observation.remote?]
      rw [Program.always_ite]
      refine ⟨serves_startUp within, ?_⟩
      intro _
      split
      · cases operation <;> simp [graph, change] at within ⊢
      · obtain rfl := eq_delete_of_mem_phases within
        simp
      · next notStopping notDeleting =>
        cases operation <;> simp [graph] at within ⊢
        exact absurd within notDeleting
    · simp only [streamProcessorLifecycle, Lifecycle.isDue, decide_eq_true_eq] at due
      subst due
      obtain rfl := eq_delete_of_mem_phases within
      simp [streamProcessorLifecycle, advance, Observation.remote?]
  cleanup ids := by simp [streamProcessorLifecycle, cleanup]

end StreamProcessorLifecycle

namespace PrivateEndpointLifecycle

/-- What is created is taken apart in the opposite order; there may be no network endpoints to remove. -/
def graph : Operation → PhaseGraph PrivateEndpointPhase
  | .create =>
    ⟨[.serviceProvisioning],
      [(.serviceProvisioning, .creatingNetworkEndpoint), (.creatingNetworkEndpoint, .attachingInterface)]⟩
  | .update => ⟨[], []⟩
  | .delete =>
    ⟨[.detachingInterfaces, .deletingService],
      [(.detachingInterfaces, .removingNetworkEndpoints), (.detachingInterfaces, .deletingService),
        (.removingNetworkEndpoints, .deletingService)]⟩

/-- Taking a service apart leads on to the removal of network endpoints only where some are known. -/
theorem serves_detachNext (ids : PrivateEndpointIds) (service : EndpointService) :
    (detachNext ids service).Always (Serves .delete fun next =>
      next = .detachingInterfaces ∨ next = .deletingService ∨
        next = .removingNetworkEndpoints ∧ ids.networkEndpointIds ≠ []) := by
  simp only [detachNext, deleteService, removeNetworkEndpoints]
  split
  · next nothing =>
    simp only [nothing, PrivateEndpointIds.remember, List.foldl_nil, List.isEmpty_iff]
    by_cases unknown : ids.networkEndpointIds = [] <;> simp [unknown]
  · simp

/-- The one operation that gets into a phase. -/
def operationOf : PrivateEndpointPhase → Operation
  | .serviceProvisioning => .create
  | .creatingNetworkEndpoint => .create
  | .attachingInterface => .create
  | _ => .delete

theorem eq_operationOf {operation : Operation} {phase : PrivateEndpointPhase} (within : phase ∈ (graph operation).phases) :
    operation = operationOf phase := by
  cases operation <;> cases phase <;> simp [graph, operationOf] at within ⊢

theorem keepsTo (operation : Operation) : (privateEndpointLifecycle operation).KeepsTo (graph operation) where
  start model current := by
    cases operation with
    | create | update => simp [privateEndpointLifecycle, start, graph]
    | delete =>
      simp only [privateEndpointLifecycle, start, Program.always_lift_bind]
      refine ⟨by simp, ?_⟩
      intro ids known
      have nothing := (of_ofModel known).2
      rcases current with _ | (service | _ | _ | _)
      · simp
      · intro trace result ends
        refine (serves_detachNext ids service trace result ends).mono ?_
        simp [nothing, graph]
      · simp
      · simp
      · simp
  advance phase ids model seen within due := by
    obtain rfl := eq_operationOf within
    simp only [privateEndpointLifecycle, advance]
    split
    · simp only [createNetworkEndpoint]
      split <;> simp [operationOf, graph]
    · simp [attachInterface, operationOf, graph]
    · simp [connected, operationOf]
    · intro trace result ends
      refine (serves_detachNext ids _ trace result ends).mono ?_
      simp +contextual [operationOf, graph]
    · simp [deleteService, operationOf, graph]
    · simp [operationOf]
    · simp
  cleanup ids := by simp [privateEndpointLifecycle]

end PrivateEndpointLifecycle

namespace ExportJobLifecycle

/-- An export is awaited, and so is the end of one that is to be deleted. -/
def graph : Operation → PhaseGraph ExportJobPhase
  | .create => ⟨[.exporting], []⟩
  | .update => ⟨[], []⟩
  | .delete => ⟨[.deleting], []⟩

theorem keepsTo (completion : String) (operation : Operation) :
    (exportJobLifecycle completion operation).KeepsTo (graph operation) where
  start model current := by cases operation <;> cases current <;> simp [exportJobLifecycle, start, graph]
  advance phase ids model seen within due := by
    cases operation <;> cases phase <;> cases seen <;>
      simp [exportJobLifecycle, advance, graph, Observation.remote?, Lifecycle.isDue] at within due ⊢
  cleanup ids := by simp [exportJobLifecycle]

end ExportJobLifecycle

namespace Family

/-- The phases of an operation on a family. -/
def graph (operation : Operation) : (family : Family) → PhaseGraph family.Phase
  | cluster => ClusterLifecycle.graph operation
  | streamProcessor => StreamProcessorLifecycle.graph operation
  | privateEndpoint => PrivateEndpointLifecycle.graph operation
  | exportJob => ExportJobLifecycle.graph operation

theorem lifecycle_operation (settings : Settings) (operation : Operation) (family : Family) :
    (family.lifecycle settings operation).operation = operation := by
  cases family <;> rfl

/-- All operations keep to their graphs. -/
theorem keepsTo (settings : Settings) (operation : Operation) (family : Family) :
    (family.lifecycle settings operation).KeepsTo (family.graph operation) := by
  cases family with
  | cluster => exact ClusterLifecycle.keepsTo _ _
  | streamProcessor => exact StreamProcessorLifecycle.keepsTo _ _
  | privateEndpoint => exact PrivateEndpointLifecycle.keepsTo _
  | exportJob => exact ExportJobLifecycle.keepsTo _ _

end Family

/-! ## Runs -/

theorem Verdict.serves_of_fails {P I M : Type} {operation : Operation} {leads : P → Prop} {trace : Trace Gateway}
    (calls : ∀ answered ∈ trace, answered.call.Suits operation) (error : ProvisionError) :
    (.fails error : Verdict P I M).Serves operation leads trace where
  calls := calls
  waits := trivial
  succeeds := by rintro _ _ ⟨⟩

/-- Where an operation may go on from a stage. -/
def Stage.Leads {P I : Type} (graph : PhaseGraph P) : Stage P I → P → Prop
  | unopened, next => next ∈ graph.entries
  | waiting continuation, next => graph.Leads continuation.phase next
  | ended, _ => False

theorem Stage.Leads.mem_phases {P I : Type} {graph : PhaseGraph P} {stage : Stage P I} {next : P}
    (leads : stage.Leads graph next) (within : stage.All fun continuation => continuation.phase ∈ graph.phases) :
    next ∈ graph.phases := by
  cases stage with
  | unopened => exact PhaseGraph.mem_phases_of_entry leads
  | waiting => exact PhaseGraph.Leads.mem_phases leads within
  | ended => exact leads.elim

namespace Lifecycle
variable {M P I R : Type} [Tagged P] {lifecycle : Lifecycle M P I R} {settings : StepSettings} {reread : I → I}
  {graph : PhaseGraph P} {caller : Caller} {taken : Taken M} {stage : Stage P I} {trace : Trace Gateway}
  {verdict : Verdict P I M}

omit [Tagged P] in
/-- A look and the action after it serve what the action serves. -/
theorem serves_ofTransition {operation : Operation} {leads : P → Prop} {look act : Trace Gateway}
    {result : Except ProvisionError (Transition P I M)} {place : P → I → Continuation P I} (reads : Reads look)
    (serves : Serves operation leads act result) (placed : ∀ phase ids, (place phase ids).phase = phase) :
    (Verdict.ofTransition place result).Serves operation leads (look ++ act) where
  calls := by
    intro answered member
    exact (List.mem_append.mp member).elim (reads.suits operation answered) (serves.calls answered)
  waits := by
    refine Verdict.all_ofTransition ?_
    intro phase ids message proceeded
    rw [placed]
    exact serves.proceeds phase ids message proceeded
  succeeds := by
    intro model message succeeded
    exact serves.completes model message (Verdict.succeeds_eq_ofTransition.mp succeeded.symm)

omit [Tagged P] in
/-- Nothing is called for a model that makes no sense. -/
theorem Opening.silent {fresh : OperationId} {model : M} {now : Instant} (invalid : lifecycle.validate model ≠ .ok ())
    (opening : lifecycle.Opening fresh model now trace verdict) : trace = [] := by
  cases opening with
  | invalid _ silent => exact silent
  | uninspected valid | missing valid | refused valid | alreadyGone valid | acted valid => exact absurd valid invalid

omit [Tagged P] in
/-- A first step leads to a phase with which the operation begins. -/
theorem Opening.serves (looks : lifecycle.Looks) (keepsTo : lifecycle.KeepsTo graph) {fresh : OperationId} {model : M}
    {now : Instant} (opening : lifecycle.Opening fresh model now trace verdict) :
    verdict.Serves lifecycle.operation (· ∈ graph.entries) trace := by
  cases opening with
  | invalid _ silent => exact Verdict.serves_of_fails (by simp [silent]) _
  | uninspected _ inspected | missing _ inspected | refused _ inspected =>
    exact Verdict.serves_of_fails ((looks.inspect _ _ _ inspected).suits _) _
  | alreadyGone _ inspected deletes =>
    exact
      { calls := (looks.inspect _ _ _ inspected).suits _
        waits := trivial
        succeeds := by
          rintro _ _ ⟨⟩
          simp [deletes] }
  | acted _ inspected _ _ started calls decided =>
    rw [calls, decided]
    exact serves_ofTransition (looks.inspect _ _ _ inspected) (keepsTo.start _ _ _ _ started) fun _ _ => rfl

/-- A later step stays in the phase or follows an edge, unless it comes too late. -/
theorem Resumption.serves (looks : lifecycle.Looks) (keepsTo : lifecycle.KeepsTo graph)
    {continuation : Continuation P I} (within : continuation.phase ∈ graph.phases) {model : M} {now : Instant}
    (resumption : lifecycle.Resumption settings continuation model now trace verdict)
    (inTime : continuation.isLate settings.fallbackTimeout now = false) :
    verdict.Serves lifecycle.operation (graph.Leads continuation.phase) trace := by
  cases resumption with
  | overrun late =>
    rw [inTime] at late
    cases late
  | unobserved _ observed | vanished _ observed | faulty _ observed =>
    exact Verdict.serves_of_fails ((looks.observe _ _ _ _ observed).suits _) _
  | pending _ observed =>
    exact
      { calls := (looks.observe _ _ _ _ observed).suits _
        waits := .inl rfl
        succeeds := by rintro _ _ ⟨⟩ }
  | acted _ observed due advanced calls decided =>
    rw [calls, decided]
    exact serves_ofTransition (looks.observe _ _ _ _ observed)
      (keepsTo.advance _ _ _ _ within due _ _ advanced) fun _ _ => rfl

/-- The step finds its operation over time, and its calls are those that remove it. -/
def RemovesOverdue (lifecycle : Lifecycle M P I R) (settings : StepSettings) (taken : Taken M) : Prop :=
  ∃ (continuation : Continuation P I) (report : CleanupReport),
    Context.decode lifecycle.target lifecycle.ids taken.context = .ok (some continuation) ∧
    continuation.isLate settings.fallbackTimeout taken.now = true ∧
    (lifecycle.cleanUp continuation).Ends taken.trace (.ok report)

/-- A step of an operation in its graph serves the operation, unless it comes too late and fails. -/
theorem Moves.serves (looks : lifecycle.Looks) (keepsTo : lifecycle.KeepsTo graph)
    (moves : lifecycle.Moves settings reread taken stage verdict)
    (within : stage.All fun continuation => continuation.phase ∈ graph.phases) :
    (lifecycle.RemovesOverdue settings taken ∧ ∃ error, verdict = .fails error) ∨
      verdict.Serves lifecycle.operation (stage.Leads graph) taken.trace := by
  cases moves with
  | opened _ opening => exact .inr (opening.serves looks keepsTo)
  | rejected _ _ _ silent => exact .inr (Verdict.serves_of_fails (by simp [silent]) _)
  | @resumed continuation _ _ decoded resumption =>
    cases late : (continuation.reread reread).isLate settings.fallbackTimeout taken.now with
    | false =>
      refine .inr (resumption.serves looks keepsTo ?_ late)
      exact within
    | true =>
      cases resumption with
      | overrun _ cleaned => exact .inl ⟨⟨_, _, decoded, late, cleaned⟩, _, rfl⟩
      | unobserved inTime | vanished inTime | faulty inTime | pending inTime | acted inTime =>
        rw [inTime] at late
        cases late

/-- No operation leaves its graph. -/
theorem invariant_phases (looks : lifecycle.Looks) (keepsTo : lifecycle.KeepsTo graph) :
    lifecycle.Invariant settings reread caller fun _ stage =>
      stage.All fun continuation => continuation.phase ∈ graph.phases where
  start := trivial
  step := by
    intro steps stage taken verdict within moves
    refine within.next caller ?_
    rcases moves.serves looks keepsTo within with ⟨_, error, rfl⟩ | serves
    · trivial
    · exact serves.waits.imp fun continuation leads => leads.mem_phases within

namespace Keeps
variable [Tagged.Distinct P] {record : Record I} (keeps : lifecycle.Keeps record reread)
include keeps

/-- What a step returns is allowed by a graph in which it serves the operation. -/
theorem allows_of_serves (stands : stage.context? (lifecycle.write record) = some taken.context)
    (within : stage.All fun continuation => continuation.phase ∈ graph.phases) {continuation : Continuation P I}
    (leads : stage.Leads graph continuation.phase) :
    graph.Allows taken.context (lifecycle.write record continuation) := by
  have read (continuation : Continuation P I) :
      Context.readPhase (lifecycle.write record continuation) = .ok continuation.phase :=
    Context.readPhase_contextOf keeps.fits lifecycle.target continuation
  cases stage with
  | unopened =>
    have empty : taken.context = [] := (Option.some.inj stands).symm
    rw [empty]
    exact .enters leads (read continuation)
  | waiting before =>
    have given : taken.context = lifecycle.write record before := (Option.some.inj stands).symm
    rw [given]
    exact .goes within leads (read before) (read continuation)
  | ended => cases stands

end Keeps
end Lifecycle

namespace Family

/-- Neither a private endpoint nor an export job can be changed. -/
theorem validate_update_ne_ok (settings : Settings) {family : Family}
    (fixed : family = .privateEndpoint ∨ family = .exportJob) (model : family.Model) :
    (family.lifecycle settings .update).validate model ≠ .ok () := by
  rcases fixed with rfl | rfl
  · simp [lifecycle, privateEndpointLifecycle, PrivateEndpointLifecycle.validate, bind_eq_ok]
  · simp [lifecycle, exportJobLifecycle, ExportJobLifecycle.validate, bind_eq_ok]

/-- Every operation stays in its graph and serves no other purpose. In all runs, contexts come one after the other as
the graph allows; what builds up or changes removes nothing unless it is over time, a deletion changes nothing but by
removing, and what cannot be changed is not even looked at; a success has a model unless something was deleted. -/
theorem run_keeps_to_graph (settings : Settings) (operation : Operation) (family : Family) {caller : Caller}
    {before after : List (Taken family.Model)} {taken : Taken family.Model} {next : Option Fields}
    (run : (family.lifecycle settings operation).Run (settings.step family) caller (before ++ taken :: after) next) :
    (∀ context delay message, taken.outcome = .inProgress context delay message →
      (family.graph operation).Allows taken.context context) ∧
    (operation ≠ .delete → ∀ answered ∈ taken.trace, answered.call.isRemoval = true →
      (family.lifecycle settings operation).RemovesOverdue (settings.step family) taken) ∧
    (operation = .delete → ∀ answered ∈ taken.trace, answered.call.isMutating = true →
      answered.call.isRemoval = true) ∧
    (operation = .update → family = .privateEndpoint ∨ family = .exportJob → taken.trace = []) ∧
    ∀ model message, taken.outcome = .success model message → (model.isSome = true ↔ operation ≠ .delete) := by
  have keeps := family.keeps settings operation
  have looks := family.looks settings operation
  have keepsTo := family.keepsTo settings operation
  obtain ⟨stage, verdict, within, stands, moves, outcome⟩ :=
    keeps.exists_move (Lifecycle.invariant_phases looks keepsTo) run
  have serves := moves.serves looks keepsTo within
  rw [lifecycle_operation] at serves
  refine ⟨?_, ?_, ?_, ?_, ?_⟩
  · intro context delay message returned
    rw [outcome] at returned
    cases verdict with
    | fails | succeeds => cases returned
    | waits continuation =>
      cases returned
      rcases serves with ⟨_, _, ⟨⟩⟩ | serves
      exact keeps.allows_of_serves stands within serves.waits
  · intro kept answered member removal
    rcases serves with ⟨overdue, _⟩ | serves
    · exact overdue
    · have suits := serves.calls answered member
      rw [Call.Suits, if_neg kept, removal] at suits
      cases suits
  · intro deletes answered member mutating
    rcases serves with ⟨⟨_, _, _, _, cleaned⟩, _⟩ | serves
    · rcases Lifecycle.ends_cleanUp cleaned with ⟨_, silent, _⟩ | ⟨_, _, removed, _⟩
      · rw [silent] at member
        cases member
      · exact keepsTo.cleanup _ _ _ removed answered member
    · have suits := serves.calls answered member
      rw [Call.Suits, if_pos deletes] at suits
      exact suits mutating
  · rintro rfl fixed
    cases moves with
    | opened _ opening => exact opening.silent (validate_update_ne_ok settings fixed taken.model)
    | rejected _ _ _ silent => exact silent
    | resumed =>
      -- there is no phase in which such an operation could wait
      rcases fixed with rfl | rfl <;> cases within
  · intro model message succeeded
    rw [outcome] at succeeded
    cases verdict with
    | fails | waits => cases succeeded
    | succeeds =>
      cases succeeded
      rcases serves with ⟨_, _, ⟨⟩⟩ | serves
      exact serves.succeeds _ _ rfl

end Family

/-- The service that was requested, once its network endpoint can be created. -/
def endpointOffered : EndpointService :=
  { endpointService with status := "AVAILABLE", endpointServiceName := some "x" }

/-- The operation that waits for the network endpoint. -/
def endpointOngoing : Continuation PrivateEndpointPhase PrivateEndpointIds :=
  endpointBegun.advance .creatingNetworkEndpoint { endpointBegun.ids with networkEndpointIds := ["e"] }

/-- The step that creates the network endpoint. -/
def endpointCreated : Taken PrivateEndpointModel where
  fresh := .nil
  context := endpointContext
  model := { vpcId := some "v", subnetIds := some ["n"] }
  now := .epoch
  trace := [⟨.control (.getService "p" "s"), .ok endpointOffered⟩,
    ⟨.network (.createEndpoint "r" "x" "v" ["n"]), .ok { id := "e", state := "pending" }⟩]
  outcome := .inProgress ((Family.privateEndpoint.lifecycle {} .create).write Family.privateEndpoint.idsRecord
    endpointOngoing) (.ofSeconds 10) "Network endpoint requested"

theorem takes_endpointCreated :
    (Family.privateEndpoint.lifecycle {} .create).Takes (Settings.step {} .privateEndpoint) endpointCreated := by
  apply Lifecycle.takes_of_ends
  rw [endpointCreated, Lifecycle.tryStep, decode_endpointContext]
  refine .call (.note (.call (.note ?_)))
  exact (Family.privateEndpoint.keeps {} .create).ends_waiting endpointOngoing _

/-- From the service on to the network endpoint leads an edge, along which nothing is removed. -/
theorem endpointCreated_keeps_to_graph :
    (Family.privateEndpoint.graph .create).Allows endpointContext
      ((Family.privateEndpoint.lifecycle {} .create).write Family.privateEndpoint.idsRecord endpointOngoing) := by
  have run : (Family.privateEndpoint.lifecycle {} .create).Run (Settings.step {} .privateEndpoint) .plain
      ([endpointRequested] ++ endpointCreated :: []) (Caller.plain.next endpointCreated) :=
    .step (.step .start takes_endpointRequested) takes_endpointCreated
  exact (Family.run_keeps_to_graph {} .create .privateEndpoint run).1 _ _ _ rfl

end Provisioner
