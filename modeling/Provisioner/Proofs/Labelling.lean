import Provisioner.Proofs.Family

/-!
# Labels of clusters

Which labels a call carries that creates or changes a cluster. The reserved label is appended to those of the model when
the cluster is created, and a valid model does not have it; so it is there exactly once. A change carries the labels of
the model as they are, without the reserved one (`Family.cluster_labelled`): where a list of labels replaces the one
before, the change of a cluster takes its reserved label away (`relabelled_unreserved`).
-/
namespace Provisioner

namespace Lifecycle
variable {M P I R : Type}

/-- Whatever a lifecycle does beside looking, it only makes calls that are permitted for its model. -/
structure Permits (lifecycle : Lifecycle M P I R) (permitted : M → Call → Prop) : Prop where
  reads (model : M) {c : Call} (reads : c.isMutating = false) : permitted model c
  start (model : M) (current : Option R) (valid : lifecycle.validate model = .ok ()) :
    (lifecycle.start model current).Always fun trace _ => ∀ answered ∈ trace, permitted model answered.call
  advance (phase : P) (ids : I) (model : M) (remote : Option R) :
    (lifecycle.advance phase ids model remote).Always fun trace _ => ∀ answered ∈ trace, permitted model answered.call
  cleanup (ids : I) (model : M) :
    (lifecycle.cleanup ids).Always fun trace _ => ∀ answered ∈ trace, permitted model answered.call

section
variable [Tagged P] {lifecycle : Lifecycle M P I R} {permitted : M → Call → Prop} {settings : StepSettings} {model : M}
  {now : Instant} {trace : Trace Gateway} {verdict : Verdict P I M}

omit [Tagged P] in
theorem Permits.of_reads (permits : lifecycle.Permits permitted) (model : M) (reads : Reads trace) :
    ∀ answered ∈ trace, permitted model answered.call :=
  fun answered member => permits.reads model (reads answered member)

omit [Tagged P] in
theorem Opening.calls_permitted {fresh : OperationId} (looks : lifecycle.Looks) (permits : lifecycle.Permits permitted)
    (opening : lifecycle.Opening fresh model now trace verdict) : ∀ answered ∈ trace, permitted model answered.call := by
  cases opening with
  | invalid _ silent => simp [silent]
  | uninspected _ inspected | alreadyGone _ inspected | missing _ inspected | refused _ inspected =>
    exact permits.of_reads model (looks.inspect _ _ _ inspected)
  | acted valid inspected _ _ started calls =>
    rw [calls, List.forall_mem_append]
    exact ⟨permits.of_reads model (looks.inspect _ _ _ inspected), permits.start model _ valid _ _ started⟩

theorem Resumption.calls_permitted {continuation : Continuation P I} (looks : lifecycle.Looks)
    (permits : lifecycle.Permits permitted)
    (resumption : lifecycle.Resumption settings continuation model now trace verdict) :
    ∀ answered ∈ trace, permitted model answered.call := by
  cases resumption with
  | overrun _ cleaned =>
    rcases ends_cleanUp cleaned with ⟨_, silent, _⟩ | ⟨_, _, tried, _⟩
    · simp [silent]
    · exact permits.cleanup _ model _ _ tried
  | unobserved _ observed | vanished _ observed | faulty _ observed | pending _ observed =>
    exact permits.of_reads model (looks.observe _ _ _ _ observed)
  | acted _ observed _ advanced calls =>
    rw [calls, List.forall_mem_append]
    exact ⟨permits.of_reads model (looks.observe _ _ _ _ observed), permits.advance _ _ model _ _ _ advanced⟩

/-- Every call of a step is permitted for the model that the step was given. -/
theorem Takes.calls_permitted {record : Record I} {reread : I → I} {taken : Taken M} (looks : lifecycle.Looks)
    (permits : lifecycle.Permits permitted) (keeps : lifecycle.Keeps record reread)
    (takes : lifecycle.Takes settings taken) : ∀ answered ∈ taken.trace, permitted taken.model answered.call := by
  obtain ⟨verdict, course, _⟩ := keeps.ends_step takes
  cases course with
  | rejected _ silent => simp [silent]
  | opened _ opening => exact opening.calls_permitted looks permits
  | resumed _ resumption => exact resumption.calls_permitted looks permits

/-- Every call of a run is permitted for the model of its step. -/
theorem Run.calls_permitted {record : Record I} {reread : I → I} {caller : Caller} {steps : List (Taken M)}
    {next : Option Fields} (looks : lifecycle.Looks) (permits : lifecycle.Permits permitted)
    (keeps : lifecycle.Keeps record reread) (run : lifecycle.Run settings caller steps next) :
    ∀ taken ∈ steps, ∀ answered ∈ taken.trace, permitted taken.model answered.call := by
  induction run with
  | start => simp
  | step _ takes ih =>
    rw [List.forall_mem_append]
    exact ⟨ih, by simpa using takes.calls_permitted looks permits keeps⟩

end
end Lifecycle

/-- How many labels have the key of the reserved one. -/
def Label.occurrences (reserved : Label) (labels : List Label) : Nat :=
  labels.countP fun label => label.key = reserved.key

namespace ClusterLifecycle

/-- Which labels a call carries. A cluster is created with the labels of the model and the reserved one, which is there
once. It is changed with the labels of the model, none of which is reserved, or paused and resumed without any. -/
def Labelled (reserved : Label) (operation : Operation) (model : ClusterModel) : Call → Prop
  | .control (.createCluster _ request) =>
    operation = .create ∧ ∃ labels, request.labels = some labels ∧ labels = model.labels.getD [] ++ [reserved] ∧
      reserved.occurrences labels = 1
  | .control (.updateCluster _ _ request) =>
    ∀ labels, request.labels = some labels →
      operation = .update ∧ model.labels = some labels ∧ reserved.occurrences labels = 0
  | _ => True

variable {reserved : Label} {operation : Operation} {model : ClusterModel}

theorem labelled_of_reads (model : ClusterModel) {c : Call} (reads : c.isMutating = false) :
    Labelled reserved operation model c := by
  unfold Labelled
  split
  · cases reads
  · cases reads
  · trivial

/-- A valid model does not have the reserved label. -/
theorem occurrences_of_valid (kept : operation ≠ .delete) (valid : validate reserved operation model = .ok ()) :
    reserved.occurrences (model.labels.getD []) = 0 := by
  rw [Label.occurrences, List.countP_eq_zero]
  intro label member same
  have found : (model.labels.getD []).any (·.key = reserved.key) = true := List.any_eq_true.mpr ⟨label, member, same⟩
  simp only [validate, if_neg kept, found, if_true, bind_eq_ok] at valid
  obtain ⟨_, _, passed⟩ := valid
  split at passed
  · split at passed <;> cases passed
  · cases passed

/-- The reserved label is appended to labels that do not have it. -/
theorem occurrences_concat (labels : List Label) :
    reserved.occurrences (labels ++ [reserved]) = reserved.occurrences labels + 1 := by
  simp [Label.occurrences]

theorem labelled_creation (valid : validate reserved .create model = .ok ()) (project : String) :
    Labelled reserved .create model (.control (.createCluster project (creation reserved model))) := by
  refine ⟨rfl, _, rfl, rfl, ?_⟩
  rw [occurrences_concat, occurrences_of_valid (by decide : Operation.create ≠ .delete) valid]

theorem labelled_toRequest (valid : validate reserved .update model = .ok ()) (project name : String) :
    Labelled reserved .update model (.control (.updateCluster project name model.toRequest)) := by
  intro labels carried
  have own : model.labels = some labels := carried
  refine ⟨rfl, own, ?_⟩
  simpa [own] using occurrences_of_valid (by decide : Operation.update ≠ .delete) valid

theorem labelled_start (valid : validate reserved operation model = .ok ()) :
    (start reserved operation model).Always fun trace _ =>
      ∀ answered ∈ trace, Labelled reserved operation model answered.call := by
  cases operation with
  | create => simp [start, labelled_creation valid]
  | update => simp [start, labelled_toRequest valid]
  | delete => simp [start, Labelled]

theorem permits (reserved : Label) (operation : Operation) :
    (clusterLifecycle reserved operation).Permits (Labelled reserved operation) where
  reads := labelled_of_reads
  start model _ valid := labelled_start valid
  advance phase ids model remote := by
    simp only [clusterLifecycle, advance, afterIdle]
    split
    · simp
    · rw [Program.always_ite]
      refine ⟨by simp, ?_⟩
      intro _
      split <;> simp [Labelled]
    · simp
  cleanup ids model := by simp [clusterLifecycle]

end ClusterLifecycle

open ClusterLifecycle in
/-- In whatever run, a cluster is created with the labels of the model and the reserved label, which is there exactly
once. Any other call that carries labels changes a cluster, with the labels of the model and without the reserved one. -/
theorem Family.cluster_labelled (settings : Settings) (operation : Operation) {caller : Caller}
    {steps : List (Taken ClusterModel)} {next : Option Fields}
    (run : (Family.cluster.lifecycle settings operation).Run (settings.step .cluster) caller steps next) :
    ∀ taken ∈ steps, ∀ answered ∈ taken.trace,
      Labelled settings.reservedLabel operation taken.model answered.call :=
  run.calls_permitted (Family.looks settings operation .cluster) (permits settings.reservedLabel operation)
    (Family.cluster.keeps settings operation)

/-- A cluster with a label. -/
def relabelledModel : ClusterModel where
  projectId := some "p"
  name := some "c"
  labels := some [{ key := "team", value := "a" }]

/-- An operation on it that waits. -/
def relabelledWaiting (phase : ClusterPhase) : Continuation ClusterPhase ClusterIds where
  operationId := .nil
  phase := phase
  ids := { projectId := "p", clusterName := "c" }
  timing := none

/-- The context in which an operation on it waits. -/
def relabelledContext (operation : Operation) (phase : ClusterPhase) : Fields :=
  (Family.cluster.lifecycle {} operation).write Family.cluster.idsRecord (relabelledWaiting phase)

/-- The cluster, with its label and the reserved one. -/
def relabelledRemote : RemoteCluster where
  name := "c"
  stateName := "IDLE"
  labels := [{ key := "team", value := "a" }, { key := "Infrastructure Tool", value := "cloudstep" }]

/-- It is created with both labels. -/
def relabelledCreated : Taken ClusterModel where
  fresh := .nil
  context := []
  model := relabelledModel
  now := .epoch
  trace := [⟨.control (.createCluster "p" (ClusterLifecycle.creation (Settings.reservedLabel {}) relabelledModel)),
    .ok relabelledRemote⟩]
  outcome := .inProgress (relabelledContext .create .creating) (.ofSeconds 60) "Cluster creation requested"

/-- It is changed with its own label alone. -/
def relabelledUpdated : Taken ClusterModel where
  fresh := .nil
  context := []
  model := relabelledModel
  now := .epoch
  trace := [⟨.control (.getCluster "p" "c"), .ok relabelledRemote⟩,
    ⟨.control (.updateCluster "p" "c" relabelledModel.toRequest), .ok relabelledRemote⟩]
  outcome := .inProgress (relabelledContext .update .updating) (.ofSeconds 60) "Cluster update requested"

theorem takes_relabelledCreated :
    (Family.cluster.lifecycle {} .create).Takes (Settings.step {} .cluster) relabelledCreated := by
  refine Lifecycle.takes_of_ends (.note (.call (.note ?_)))
  exact (Family.cluster.keeps {} .create).ends_waiting (relabelledWaiting .creating) _

theorem takes_relabelledUpdated :
    (Family.cluster.lifecycle {} .update).Takes (Settings.step {} .cluster) relabelledUpdated := by
  refine Lifecycle.takes_of_ends (.call (.note (.call (.note ?_))))
  exact (Family.cluster.keeps {} .update).ends_waiting (relabelledWaiting .updating) _

/-- The creation has the reserved label once. -/
theorem relabelled_reserved : ClusterLifecycle.Labelled (Settings.reservedLabel {}) .create relabelledModel
    (.control (.createCluster "p" (ClusterLifecycle.creation (Settings.reservedLabel {}) relabelledModel))) := by
  have run : (Family.cluster.lifecycle {} .create).Run (Settings.step {} .cluster) .plain [relabelledCreated]
      (Caller.plain.next relabelledCreated) := .step .start takes_relabelledCreated
  exact Family.cluster_labelled {} .create run relabelledCreated List.mem_cons_self _ List.mem_cons_self

/-- The change of a cluster that has the reserved label carries a list of labels without it. -/
theorem relabelled_unreserved :
    (Family.cluster.lifecycle {} .update).Run (Settings.step {} .cluster) .plain [relabelledUpdated]
        (Caller.plain.next relabelledUpdated) ∧
      (Family.cluster.lifecycle {} .update).validate relabelledModel = .ok () ∧
      ∃ request labels answer,
        ⟨.control (.updateCluster "p" "c" request), answer⟩ ∈ relabelledUpdated.trace ∧ request.labels = some labels ∧
          (Settings.reservedLabel {}).occurrences labels = 0 ∧
          (Settings.reservedLabel {}).occurrences relabelledRemote.labels = 1 := by
  refine ⟨.step .start takes_relabelledUpdated, rfl, relabelledModel.toRequest, _, .ok relabelledRemote, ?_, rfl, rfl, rfl⟩
  exact List.mem_cons_of_mem _ List.mem_cons_self

end Provisioner
