import Provisioner.Proofs.Family

/-!
# One unit of work

A step looks once and acts at most once, so that it never has more than one change to answer for: it makes at most two
calls, and one that changes something is the last (`Family.step_isUnitOfWork`). That holds for contexts of any kind,
because it does not depend on the phase: each part of a lifecycle makes at most one call (`Lifecycle.Brief`), and those
that look change nothing (`Lifecycle.Looks`).
-/
namespace Provisioner

/-- At most two calls, of which at most one changes something, and none follows it. -/
structure IsUnitOfWork (trace : Trace Gateway) : Prop where
  calls : trace.length ≤ 2
  changes : trace.countP (·.call.isMutating) ≤ 1
  last : ∀ {before after : Trace Gateway} {answered : Answered Gateway}, trace = before ++ answered :: after →
    answered.call.isMutating = true → after = []

/-- What is not seen while looking comes last, where at most one call is made after that. -/
theorem eq_nil_of_append_eq {look act before after : Trace Gateway} {answered : Answered Gateway} (brief : act.length ≤ 1)
    (new : answered ∉ look) (whole : look ++ act = before ++ answered :: after) : after = [] := by
  rcases List.append_eq_append_iff.mp whole with ⟨between, rfl, rest⟩ | ⟨between, same, rest⟩
  · rw [rest, List.length_append, List.length_cons] at brief
    exact List.eq_nil_of_length_eq_zero (by omega)
  · cases between with
    | nil =>
      rw [List.nil_append] at rest
      rw [← rest, List.length_cons] at brief
      exact List.eq_nil_of_length_eq_zero (by omega)
    | cons first between =>
      rw [List.cons_append, List.cons.injEq] at rest
      exact absurd (by rw [same, rest.1]; simp) new

/-- One look, and one action after it. -/
theorem IsUnitOfWork.of_look {look act : Trace Gateway} (reads : Reads look) (once : look.length ≤ 1)
    (brief : act.length ≤ 1) : IsUnitOfWork (look ++ act) where
  calls := by
    rw [List.length_append]
    omega
  changes := by
    have unchanged : look.countP (·.call.isMutating) = 0 := by
      rw [List.countP_eq_zero]
      intro answered member
      rw [reads answered member]
      exact Bool.false_ne_true
    have few : act.countP (·.call.isMutating) ≤ act.length := List.countP_le_length
    rw [List.countP_append]
    omega
  last := by
    intro before after answered whole mutating
    refine eq_nil_of_append_eq brief ?_ whole
    intro member
    rw [reads answered member] at mutating
    cases mutating

theorem IsUnitOfWork.of_brief {trace : Trace Gateway} (brief : trace.length ≤ 1) : IsUnitOfWork trace := by
  rw [← List.nil_append trace]
  exact .of_look reads_nil (Nat.zero_le _) brief

namespace Lifecycle
variable {M P I R : Type}

/-- Each part of a lifecycle makes at most one call, in any phase. -/
structure Brief (lifecycle : Lifecycle M P I R) : Prop where
  inspect (model : M) : (lifecycle.inspect model).Always fun trace _ => trace.length ≤ 1
  start (model : M) (current : Option R) : (lifecycle.start model current).Always fun trace _ => trace.length ≤ 1
  observe (phase : P) (ids : I) : (lifecycle.observe phase ids).Always fun trace _ => trace.length ≤ 1
  advance (phase : P) (ids : I) (model : M) (remote : Option R) :
    (lifecycle.advance phase ids model remote).Always fun trace _ => trace.length ≤ 1
  cleanup (ids : I) : (lifecycle.cleanup ids).Always fun trace _ => trace.length ≤ 1

variable [Tagged P] {lifecycle : Lifecycle M P I R} {settings : StepSettings} {trace : Trace Gateway}
  {verdict : Verdict P I M}

omit [Tagged P] in
theorem Opening.isUnitOfWork {fresh : OperationId} {model : M} {now : Instant} (looks : lifecycle.Looks)
    (brief : lifecycle.Brief) (opening : lifecycle.Opening fresh model now trace verdict) : IsUnitOfWork trace := by
  cases opening with
  | invalid _ silent => exact .of_brief (by simp [silent])
  | uninspected _ inspected | alreadyGone _ inspected | missing _ inspected | refused _ inspected =>
    exact .of_brief (brief.inspect _ _ _ inspected)
  | acted _ inspected _ _ started calls =>
    rw [calls]
    exact .of_look (looks.inspect _ _ _ inspected) (brief.inspect _ _ _ inspected) (brief.start _ _ _ _ started)

theorem Resumption.isUnitOfWork {continuation : Continuation P I} {model : M} {now : Instant} (looks : lifecycle.Looks)
    (brief : lifecycle.Brief) (resumption : lifecycle.Resumption settings continuation model now trace verdict) :
    IsUnitOfWork trace := by
  cases resumption with
  | overrun _ cleaned =>
    rcases ends_cleanUp cleaned with ⟨_, silent, _⟩ | ⟨_, _, tried, _⟩
    · exact .of_brief (by simp [silent])
    · exact .of_brief (brief.cleanup _ _ _ tried)
  | unobserved _ observed | vanished _ observed | faulty _ observed | pending _ observed =>
    exact .of_brief (brief.observe _ _ _ _ observed)
  | acted _ observed _ advanced calls =>
    rw [calls]
    exact .of_look (looks.observe _ _ _ _ observed) (brief.observe _ _ _ _ observed)
      (brief.advance _ _ _ _ _ _ advanced)

/-- A step of a brief lifecycle is a unit of work. -/
theorem Brief.step {record : Record I} {reread : I → I} (brief : lifecycle.Brief) (looks : lifecycle.Looks)
    (keeps : lifecycle.Keeps record reread) (fresh : OperationId) (context : Fields) (model : M) (now : Instant) :
    (lifecycle.step settings fresh context model now).Always fun trace _ => IsUnitOfWork trace := by
  intro trace result ends
  obtain ⟨verdict, course, _⟩ := keeps.ends_step ends
  cases course with
  | rejected _ silent => exact .of_brief (by simp [silent])
  | opened _ opening => exact opening.isUnitOfWork looks brief
  | resumed _ resumption => exact resumption.isUnitOfWork looks brief

end Lifecycle

/-! ## The families -/

theorem ClusterLifecycle.brief (reserved : Label) (operation : Operation) :
    (clusterLifecycle reserved operation).Brief where
  inspect model := by simp [clusterLifecycle, look]
  start model current := by cases operation <;> simp [clusterLifecycle, start]
  observe phase ids := by simp [clusterLifecycle, look, Observation.ofAnswer]
  advance phase ids model remote := by
    simp only [clusterLifecycle, advance, afterIdle]
    split
    · simp
    · rw [Program.always_ite]
      refine ⟨by simp, ?_⟩
      intro _
      split <;> simp
    · simp
  cleanup ids := by simp [clusterLifecycle]

theorem StreamProcessorLifecycle.brief (budget : String) (operation : Operation) :
    (streamProcessorLifecycle budget operation).Brief where
  inspect model := by simp [streamProcessorLifecycle, look]
  start model current := by cases operation <;> simp [streamProcessorLifecycle, start, change]
  observe phase ids := by simp [streamProcessorLifecycle, look, Observation.ofAnswer]
  advance phase ids model remote := by
    simp only [streamProcessorLifecycle, advance]
    split
    · simp
    · rw [Program.always_ite]
      refine ⟨by simp [startUp], ?_⟩
      intro _
      split <;> simp [change]
  cleanup ids := by simp [streamProcessorLifecycle, cleanup]

namespace PrivateEndpointLifecycle

theorem brief_detachNext (ids : PrivateEndpointIds) (service : EndpointService) :
    (detachNext ids service).Always fun trace _ => trace.length ≤ 1 := by
  simp only [detachNext, deleteService, removeNetworkEndpoints]
  split <;> simp

theorem brief (operation : Operation) : (privateEndpointLifecycle operation).Brief where
  inspect model := by simp [privateEndpointLifecycle, look]
  start model current := by
    rcases current with _ | (_ | _ | _ | _) <;> cases operation <;>
      simp [privateEndpointLifecycle, start, brief_detachNext]
  observe phase ids := by cases phase <;> simp [privateEndpointLifecycle, observe, look]
  advance phase ids model remote := by
    simp only [privateEndpointLifecycle, advance]
    split
    · simp only [createNetworkEndpoint]
      split <;> simp
    · simp [attachInterface]
    · simp [connected]
    · exact brief_detachNext _ _
    · simp [deleteService]
    · simp
    · simp
  cleanup ids := by simp [privateEndpointLifecycle]

end PrivateEndpointLifecycle

theorem ExportJobLifecycle.brief (completion : String) (operation : Operation) :
    (exportJobLifecycle completion operation).Brief where
  inspect model := by simp [exportJobLifecycle, look]
  start model current := by cases operation <;> cases current <;> simp [exportJobLifecycle, start]
  observe phase ids := by simp [exportJobLifecycle, look, Observation.ofAnswer]
  advance phase ids model remote := by cases phase <;> cases remote <;> simp [exportJobLifecycle, advance]
  cleanup ids := by simp [exportJobLifecycle]

namespace Family

/-- The lifecycles of all families are brief. -/
theorem brief (settings : Settings) (operation : Operation) (family : Family) :
    (family.lifecycle settings operation).Brief := by
  cases family with
  | cluster => exact ClusterLifecycle.brief _ _
  | streamProcessor => exact StreamProcessorLifecycle.brief _ _
  | privateEndpoint => exact PrivateEndpointLifecycle.brief _
  | exportJob => exact ExportJobLifecycle.brief _ _

/-- A step of any operation is a unit of work, whatever context it is given and whatever answers it gets. -/
theorem step_isUnitOfWork (settings : Settings) (operation : Operation) (family : Family) (stepSettings : StepSettings)
    (fresh : OperationId) (context : Fields) (model : family.Model) (now : Instant) :
    ((family.lifecycle settings operation).step stepSettings fresh context model now).Always fun trace _ =>
      IsUnitOfWork trace :=
  (family.brief settings operation).step (looks settings operation family) (keeps settings operation family) fresh
    context model now

/-- A private endpoint that is to be deleted, with the context of a service that is being requested. -/
def strayWaiting : Continuation PrivateEndpointPhase PrivateEndpointIds where
  operationId := .nil
  phase := .serviceProvisioning
  ids := { projectId := "p", region := "r", serviceId := some "s" }
  timing := none

/-- It goes on as if the endpoint were to be created. -/
def strayOngoing : Continuation PrivateEndpointPhase PrivateEndpointIds :=
  strayWaiting.advance .creatingNetworkEndpoint { strayWaiting.ids with networkEndpointIds := ["e"] }

/-- The step that does so. -/
def strayCreated : Taken PrivateEndpointModel where
  fresh := .nil
  context := (privateEndpoint.lifecycle {} .delete).write privateEndpoint.idsRecord strayWaiting
  model := { vpcId := some "v", subnetIds := some ["n"] }
  now := .epoch
  trace := [⟨.control (.getService "p" "s"), .ok { id := "s", status := "AVAILABLE", endpointServiceName := some "x" }⟩,
    ⟨.network (.createEndpoint "r" "x" "v" ["n"]), .ok { id := "e", state := "pending" }⟩]
  outcome := .inProgress ((privateEndpoint.lifecycle {} .delete).write privateEndpoint.idsRecord strayOngoing)
    (.ofSeconds 10) "Network endpoint requested"

theorem takes_strayCreated :
    (privateEndpoint.lifecycle {} .delete).Takes (Settings.step {} .privateEndpoint) strayCreated := by
  have keeps := keeps {} .delete .privateEndpoint
  have read : Context.decode (privateEndpoint.lifecycle {} .delete).target (privateEndpoint.lifecycle {} .delete).ids
      strayCreated.context = .ok (some strayWaiting) :=
    keeps.decode_write (show strayWaiting.HasPlainStart by rintro _ ⟨⟩)
  apply Lifecycle.takes_of_ends
  rw [Lifecycle.tryStep, read]
  refine .call (.note (.call (.note ?_)))
  exact keeps.ends_waiting strayOngoing _

/-- Even then it makes two calls, of which the second one creates something. -/
theorem strayCreated_isUnitOfWork : strayCreated.trace.length = 2 ∧ IsUnitOfWork strayCreated.trace :=
  ⟨rfl, step_isUnitOfWork {} .delete .privateEndpoint _ _ _ _ _ _ _ takes_strayCreated⟩

end Family
end Provisioner
