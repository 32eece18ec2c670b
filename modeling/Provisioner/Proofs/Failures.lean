import Provisioner.Proofs.Atomicity
import Provisioner.Proofs.Phases
import Provisioner.Proofs.UnitOfWork

/-!
# Failed calls

No error of a call is swallowed or reported as another. An action heeds the answer to its call (`Heeds`): it fails with
the error that is answered, and with the error of a call only then. All that it may make something of is that nothing
is there (status 404), and while something is built up or changed not even that (`Lifecycle.Strict`).
-/
namespace Provisioner

/-- The error with which the call was answered. -/
def Answered.error? (answered : Answered Gateway) : Option GatewayError :=
  match answered.answer with
  | .error error => some error
  | .ok _ => none

/-- The failure, if it is one, is not that of a call. -/
def IsOwn {α : Type} (result : Except ProvisionError α) : Prop :=
  ∀ error, result ≠ .error (.gateway error)

section
variable {α β : Type} {x : Except ProvisionError α}

@[simp] theorem isOwn_ok (value : α) : IsOwn (.ok value) := by
  simp [IsOwn]

@[simp] theorem isOwn_error {error : ProvisionError} :
    IsOwn (.error error : Except _ α) ↔ ∀ cause, error ≠ .gateway cause := by
  simp [IsOwn]

/-- An error is as much one's own where it is passed on. -/
@[simp] theorem isOwn_of_eq : (∀ error, x = .error error → ∀ cause, ¬ error = .gateway cause) ↔ IsOwn x := by
  cases x <;> simp

theorem Rejects.isOwn (rejects : Rejects x) : IsOwn x := by
  rintro cause failed
  obtain ⟨_, ⟨⟩⟩ := rejects _ failed

end

@[simp] theorem PrivateEndpointIds.isOwn_known (key : String) (value : Option String) : IsOwn (known key value) := by
  cases value <;> simp [known]

/-- What an action makes of the answer to its call: it passes an error on, unless nothing is there and it has a value
for that; it succeeds if the call does. Without a call there is no error of one. -/
@[mk_iff]
structure Heeds {α : Type} (nothing : α → Prop) (trace : Trace Gateway) (result : Except ProvisionError α) : Prop where
  silent : trace = [] → IsOwn result
  failed : ∀ answered ∈ trace, ∀ error, answered.error? = some error →
    result = .error (.gateway error) ∨ error.isNotFound = true ∧ ∃ value, result = .ok value ∧ nothing value
  succeeded : ∀ answered ∈ trace, answered.error? = none → ∃ value, result = .ok value

section
variable {α : Type} {nothing : α → Prop} {result : Except ProvisionError α} {answered : Answered Gateway}

@[simp] theorem heeds_nil : Heeds nothing [] result ↔ IsOwn result := by
  simp [heeds_iff]

@[simp] theorem heeds_singleton : Heeds nothing [answered] result ↔
    (∀ error, answered.error? = some error →
      result = .error (.gateway error) ∨ error.isNotFound = true ∧ ∃ value, result = .ok value ∧ nothing value) ∧
    (answered.error? = none → ∃ value, result = .ok value) := by
  simp [heeds_iff]

end

/-- Checks call nothing, and looking and acting heed the answers to their calls. -/
structure Lifecycle.Heedful {M P I R : Type} (lifecycle : Lifecycle M P I R) : Prop where
  validate (model : M) : IsOwn (lifecycle.validate model)
  validateTransition (current : Option R) (model : M) : IsOwn (lifecycle.validateTransition current model)
  inspect (model : M) : (lifecycle.inspect model).Always (Heeds (· = some .absent))
  start (model : M) (current : Option R) : (lifecycle.start model current).Always (Heeds fun _ => True)
  observe (phase : P) (ids : I) : (lifecycle.observe phase ids).Always (Heeds (· = .absent))
  advance (phase : P) (ids : I) (model : M) (remote : Option R) :
    (lifecycle.advance phase ids model remote).Always (Heeds fun _ => True)

/-- In the phases of a graph the resource has to be there, and acting fails with every error that is answered. -/
structure Lifecycle.Strict {M P I R : Type} (lifecycle : Lifecycle M P I R) (graph : PhaseGraph P) : Prop where
  needs (phase : P) (within : phase ∈ graph.phases) : lifecycle.awaitsAbsence phase = false
  start (model : M) (current : Option R) : (lifecycle.start model current).Always (Heeds fun _ => False)
  advance (phase : P) (ids : I) (model : M) (remote : Option R) (within : phase ∈ graph.phases) :
    (lifecycle.advance phase ids model remote).Always (Heeds fun _ => False)

/-! ## The families -/

attribute [local simp] Answered.error? Observation.map PhaseGraph.phases Rejects.isOwn

namespace ClusterLifecycle

theorem heeds_advance {nothing : Transition ClusterPhase ClusterIds ClusterModel → Prop} (reserved : Label)
    (phase : ClusterPhase) (ids : ClusterIds) (model : ClusterModel) (remote : Option RemoteCluster) :
    (advance reserved phase ids model remote).Always (Heeds nothing) := by
  simp only [advance, afterIdle]
  split
  · simp
  · rw [Program.always_ite]
    refine ⟨by simp, ?_⟩
    intro _
    split <;> simp
  · simp

theorem heedful (reserved : Label) (operation : Operation) : (clusterLifecycle reserved operation).Heedful where
  validate model := (rejects_validate reserved operation model).isOwn
  validateTransition _ _ := isOwn_ok ()
  inspect model := by simp [clusterLifecycle, look]
  start model current := by cases operation <;> simp [clusterLifecycle, start]
  observe phase ids := by simp [clusterLifecycle, look, Observation.ofAnswer]
  advance phase ids model remote := heeds_advance reserved phase ids model remote

theorem strict (reserved : Label) {operation : Operation} (kept : operation ≠ .delete) :
    (clusterLifecycle reserved operation).Strict (graph operation) where
  needs phase within := by
    cases operation <;> cases phase <;> simp [clusterLifecycle, graph] at kept within ⊢
  start model current := by
    cases operation with
    | create | update => simp [clusterLifecycle, start]
    | delete => exact absurd rfl kept
  advance phase ids model remote _ := heeds_advance reserved phase ids model remote

end ClusterLifecycle

namespace StreamProcessorLifecycle

theorem heeds_advance {nothing : Transition StreamProcessorPhase StreamProcessorIds StreamProcessorModel → Prop}
    (phase : StreamProcessorPhase) (ids : StreamProcessorIds) (model : StreamProcessorModel)
    (remote : Option RemoteStreamProcessor) : (advance phase ids model remote).Always (Heeds nothing) := by
  simp only [advance]
  split
  · simp
  · rw [Program.always_ite]
    refine ⟨by simp [startUp], ?_⟩
    intro _
    split <;> simp [change]

theorem heedful (budget : String) (operation : Operation) : (streamProcessorLifecycle budget operation).Heedful where
  validate model := (rejects_validate operation model).isOwn
  validateTransition current model := (rejects_validateTransition budget operation current model).isOwn
  inspect model := by simp [streamProcessorLifecycle, look]
  start model current := by cases operation <;> simp [streamProcessorLifecycle, start, change]
  observe phase ids := by simp [streamProcessorLifecycle, look, Observation.ofAnswer]
  advance phase ids model remote := heeds_advance phase ids model remote

theorem strict (budget : String) {operation : Operation} (kept : operation ≠ .delete) :
    (streamProcessorLifecycle budget operation).Strict (graph operation) where
  needs phase within := by
    cases operation <;> cases phase <;> simp [streamProcessorLifecycle, graph] at kept within ⊢
  start model current := by
    cases operation with
    | create | update => simp [streamProcessorLifecycle, start, change]
    | delete => exact absurd rfl kept
  advance phase ids model remote _ := heeds_advance phase ids model remote

end StreamProcessorLifecycle

namespace PrivateEndpointLifecycle

variable {nothing : Transition PrivateEndpointPhase PrivateEndpointIds PrivateEndpointModel → Prop}

theorem heeds_detachNext (tolerant : ∀ transition, nothing transition) (ids : PrivateEndpointIds)
    (service : EndpointService) : (detachNext ids service).Always (Heeds nothing) := by
  simp only [detachNext, deleteService, removeNetworkEndpoints]
  split
  · by_cases unknown : (ids.remember service.interfaceEndpoints).networkEndpointIds = [] <;>
      simp [unknown, PrivateEndpointIds.service, tolerant]
  · simp [tolerant]

/-- Only where something is deleted it may be gone already. -/
theorem heeds_advance {phase : PrivateEndpointPhase}
    (tolerant : operationOf phase = .delete → ∀ transition, nothing transition) (ids : PrivateEndpointIds)
    (model : PrivateEndpointModel) (remote : Option EndpointObservation) :
    (advance phase ids model remote).Always (Heeds nothing) := by
  simp only [advance]
  split
  · simp only [createNetworkEndpoint]
    split <;> simp
  · simp [attachInterface, PrivateEndpointIds.service, PrivateEndpointIds.networkEndpoint]
  · simp [connected, PrivateEndpointIds.service]
  · exact heeds_detachNext (tolerant rfl) _ _
  · simp [deleteService, PrivateEndpointIds.service, tolerant rfl]
  · simp
  · simp

theorem heedful (operation : Operation) : (privateEndpointLifecycle operation).Heedful where
  validate model := (rejects_validate operation model).isOwn
  validateTransition _ _ := isOwn_ok ()
  inspect model := by simp [privateEndpointLifecycle, look, PrivateEndpointIds.service]
  start model current := by
    rcases current with _ | (_ | _ | _ | _) <;> cases operation <;>
      simp [privateEndpointLifecycle, start, heeds_detachNext]
  observe phase ids := by
    cases phase <;>
      simp [privateEndpointLifecycle, observe, look, PrivateEndpointIds.service, PrivateEndpointIds.interfaceEndpoint]
  advance phase ids model remote := heeds_advance (fun _ _ => trivial) ids model remote

theorem strict {operation : Operation} (kept : operation ≠ .delete) :
    (privateEndpointLifecycle operation).Strict (graph operation) where
  needs phase within := by
    obtain rfl := eq_operationOf within
    cases phase <;> simp [privateEndpointLifecycle, operationOf] at kept ⊢
  start model current := by
    cases operation with
    | create | update => simp [privateEndpointLifecycle, start]
    | delete => exact absurd rfl kept
  advance phase ids model remote within := by
    obtain rfl := eq_operationOf within
    exact heeds_advance (fun deletes => absurd deletes kept) ids model remote

end PrivateEndpointLifecycle

namespace ExportJobLifecycle

theorem heedful (completion : String) (operation : Operation) : (exportJobLifecycle completion operation).Heedful where
  validate model := (rejects_validate operation model).isOwn
  validateTransition _ _ := isOwn_ok ()
  inspect model := by simp [exportJobLifecycle, look]
  start model current := by cases operation <;> cases current <;> simp [exportJobLifecycle, start]
  observe phase ids := by simp [exportJobLifecycle, look, Observation.ofAnswer]
  advance phase ids model remote := by cases phase <;> cases remote <;> simp [exportJobLifecycle, advance]

theorem strict (completion : String) {operation : Operation} (kept : operation ≠ .delete) :
    (exportJobLifecycle completion operation).Strict (graph operation) where
  needs phase within := by
    cases operation <;> cases phase <;> simp [exportJobLifecycle, graph] at kept within ⊢
  start model current := by
    cases operation with
    | create | update => cases current <;> simp [exportJobLifecycle, start]
    | delete => exact absurd rfl kept
  advance phase ids model remote _ := by cases phase <;> cases remote <;> simp [exportJobLifecycle, advance]

end ExportJobLifecycle

namespace Family

/-- Every operation heeds the answers to its calls. -/
theorem heedful (settings : Settings) (operation : Operation) (family : Family) :
    (family.lifecycle settings operation).Heedful := by
  cases family with
  | cluster => exact ClusterLifecycle.heedful _ _
  | streamProcessor => exact StreamProcessorLifecycle.heedful _ _
  | privateEndpoint => exact PrivateEndpointLifecycle.heedful _
  | exportJob => exact ExportJobLifecycle.heedful _ _

/-- What is built up or changed has to be there. -/
theorem strict (settings : Settings) {operation : Operation} (kept : operation ≠ .delete) (family : Family) :
    (family.lifecycle settings operation).Strict (family.graph operation) := by
  cases family with
  | cluster => exact ClusterLifecycle.strict _ kept
  | streamProcessor => exact StreamProcessorLifecycle.strict _ kept
  | privateEndpoint => exact PrivateEndpointLifecycle.strict kept
  | exportJob => exact ExportJobLifecycle.strict _ kept

end Family

/-! ## What a step makes of failed calls -/

/-- The error may pass: nothing was answered, or too many calls were made, or the other side failed by itself. -/
def GatewayError.IsTransient (error : GatewayError) : Prop :=
  (∃ reason, error = .transport reason) ∨ ∃ status, error.status? = some status ∧ (status = 429 ∨ 500 ≤ status)

theorem GatewayError.isRetryable_iff {error : GatewayError} : error.isRetryable = true ↔ error.IsTransient := by
  cases error <;> simp [isRetryable, IsTransient, status?]

namespace ProvisionError
variable {error : GatewayError}

theorem category_gateway (present : error.status? ≠ some 404) :
    (gateway error).category = if error.status? = some 409 then .conflict else .remote := by
  simp [category, GatewayError.isConflict, GatewayError.isNotFound, present]

theorem category_gateway_of_isNotFound (missing : error.isNotFound = true) : (gateway error).category = .notFound := by
  have status : error.status? = some 404 := by simpa [GatewayError.isNotFound] using missing
  simp [category, GatewayError.isConflict, GatewayError.isNotFound, status]

theorem isRetryable_gateway_of_isNotFound (missing : error.isNotFound = true) : (gateway error).isRetryable = false := by
  cases error with
  | api status message =>
    obtain rfl : status = 404 := by simpa [GatewayError.isNotFound, GatewayError.status?] using missing
    rfl
  | transport | decode | unsupported => cases missing

end ProvisionError

namespace Heeds
variable {α : Type} {nothing : α → Prop} {trace : Trace Gateway} {error : ProvisionError} {value : α}
  {answered : Answered Gateway} {cause : GatewayError}

/-- An action that fails fails with the error of its call, if it makes one. -/
theorem exists_failed (heeds : Heeds nothing trace (.error error)) (member : answered ∈ trace) :
    ∃ cause, answered.error? = some cause ∧ error = .gateway cause := by
  cases failed : answered.error? with
  | none =>
    obtain ⟨_, ⟨⟩⟩ := heeds.succeeded answered member failed
  | some cause =>
    rcases heeds.failed answered member cause failed with same | ⟨_, _, ⟨⟩, _⟩
    exact ⟨cause, rfl, Except.error.inj same⟩

theorem eq_gateway (heeds : Heeds nothing trace (.error error)) (member : answered ∈ trace)
    (failed : answered.error? = some cause) : error = .gateway cause := by
  rcases heeds.failed answered member cause failed with same | ⟨_, _, ⟨⟩, _⟩
  exact Except.error.inj same

/-- The error of a call was answered. -/
theorem exists_answered (heeds : Heeds nothing trace (.error (.gateway cause))) :
    ∃ answered ∈ trace, answered.error? = some cause := by
  cases trace with
  | nil => exact absurd rfl (heeds.silent rfl cause)
  | cons answered rest =>
    obtain ⟨_, failed, ⟨⟩⟩ := heeds.exists_failed List.mem_cons_self
    exact ⟨answered, List.mem_cons_self, failed⟩

/-- An action that succeeds was at most told that nothing is there, and then has a value for that. -/
theorem nothing_of_failed (heeds : Heeds nothing trace (.ok value)) (member : answered ∈ trace)
    (failed : answered.error? = some cause) : cause.isNotFound = true ∧ nothing value := by
  rcases heeds.failed answered member cause failed with ⟨⟨⟩⟩ | ⟨missing, _, ⟨⟩, none⟩
  exact ⟨missing, none⟩

end Heeds

/-- What a step makes of the answers to its calls: it ends with an error of one, unless nothing is there, and fails
with the error of a call only then. -/
structure Verdict.Reports {P I M : Type} (trace : Trace Gateway) (verdict : Verdict P I M) : Prop where
  failed : ∀ {before answered after error}, trace = before ++ answered :: after → answered.error? = some error →
    error.isNotFound = false → after = [] ∧ verdict = .fails (.gateway error)
  reported : ∀ {error}, verdict = .fails (.gateway error) → ∃ answered ∈ trace, answered.error? = some error

section
variable {α P I M : Type} {nothing : α → Prop} {look act : Trace Gateway}

/-- A step that only looks, and fails to. -/
theorem Verdict.reports_of_failed {error : ProvisionError} (once : look.length ≤ 1)
    (heeds : Heeds nothing look (.error error)) : (.fails error : Verdict P I M).Reports look where
  failed := by
    intro before answered after cause whole failed _
    have member : answered ∈ look := by simp [whole]
    refine ⟨?_, congrArg Verdict.fails (heeds.eq_gateway member failed)⟩
    rw [whole, List.length_append, List.length_cons] at once
    exact List.eq_nil_of_length_eq_zero (by omega)
  reported := by
    rintro cause ⟨⟩
    exact heeds.exists_answered

/-- A step that only looks, and then decides for a reason of its own. -/
theorem Verdict.reports_of_seen {seen : α} {verdict : Verdict P I M} (heeds : Heeds nothing look (.ok seen))
    (own : ∀ error, verdict ≠ .fails (.gateway error)) : verdict.Reports look where
  failed := by
    intro before answered after error whole failed present
    have member : answered ∈ look := by simp [whole]
    rw [(heeds.nothing_of_failed member failed).1] at present
    cases present
  reported failed := absurd failed (own _)

/-- A step that looks and then acts. -/
theorem Verdict.reports_ofTransition {seen : α} {nothing' : Transition P I M → Prop}
    {result : Except ProvisionError (Transition P I M)} {place : P → I → Continuation P I}
    (heeds : Heeds nothing look (.ok seen)) (once : act.length ≤ 1)
    (acts : Heeds nothing' act result) : (Verdict.ofTransition place result).Reports (look ++ act) where
  failed := by
    intro before answered after error whole failed present
    -- the look went well, so the call that failed is that of the action
    have new : answered ∉ look := by
      intro member
      rw [(heeds.nothing_of_failed member failed).1] at present
      cases present
    have member : answered ∈ act := by
      have either : answered ∈ look ++ act := by simp [whole]
      exact (List.mem_append.mp either).resolve_left new
    refine ⟨eq_nil_of_append_eq once new whole, ?_⟩
    rcases acts.failed answered member error failed with rfl | ⟨missing, _⟩
    · rfl
    · rw [missing] at present
      cases present
  reported := by
    intro error failed
    rw [Verdict.fails_eq_ofTransition.mp failed.symm] at acts
    obtain ⟨answered, member, failed⟩ := acts.exists_answered
    exact ⟨answered, List.mem_append_right _ member, failed⟩

end

/-- A step to which some call says that something is missing fails for that, and for good. -/
def Verdict.Misses {P I M : Type} (trace : Trace Gateway) (verdict : Verdict P I M) : Prop :=
  ∀ answered ∈ trace, ∀ error, answered.error? = some error → error.isNotFound = true →
    ∃ cause, verdict = .fails cause ∧ cause.category = .notFound ∧ cause.isRetryable = false

section
variable {α P I M : Type} {nothing : α → Prop} {look act : Trace Gateway}

theorem Verdict.misses_of_failed {error : ProvisionError} (heeds : Heeds nothing look (.error error)) :
    (.fails error : Verdict P I M).Misses look := by
  intro answered member cause failed missing
  rw [heeds.eq_gateway member failed]
  exact ⟨_, rfl, ProvisionError.category_gateway_of_isNotFound missing,
    ProvisionError.isRetryable_gateway_of_isNotFound missing⟩

/-- Where something is seen, no call said that it is missing. -/
theorem Verdict.misses_of_seen {seen : α} {verdict : Verdict P I M} (heeds : Heeds nothing look (.ok seen))
    (present : ¬ nothing seen) : verdict.Misses look := by
  intro answered member error failed _
  exact absurd (heeds.nothing_of_failed member failed).2 present

theorem Verdict.misses_of_notFound (cause : Absence) : (.fails (.notFound cause) : Verdict P I M).Misses look :=
  fun _ _ _ _ _ => ⟨_, rfl, rfl, rfl⟩

theorem Verdict.misses_ofTransition {seen : α} {result : Except ProvisionError (Transition P I M)}
    {place : P → I → Continuation P I} (heeds : Heeds nothing look (.ok seen)) (present : ¬ nothing seen)
    (acts : Heeds (fun _ => False) act result) : (Verdict.ofTransition place result).Misses (look ++ act) := by
  intro answered member error failed missing
  rcases List.mem_append.mp member with early | late
  · exact absurd (heeds.nothing_of_failed early failed).2 present
  · rcases acts.failed answered late error failed with rfl | ⟨_, _, _, impossible⟩
    · exact ⟨_, rfl, ProvisionError.category_gateway_of_isNotFound missing,
        ProvisionError.isRetryable_gateway_of_isNotFound missing⟩
    · exact impossible.elim

end

namespace Lifecycle
variable {M P I R : Type} [Tagged P] {lifecycle : Lifecycle M P I R} {settings : StepSettings} {graph : PhaseGraph P}
  {trace : Trace Gateway} {verdict : Verdict P I M} {fresh : OperationId} {model : M} {now : Instant}

omit [Tagged P] in
theorem Opening.reports (brief : lifecycle.Brief) (heedful : lifecycle.Heedful)
    (opening : lifecycle.Opening fresh model now trace verdict) : verdict.Reports trace := by
  cases opening with
  | invalid invalid silent =>
    rw [silent]
    exact
      { failed := by simp
        reported := by
          rintro _ ⟨⟩
          exact absurd invalid (heedful.validate model _) }
  | uninspected _ inspected =>
    exact Verdict.reports_of_failed (brief.inspect _ _ _ inspected) (heedful.inspect _ _ _ inspected)
  | alreadyGone _ inspected | missing _ inspected =>
    refine Verdict.reports_of_seen (heedful.inspect _ _ _ inspected) ?_
    rintro _ ⟨⟩
  | refused _ inspected _ refused =>
    refine Verdict.reports_of_seen (heedful.inspect _ _ _ inspected) ?_
    rintro _ ⟨⟩
    exact absurd refused (heedful.validateTransition _ model _)
  | acted _ inspected _ _ started calls decided =>
    rw [calls, decided]
    exact Verdict.reports_ofTransition (heedful.inspect _ _ _ inspected) (brief.start _ _ _ _ started)
      (heedful.start _ _ _ _ started)

theorem Resumption.reports (brief : lifecycle.Brief) (heedful : lifecycle.Heedful) {continuation : Continuation P I}
    (resumption : lifecycle.Resumption settings continuation model now trace verdict)
    (inTime : continuation.isLate settings.fallbackTimeout now = false) : verdict.Reports trace := by
  cases resumption with
  | overrun late =>
    rw [inTime] at late
    cases late
  | unobserved _ observed =>
    exact Verdict.reports_of_failed (brief.observe _ _ _ _ observed) (heedful.observe _ _ _ _ observed)
  | vanished _ observed | faulty _ observed | pending _ observed =>
    refine Verdict.reports_of_seen (heedful.observe _ _ _ _ observed) ?_
    rintro _ ⟨⟩
  | acted _ observed _ advanced calls decided =>
    rw [calls, decided]
    exact Verdict.reports_ofTransition (heedful.observe _ _ _ _ observed) (brief.advance _ _ _ _ _ _ advanced)
      (heedful.advance _ _ _ _ _ _ advanced)

omit [Tagged P] in
theorem Opening.misses (heedful : lifecycle.Heedful) (strict : lifecycle.Strict graph)
    (kept : lifecycle.operation ≠ .delete) (opening : lifecycle.Opening fresh model now trace verdict) :
    verdict.Misses trace := by
  cases opening with
  | invalid _ silent => simp [Verdict.Misses, silent]
  | uninspected _ inspected => exact Verdict.misses_of_failed (heedful.inspect _ _ _ inspected)
  | alreadyGone _ _ deletes => exact absurd deletes kept
  | missing => exact Verdict.misses_of_notFound _
  | refused _ inspected present => exact Verdict.misses_of_seen (heedful.inspect _ _ _ inspected) present
  | acted _ inspected present _ started calls decided =>
    rw [calls, decided]
    exact Verdict.misses_ofTransition (heedful.inspect _ _ _ inspected) present (strict.start _ _ _ _ started)

theorem Resumption.misses (heedful : lifecycle.Heedful) (strict : lifecycle.Strict graph)
    {continuation : Continuation P I} (within : continuation.phase ∈ graph.phases)
    (resumption : lifecycle.Resumption settings continuation model now trace verdict)
    (inTime : continuation.isLate settings.fallbackTimeout now = false) : verdict.Misses trace := by
  cases resumption with
  | overrun late =>
    rw [inTime] at late
    cases late
  | unobserved _ observed => exact Verdict.misses_of_failed (heedful.observe _ _ _ _ observed)
  | vanished => exact Verdict.misses_of_notFound _
  | faulty _ observed | pending _ observed =>
    exact Verdict.misses_of_seen (heedful.observe _ _ _ _ observed) (by simp)
  | @acted before after _ seen _ _ observed due advanced calls decided =>
    -- in these phases nothing is done without the resource
    have present : ¬ seen = .absent := by
      rintro rfl
      rw [isDue, strict.needs _ within] at due
      cases due
    rw [calls, decided]
    exact Verdict.misses_ofTransition (heedful.observe _ _ _ _ observed) present
      (strict.advance _ _ _ _ within _ _ advanced)

end Lifecycle

/-- No failed call is swallowed or misreported. In a step that is not over time, an error other than 404 comes with the
last call, and the step fails with it; a step fails as one that may be tried again only if the error of a call may pass.
What is built up or changed fails for good, in every run, when something is missing. -/
theorem Family.failed_call_reported (settings : Settings) (operation : Operation) (family : Family)
    {taken : Taken family.Model} (takes : (family.lifecycle settings operation).Takes (settings.step family) taken)
    (inTime : ¬ (family.lifecycle settings operation).Overruns (settings.step family) taken) :
    (∀ before answered after error, taken.trace = before ++ answered :: after → answered.error? = some error →
      error.status? ≠ some 404 → after = [] ∧ ∃ retryable,
        taken.outcome = .failed error.message (if error.status? = some 409 then .conflict else .remote) retryable ∧
        (retryable = true ↔ error.IsTransient)) ∧
    (∀ message category, taken.outcome = .failed message category true →
      ∃ answered ∈ taken.trace, ∃ error, answered.error? = some error ∧ error.IsTransient) ∧
    (operation ≠ .delete → ∀ (caller : Caller) (before after : List (Taken family.Model)) (next : Option Fields),
      (family.lifecycle settings operation).Run (settings.step family) caller (before ++ taken :: after) next →
      ∀ answered ∈ taken.trace, ∀ error, answered.error? = some error → error.status? = some 404 →
        ∃ message, taken.outcome = .failed message .notFound false) := by
  have keeps := family.keeps settings operation
  have brief := family.brief settings operation
  have heedful := family.heedful settings operation
  obtain ⟨verdict, course, same⟩ := keeps.ends_step takes
  have outcome : taken.outcome = verdict.outcome _ _ := Except.ok.inj same
  have early {continuation : Continuation family.Phase family.Ids}
      (decoded : Context.decode (family.lifecycle settings operation).target (family.lifecycle settings operation).ids
        taken.context = .ok (some continuation)) :
      continuation.isLate (settings.step family).fallbackTimeout taken.now = false := by
    rw [← Bool.not_eq_true]
    exact fun late => inTime ⟨continuation, decoded, late⟩
  have reports : verdict.Reports taken.trace := by
    cases course with
    | rejected _ silent =>
      rw [silent]
      exact { failed := by simp, reported := by rintro _ ⟨⟩ }
    | opened _ opening => exact opening.reports brief heedful
    | resumed decoded resumption => exact resumption.reports brief heedful (early decoded)
  refine ⟨?_, ?_, ?_⟩
  · intro before answered after error whole failed present
    obtain ⟨last, rfl⟩ := reports.failed whole failed (by simpa [GatewayError.isNotFound] using present)
    refine ⟨last, error.isRetryable, ?_, GatewayError.isRetryable_iff⟩
    rw [outcome, Verdict.outcome, Outcome.ofError, ProvisionError.category_gateway present]
    rfl
  · intro message category failed
    rw [outcome] at failed
    cases verdict with
    | waits | succeeds => cases failed
    | fails error =>
      obtain ⟨_, _, retryable⟩ := Outcome.failed.inj failed
      cases error with
      | gateway cause =>
        obtain ⟨answered, member, failed⟩ := reports.reported rfl
        exact ⟨answered, member, cause, failed, GatewayError.isRetryable_iff.mp retryable⟩
      | validation | notFound | remoteFailure | timeout | context => cases retryable
  · intro kept caller before after next run answered member error failed missing
    have strict := family.strict settings kept
    have kept : (family.lifecycle settings operation).operation ≠ .delete := by rwa [lifecycle_operation]
    obtain ⟨stage, verdict, within, _, moves, outcome⟩ :=
      keeps.exists_move (Lifecycle.invariant_phases (family.looks settings operation) (family.keepsTo settings operation))
        run
    have misses : verdict.Misses taken.trace := by
      cases moves with
      | opened _ opening => exact opening.misses heedful strict kept
      | rejected _ _ _ silent => simp [Verdict.Misses, silent]
      | resumed _ decoded resumption =>
        refine resumption.misses heedful strict ?_ (early decoded)
        exact within
    obtain ⟨cause, rfl, category, retryable⟩ :=
      misses answered member error failed (by simpa [GatewayError.isNotFound] using missing)
    rw [outcome, Verdict.outcome, Outcome.ofError, category, retryable]
    exact ⟨_, rfl⟩

/-- The step that does not find the export that it waits for. -/
def exportVanished : Taken ExportJobModel where
  fresh := .nil
  context := (Family.exportJob.lifecycle {} .create).write Family.exportJob.idsRecord exportBegun
  model := {}
  now := .epoch
  trace := [⟨.control (.getExport "p" "c" "e"), .error (.api 404 "gone")⟩]
  outcome := .ofError (.notFound (.whileWaiting Family.exportJob.label "EXPORTING"))

theorem decode_exportVanished :
    Context.decode (Family.exportJob.lifecycle {} .create).target (Family.exportJob.lifecycle {} .create).ids
      exportVanished.context = .ok (some exportBegun) :=
  (Family.exportJob.keeps {} .create).decode_write (by rintro _ ⟨⟩)

theorem takes_exportVanished :
    (Family.exportJob.lifecycle {} .create).Takes (Settings.step {} .exportJob) exportVanished := by
  refine Lifecycle.takes_of_fails _ ?_ rfl
  rw [Lifecycle.tryStep, decode_exportVanished]
  exact .call (.fail _)

/-- An export that is refused may be tried again, and one that is gone may not. -/
theorem export_failures_reported :
    (∃ retryable, exportRefused.outcome = .failed (GatewayError.api 503 "busy").message .remote retryable ∧
      (retryable = true ↔ GatewayError.IsTransient (.api 503 "busy"))) ∧
    ∃ message, exportVanished.outcome = .failed message .notFound false := by
  have run : (Family.exportJob.lifecycle {} .create).Run (Settings.step {} .exportJob) .plain
      ([exportCreated] ++ exportVanished :: []) (Caller.plain.next exportVanished) :=
    .step (.step .start takes_exportCreated) takes_exportVanished
  constructor
  · have inTime : ¬ (Family.exportJob.lifecycle {} .create).Overruns (Settings.step {} .exportJob) exportRefused := by
      rintro ⟨_, ⟨⟩, _⟩
    exact ((Family.failed_call_reported {} .create .exportJob takes_exportRefused inTime).1 [] _ [] _ rfl rfl
      (by decide)).2
  · have inTime : ¬ (Family.exportJob.lifecycle {} .create).Overruns (Settings.step {} .exportJob) exportVanished := by
      rintro ⟨_, decoded, late⟩
      rw [decode_exportVanished] at decoded
      cases decoded
      cases late
    exact (Family.failed_call_reported {} .create .exportJob takes_exportVanished inTime).2.2 (by decide) _ _ _ _ run _
      List.mem_cons_self _ rfl rfl

end Provisioner
