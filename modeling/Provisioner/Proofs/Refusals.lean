import Provisioner.Proofs.Failures

/-!
# Refused input

Input that is refused has no effect. A context that is not one of the operation, in particular one of another operation
(`Context.decode_contextOf_of_ne`), and a model that makes no sense are refused before any call; where a later check
fails, nothing has been changed yet (`Opening.reads`, `Resumption.reads`), because an action that has made a call only
fails with the error of that call. A model that passes the first check passes all those that follow in a run
(`Lifecycle.Accepts`).
-/
namespace Provisioner

/-! ## Contexts of other operations -/

theorem Family.tag_injective {family other : Family} (same : family.tag = other.tag) : family = other := by
  cases family <;> cases other <;> first | rfl | exact absurd same (by decide)

theorem Operation.tag_injective {operation other : Operation} (same : operation.tag = other.tag) : operation = other := by
  cases operation <;> cases other <;> first | rfl | exact absurd same (by decide)

/-- A context of another target is refused. -/
theorem Context.decode_contextOf_of_ne {P I Q J : Type} [Tagged P] [Tagged Q] {record : Record I} {reread : I → I}
    (fits : record.Fits reread) {target : Target} {continuation : Continuation P I} {asked : Target} (ids : Shape J)
    (other : asked.family ≠ target.family ∨ asked.operation ≠ target.operation) :
    ∃ error, decode (P := Q) asked ids (contextOf target record continuation) = .error error := by
  have named : checkTarget asked (contextOf target record continuation) =
      .error (.wrongTarget s!"{asked.family} {asked.operation.tag}" s!"{target.family} {target.operation.tag}") := by
    have differs : ¬ (target.family = asked.family ∧ target.operation.tag = asked.operation.tag) := by
      rintro ⟨same, same'⟩
      exact other.elim (· same.symm) (· (Operation.tag_injective same').symm)
    simp only [checkTarget, requireString, get?_contextOf fits target continuation (by decide : isReserved "family"),
      get?_contextOf fits target continuation (by decide : isReserved "operation")]
    simp [reservedList, Json.string?, bind, Except.bind, differs]
  simp only [decode, contextOf_ne_nil fits, checkFlat_contextOf fits, checkVersion_contextOf fits, named]
  exact ⟨_, rfl⟩

/-! ## Failures without changes -/

/-- Only refused models and inputs belong to their category. -/
theorem ProvisionError.category_eq_validation {error : ProvisionError} :
    error.category = .validation ↔ ∃ cause, error = .validation cause := by
  cases error with
  | gateway cause =>
    rw [category]
    split
    · simp
    · split <;> simp
  | _ => simp [category]

/-- Only refused contexts belong to their category. -/
theorem ProvisionError.category_eq_malformedContext {error : ProvisionError} :
    error.category = .malformedContext ↔ ∃ cause, error = .context cause := by
  cases error with
  | gateway cause =>
    rw [category]
    split
    · simp
    · split <;> simp
  | _ => simp [category]

/-- The failure is that of an input that was refused. -/
def ProvisionError.IsRefusal (error : ProvisionError) : Prop :=
  error.category = .validation ∨ error.category = .malformedContext

theorem ProvisionError.isRefusal_iff {error : ProvisionError} :
    error.IsRefusal ↔ (∃ cause, error = .validation cause) ∨ ∃ cause, error = .context cause := by
  rw [IsRefusal, category_eq_validation, category_eq_malformedContext]

/-- An action that refuses its input has called nothing. -/
theorem Heeds.silent_of_isRefusal {α : Type} {nothing : α → Prop} {trace : Trace Gateway} {error : ProvisionError}
    (heeds : Heeds nothing trace (.error error)) (refusal : error.IsRefusal) : trace = [] := by
  cases trace with
  | nil => rfl
  | cons answered rest =>
    obtain ⟨cause, _, rfl⟩ := heeds.exists_failed List.mem_cons_self
    rcases ProvisionError.isRefusal_iff.mp refusal with ⟨_, ⟨⟩⟩ | ⟨_, ⟨⟩⟩

namespace Lifecycle
variable {M P I R : Type} [Tagged P] {lifecycle : Lifecycle M P I R} {settings : StepSettings} {trace : Trace Gateway}
  {error : ProvisionError} {model : M} {now : Instant}

omit [Tagged P] in
theorem Opening.reads (looks : lifecycle.Looks) (heedful : lifecycle.Heedful) {fresh : OperationId}
    (opening : lifecycle.Opening fresh model now trace (.fails error)) (refusal : error.IsRefusal) : Reads trace := by
  cases opening with
  | invalid _ silent => simp [silent]
  | uninspected _ inspected | missing _ inspected | refused _ inspected => exact looks.inspect _ _ _ inspected
  | acted _ inspected _ _ started calls decided =>
    -- the failure is not that of the call, so there was none
    have heeds := heedful.start _ _ _ _ started
    rw [Verdict.fails_eq_ofTransition.mp decided] at heeds
    rw [calls, heeds.silent_of_isRefusal refusal, List.append_nil]
    exact looks.inspect _ _ _ inspected

theorem Resumption.reads (looks : lifecycle.Looks) (heedful : lifecycle.Heedful) {continuation : Continuation P I}
    (resumption : lifecycle.Resumption settings continuation model now trace (.fails error))
    (refusal : error.IsRefusal) : Reads trace := by
  cases resumption with
  | overrun => exact absurd refusal (by simp [ProvisionError.isRefusal_iff])
  | unobserved _ observed | vanished _ observed | faulty _ observed => exact looks.observe _ _ _ _ observed
  | acted _ observed _ advanced calls decided =>
    have heeds := heedful.advance _ _ _ _ _ _ advanced
    rw [Verdict.fails_eq_ofTransition.mp decided] at heeds
    rw [calls, heeds.silent_of_isRefusal refusal, List.append_nil]
    exact looks.observe _ _ _ _ observed

end Lifecycle

/-! ## Checks after the first -/

/-- The input is not refused. -/
def Admits {α : Type} (_ : Trace Gateway) (result : Except ProvisionError α) : Prop :=
  ∀ cause, result ≠ .error (.validation cause)

/-- A model that makes sense is not refused later in the phases of a graph. -/
structure Lifecycle.Accepts {M P I R : Type} (lifecycle : Lifecycle M P I R) (graph : PhaseGraph P) : Prop where
  observe (phase : P) (ids : I) : (lifecycle.observe phase ids).Always Admits
  advance (phase : P) (ids : I) (model : M) (remote : Option R) (within : phase ∈ graph.phases)
    (valid : lifecycle.validate model = .ok ()) : (lifecycle.advance phase ids model remote).Always Admits

attribute [local simp] Admits Observation.map

@[simp] theorem PrivateEndpointIds.known_eq_error {key : String} {value : Option String} {error : ProvisionError} :
    known key value = .error error ↔ value = none ∧ error = .context (.missingKey key) := by
  cases value <;> simp [known, eq_comm]

theorem ClusterLifecycle.accepts (reserved : Label) (operation : Operation) :
    (clusterLifecycle reserved operation).Accepts (graph operation) where
  observe phase ids := by simp [clusterLifecycle, look, Observation.ofAnswer]
  advance phase ids model remote _ _ := by
    simp only [clusterLifecycle, advance, afterIdle]
    split
    · simp
    · rw [Program.always_ite]
      refine ⟨by simp, ?_⟩
      intro _
      split <;> simp
    · simp

namespace StreamProcessorLifecycle

/-- A model to which a processor may be changed makes a request. -/
theorem exists_request {model : StreamProcessorModel} (valid : validate .update model = .ok ()) :
    ∃ request, StreamProcessorLifecycle.request model = .ok request := by
  simp only [validate, bind_eq_ok] at valid
  obtain ⟨_, _, planned, _, valid⟩ := valid
  cases planned with
  | created | started | stopped =>
    obtain ⟨request, made, _⟩ := bind_eq_ok.mp valid
    exact ⟨request, made⟩
  | _ => cases valid

theorem accepts (budget : String) (operation : Operation) :
    (streamProcessorLifecycle budget operation).Accepts (graph operation) where
  observe phase ids := by simp [streamProcessorLifecycle, look, Observation.ofAnswer]
  advance phase ids model remote within valid := by
    simp only [streamProcessorLifecycle, advance]
    split
    · simp
    · rw [Program.always_ite]
      refine ⟨by simp [startUp], ?_⟩
      intro _
      split
      · obtain rfl : operation = .update := by
          cases operation <;> simp [graph, PhaseGraph.phases] at within ⊢
        obtain ⟨request, made⟩ := exists_request valid
        simp [change, made]
      · simp
      · simp

end StreamProcessorLifecycle

namespace PrivateEndpointLifecycle

theorem exists_vpcId {model : PrivateEndpointModel} (valid : validate .create model = .ok ()) :
    ∃ vpcId, required "vpcId" model.vpcId = .ok vpcId := by
  simp only [validate, bind_eq_ok] at valid
  obtain ⟨_, _, vpcId, known, _⟩ := valid
  exact ⟨vpcId, known⟩

theorem admits_detachNext (ids : PrivateEndpointIds) (service : EndpointService) :
    (detachNext ids service).Always Admits := by
  simp only [detachNext, deleteService, removeNetworkEndpoints]
  split
  · by_cases unknown : (ids.remember service.interfaceEndpoints).networkEndpointIds = [] <;>
      simp [unknown, PrivateEndpointIds.service]
  · simp

theorem accepts (operation : Operation) : (privateEndpointLifecycle operation).Accepts (graph operation) where
  observe phase ids := by
    cases phase <;>
      simp [privateEndpointLifecycle, observe, look, PrivateEndpointIds.service, PrivateEndpointIds.interfaceEndpoint]
  advance phase ids model remote within valid := by
    obtain rfl := eq_operationOf within
    simp only [privateEndpointLifecycle, advance]
    split
    · obtain ⟨vpcId, known⟩ := exists_vpcId valid
      simp only [createNetworkEndpoint]
      split <;> simp [known]
    · simp [attachInterface, PrivateEndpointIds.service, PrivateEndpointIds.networkEndpoint]
    · simp [connected, PrivateEndpointIds.service]
    · exact admits_detachNext _ _
    · simp [deleteService, PrivateEndpointIds.service]
    · simp
    · simp

end PrivateEndpointLifecycle

theorem ExportJobLifecycle.accepts (completion : String) (operation : Operation) :
    (exportJobLifecycle completion operation).Accepts (graph operation) where
  observe phase ids := by simp [exportJobLifecycle, look, Observation.ofAnswer]
  advance phase ids model remote _ _ := by cases phase <;> cases remote <;> simp [exportJobLifecycle, advance]

theorem Family.accepts (settings : Settings) (operation : Operation) (family : Family) :
    (family.lifecycle settings operation).Accepts (family.graph operation) := by
  cases family with
  | cluster => exact ClusterLifecycle.accepts _ _
  | streamProcessor => exact StreamProcessorLifecycle.accepts _ _
  | privateEndpoint => exact PrivateEndpointLifecycle.accepts _
  | exportJob => exact ExportJobLifecycle.accepts _ _

namespace Lifecycle
variable {M P I R : Type} [Tagged P] {lifecycle : Lifecycle M P I R} {settings : StepSettings} {reread : I → I}
  {graph : PhaseGraph P} {caller : Caller} {taken : Taken M} {stage : Stage P I} {verdict : Verdict P I M} {model : M}

/-- An operation on one model only waits if the model makes sense. -/
theorem invariant_valid (model : M) : lifecycle.Invariant settings reread caller fun steps stage =>
    (∀ taken ∈ steps, taken.model = model) → stage.All fun _ => lifecycle.validate model = .ok () where
  start _ := trivial
  step := by
    intro steps stage taken verdict holds moves same
    obtain ⟨before, last⟩ := List.forall_mem_append.mp same
    obtain rfl := last taken List.mem_cons_self
    refine (holds before).next caller ?_
    cases moves with
    | opened _ opening =>
      cases opening with
      | acted valid _ _ _ _ _ decided =>
        rw [decided]
        exact Verdict.all_ofTransition fun _ _ _ _ => valid
      | _ => trivial
    | rejected => trivial
    | resumed =>
      have valid : lifecycle.validate taken.model = .ok () := holds before
      cases verdict with
      | waits => exact valid
      | fails | succeeds => trivial

/-- A run of a caller that does not come back begins with its only first step. -/
theorem invariant_first : lifecycle.Invariant settings reread .plain fun steps stage =>
    stage = .unopened → steps = [] where
  start _ := rfl
  step := by
    intro steps stage taken verdict _ _ opened
    exact absurd opened (verdict.stage_plain_ne stage)

theorem Invariant.and {J K : List (Taken M) → Stage P I → Prop}
    (first : lifecycle.Invariant settings reread caller J) (second : lifecycle.Invariant settings reread caller K) :
    lifecycle.Invariant settings reread caller fun steps stage => J steps stage ∧ K steps stage where
  start := ⟨first.start, second.start⟩
  step holds moves := ⟨first.step holds.1 moves, second.step holds.2 moves⟩

/-- A step after the first does not refuse a model that makes sense. -/
theorem Resumption.ne_validation (accepts : lifecycle.Accepts graph) {continuation : Continuation P I}
    {trace : Trace Gateway} {now : Instant} {cause : Rejection} (within : continuation.phase ∈ graph.phases)
    (valid : lifecycle.validate model = .ok ()) :
    ¬ lifecycle.Resumption settings continuation model now trace (.fails (.validation cause)) := by
  intro resumption
  cases resumption with
  | unobserved _ observed => exact accepts.observe _ _ _ _ observed cause rfl
  | acted _ _ _ advanced _ decided =>
    exact accepts.advance _ _ _ _ within valid _ _ advanced cause (Verdict.fails_eq_ofTransition.mp decided)

end Lifecycle

/-- In a run with one model only a first step refuses the model. -/
theorem Family.refused_at_first (settings : Settings) (operation : Operation) (family : Family) {caller : Caller}
    {before after : List (Taken family.Model)} {taken : Taken family.Model} {next : Option Fields} {model : family.Model}
    (run : (family.lifecycle settings operation).Run (settings.step family) caller (before ++ taken :: after) next)
    (same : ∀ step ∈ before ++ [taken], step.model = model) {message : String} {retryable : Bool}
    (failed : taken.outcome = .failed message .validation retryable) :
    taken.context = [] ∧ (caller = .plain → before = []) := by
  have keeps := family.keeps settings operation
  have accepts := family.accepts settings operation
  have looks := family.looks settings operation
  have keepsTo := family.keepsTo settings operation
  obtain ⟨earlier, last⟩ := List.forall_mem_append.mp same
  obtain rfl := last taken List.mem_cons_self
  have context : taken.context = [] := by
    obtain ⟨stage, verdict, ⟨within, valid⟩, _, moves, outcome⟩ :=
      keeps.exists_move ((Lifecycle.invariant_phases looks keepsTo).and (Lifecycle.invariant_valid taken.model)) run
    rw [outcome] at failed
    cases verdict with
    | waits | succeeds => cases failed
    | fails error =>
      obtain ⟨_, category, _⟩ := Outcome.failed.inj failed
      obtain ⟨cause, rfl⟩ := ProvisionError.category_eq_validation.mp category
      cases moves with
      | opened empty => exact empty
      | resumed _ _ resumption =>
        refine absurd resumption (Lifecycle.Resumption.ne_validation accepts ?_ (valid earlier))
        exact within
  refine ⟨context, ?_⟩
  rintro rfl
  obtain ⟨stage, _, first, stands, _⟩ := keeps.exists_move Lifecycle.invariant_first run
  cases stage with
  | unopened => exact first rfl
  | waiting continuation =>
    rw [context] at stands
    exact absurd (Option.some.inj stands) (keeps.write_ne_nil continuation)
  | ended => cases stands

/-! ## Responses -/

namespace Registry
variable {settings : Settings} {operation : Operation} {family : Family} {fresh : OperationId} {context : Fields}
  {document : Json} {now : Instant} {trace : Trace Gateway} {result : Except Empty (StepResponse Json)}
  {model : family.Model}

theorem findFamily_tag (family : Family) : findFamily family.tag = .ok family := by
  cases family <;> rfl

/-- A step on a model that can be read is one of the lifecycle of the family. -/
theorem ends_step_iff (parsed : parseModel family.modelShape document = .ok model) :
    (step settings family.tag operation fresh context document now).Ends trace result ↔
      ∃ outcome, ((family.lifecycle settings operation).step (settings.step family) fresh context model now).Ends trace
          (.ok outcome) ∧
        result = .ok (.ofOutcome (outcome.map family.modelShape.toJson)) := by
  simp only [step, findFamily_tag, Family.stepFamily_eq, Lifecycle.stepOn, parsed, Program.bind_bind]
  constructor
  · intro ends
    rcases Program.ends_bind.mp ends with ⟨error, _, _⟩ | ⟨outcome, _, _, stepped, responded, rfl⟩
    · exact error.elim
    obtain ⟨rfl, rfl⟩ := Program.ends_done.mp responded
    rw [List.append_nil]
    exact ⟨outcome, stepped, rfl⟩
  · rintro ⟨outcome, stepped, rfl⟩
    exact Program.ends_bind.mpr (.inr ⟨outcome, trace, [], stepped, .done _, (List.append_nil _).symm⟩)

/-- A step whose family is unknown or whose model cannot be read calls nothing and returns no context. -/
theorem silent_or_parsed {tag : String} {response : StepResponse Json}
    (ends : (step settings tag operation fresh context document now).Ends trace (.ok response)) :
    (trace = [] ∧ response.continuationContext = none) ∨ ∃ (family : Family) (model : family.Model),
      family.tag = tag ∧ parseModel family.modelShape document = .ok model := by
  cases found : findFamily tag with
  | error error =>
    simp only [step, found, Program.pure_eq, Program.ends_done] at ends
    obtain ⟨rfl, ⟨⟩⟩ := ends
    exact .inl ⟨rfl, rfl⟩
  | ok family =>
    have named : family.tag = tag := by
      unfold findFamily at found
      split at found
      · next known =>
        cases found
        exact Tagged.tag_of_ofTag? known
      · cases found
    cases parsed : parseModel family.modelShape document with
    | error error =>
      simp only [step, found, Family.stepFamily_eq, Lifecycle.stepOn, parsed, Program.pure_eq, Program.done_bind,
        Program.ends_done] at ends
      obtain ⟨rfl, ⟨⟩⟩ := ends
      exact .inl ⟨rfl, rfl⟩
    | ok model => exact .inr ⟨family, model, named, parsed⟩

end Registry

namespace Family
variable {settings : Settings} {operation : Operation} {family : Family}

theorem lifecycle_target (settings : Settings) (operation : Operation) (family : Family) :
    (family.lifecycle settings operation).target = ⟨family.tag, operation⟩ := by
  cases family <;> rfl

end Family

/-- The response refuses the context for good and gives none in return. -/
structure StepResponse.RefusesContext {α : Type} (response : StepResponse α) : Prop where
  failed : response.status = .failed
  malformed : response.errorCategory = some .malformedContext
  final : response.retryable = some false
  ended : response.continuationContext = none

namespace Registry
variable {settings : Settings} {operation : Operation} {family : Family} {fresh : OperationId} {context : Fields}
  {document : Json} {now : Instant} {trace : Trace Gateway} {model : family.Model}

theorem step_of_refused_context (parsed : parseModel family.modelShape document = .ok model) {error : ContextError}
    (refused : Context.decode (P := family.Phase) ⟨family.tag, operation⟩ family.idsRecord.shape context = .error error) :
    (step settings family.tag operation fresh context document now).Always fun trace result =>
      trace = [] ∧ ∃ response, result = .ok response ∧ response.RefusesContext := by
  intro trace result ends
  obtain ⟨outcome, stepped, rfl⟩ := (ends_step_iff parsed).mp ends
  obtain ⟨verdict, course, same⟩ := (family.keeps settings operation).ends_step stepped
  obtain rfl := Except.ok.inj same
  rw [← Family.lifecycle_target settings, ← Family.lifecycle_ids settings operation] at refused
  cases course with
  | rejected _ silent => exact ⟨silent, _, rfl, { failed := rfl, malformed := rfl, final := rfl, ended := rfl }⟩
  | opened decoded | resumed decoded =>
    rw [refused] at decoded
    cases decoded

/-- A first step on a model that makes no sense calls nothing. -/
theorem step_of_invalid (parsed : parseModel family.modelShape document = .ok model)
    (invalid : (family.lifecycle settings operation).validate model ≠ .ok ()) :
    (step settings family.tag operation fresh [] document now).Always fun trace _ => trace = [] := by
  intro trace result ends
  obtain ⟨outcome, stepped, rfl⟩ := (ends_step_iff parsed).mp ends
  obtain ⟨verdict, course, _⟩ := (family.keeps settings operation).ends_step stepped
  cases course with
  | rejected _ silent => exact silent
  | opened _ opening => exact opening.silent invalid
  | resumed decoded =>
    rw [Lifecycle.Keeps.decode_empty] at decoded
    cases decoded

/-- A step that refuses its input changes nothing. -/
theorem reads_of_refusal {tag : String} {response : StepResponse Json}
    (ends : (step settings tag operation fresh context document now).Ends trace (.ok response))
    (refusal : response.errorCategory = some .validation ∨ response.errorCategory = some .malformedContext) :
    Reads trace := by
  rcases silent_or_parsed ends with ⟨rfl, _⟩ | ⟨family, model, rfl, parsed⟩
  · exact reads_nil
  obtain ⟨outcome, stepped, responded⟩ := (ends_step_iff parsed).mp ends
  obtain ⟨verdict, course, same⟩ := (family.keeps settings operation).ends_step stepped
  obtain rfl := Except.ok.inj same
  obtain rfl := Except.ok.inj responded
  have looks := family.looks settings operation
  have heedful := family.heedful settings operation
  cases verdict with
  | fails error =>
    have refusal : error.IsRefusal := refusal.imp Option.some.inj Option.some.inj
    cases course with
    | rejected _ silent => simp [silent]
    | opened _ opening => exact opening.reads looks heedful refusal
    | resumed _ resumption => exact resumption.reads looks heedful refusal
  | waits | succeeds => rcases refusal with ⟨⟨⟩⟩ | ⟨⟨⟩⟩

/-- A context that a step returns is that of an operation of the family. -/
theorem exists_returned {tag : String} {response : StepResponse Json} {returned : Fields}
    (ends : (step settings tag operation fresh context document now).Ends trace (.ok response))
    (returns : response.continuationContext = some returned) :
    ∃ (family : Family) (continuation : Continuation family.Phase family.Ids), family.tag = tag ∧
      returned = Context.contextOf ⟨family.tag, operation⟩ family.idsRecord continuation := by
  rcases silent_or_parsed ends with ⟨_, ended⟩ | ⟨family, model, rfl, parsed⟩
  · rw [ended] at returns
    cases returns
  obtain ⟨outcome, stepped, responded⟩ := (ends_step_iff parsed).mp ends
  obtain ⟨verdict, _, same⟩ := (family.keeps settings operation).ends_step stepped
  obtain rfl := Except.ok.inj same
  obtain rfl := Except.ok.inj responded
  cases verdict with
  | fails | succeeds => cases returns
  | waits continuation =>
    obtain rfl := Option.some.inj returns
    rw [Lifecycle.write, Family.lifecycle_target]
    exact ⟨family, continuation, rfl, rfl⟩

/-- A context that a step on another family or of another operation returned is refused. -/
theorem decode_of_returned {settings' : Settings} {family' : Family} {operation' : Operation}
    (other : family ≠ family' ∨ operation ≠ operation') {response : StepResponse Json} {returned : Fields}
    (ends : (step settings' family'.tag operation' fresh context document now).Ends trace (.ok response))
    (returns : response.continuationContext = some returned) :
    ∃ error, Context.decode (P := family.Phase) ⟨family.tag, operation⟩ family.idsRecord.shape returned = .error error := by
  obtain ⟨source, continuation, same, rfl⟩ := exists_returned ends returns
  obtain rfl := Family.tag_injective same
  exact Context.decode_contextOf_of_ne source.fits _ (other.imp_left fun differs same => differs (Family.tag_injective same))

/-- Refused input has no effect. A step calls nothing if its context is refused, as is every context that a step on
another family or of another operation returned, and a first step calls nothing if its model makes no sense. No step
that refuses its input changes anything. In a run with one model only a first step refuses it. -/
theorem refused_without_effect (settings : Settings) (operation : Operation) (family : Family) :
    (∀ (fresh : OperationId) (context : Fields) (document : Json) (now : Instant) (model : family.Model)
      (error : ContextError), parseModel family.modelShape document = .ok model →
      Context.decode (P := family.Phase) ⟨family.tag, operation⟩ family.idsRecord.shape context = .error error →
      (step settings family.tag operation fresh context document now).Always fun trace result =>
        trace = [] ∧ ∃ response, result = .ok response ∧ response.RefusesContext) ∧
    (∀ (settings' : Settings) (family' : Family) (operation' : Operation) (fresh : OperationId) (context : Fields)
      (document : Json) (now : Instant) (trace : Trace Gateway) (response : StepResponse Json) (returned : Fields),
      family ≠ family' ∨ operation ≠ operation' →
      (step settings' family'.tag operation' fresh context document now).Ends trace (.ok response) →
      response.continuationContext = some returned →
      ∃ error, Context.decode (P := family.Phase) ⟨family.tag, operation⟩ family.idsRecord.shape returned =
        .error error) ∧
    (∀ (fresh : OperationId) (document : Json) (now : Instant) (model : family.Model),
      parseModel family.modelShape document = .ok model →
      (family.lifecycle settings operation).validate model ≠ .ok () →
      (step settings family.tag operation fresh [] document now).Always fun trace _ => trace = []) ∧
    (∀ (tag : String) (fresh : OperationId) (context : Fields) (document : Json) (now : Instant)
      (trace : Trace Gateway) (response : StepResponse Json),
      (step settings tag operation fresh context document now).Ends trace (.ok response) →
      response.errorCategory = some .validation ∨ response.errorCategory = some .malformedContext → Reads trace) ∧
    ∀ (caller : Caller) (before after : List (Taken family.Model)) (taken : Taken family.Model) (next : Option Fields)
      (model : family.Model) (message : String) (retryable : Bool),
      (family.lifecycle settings operation).Run (settings.step family) caller (before ++ taken :: after) next →
      (∀ step ∈ before ++ [taken], step.model = model) → taken.outcome = .failed message .validation retryable →
      taken.context = [] ∧ (caller = .plain → before = []) := by
  refine ⟨?_, ?_, ?_, ?_, ?_⟩
  · intro fresh context document now model error parsed refused
    exact step_of_refused_context parsed refused
  · intro settings' family' operation' fresh context document now trace response returned other ends returns
    exact decode_of_returned other ends returns
  · intro fresh document now model parsed invalid
    exact step_of_invalid parsed invalid
  · intro tag fresh context document now trace response ends refusal
    exact reads_of_refusal ends refusal
  · intro caller before after taken next model message retryable run same failed
    exact family.refused_at_first settings operation run same failed

/-- The model of the endpoint that is requested, as a document. -/
def endpointDocument : Json :=
  .object [("projectId", .string "p"), ("region", .string "r"), ("subnetIds", .array [.string "n"]),
    ("vpcId", .string "v")]

theorem parseModel_endpointDocument :
    parseModel Family.privateEndpoint.modelShape endpointDocument = .ok endpointRequested.model := by
  rfl

/-- The context with which an endpoint is created does not serve to delete it. -/
theorem endpoint_refused :
    (step {} Family.privateEndpoint.tag .delete .nil endpointContext endpointDocument .epoch).Always fun trace result =>
      trace = [] ∧ ∃ response, result = .ok response ∧ response.RefusesContext := by
  have theory := refused_without_effect {} .delete .privateEndpoint
  have returned : (step {} Family.privateEndpoint.tag .create .nil [] endpointDocument .epoch).Ends
      endpointRequested.trace (.ok (.ofOutcome (endpointRequested.outcome.map PrivateEndpointModel.shape.toJson))) :=
    (ends_step_iff parseModel_endpointDocument).mpr ⟨_, takes_endpointRequested, rfl⟩
  obtain ⟨error, refused⟩ := theory.2.1 _ _ _ _ _ _ _ _ _ _ (.inr (by decide)) returned rfl
  exact theory.1 _ _ _ _ _ error parseModel_endpointDocument refused

end Registry

end Provisioner
