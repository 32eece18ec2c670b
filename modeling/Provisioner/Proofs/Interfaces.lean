import Provisioner.Proofs.Calls

/-!
# Interfaces in traces

Between the call to detach an interface and the first look at its service that does not find it, the interface is being
detached (`IsPending`). A trace is patient if no other interface is detached and no network endpoints are deleted
meanwhile (`Patient`); then between the call to detach an interface and the next such call there is always a look at the
service that does not find the interface (`exists_release`).
-/
namespace Provisioner

/-- The interface that a call detaches. -/
def Call.detached? : Call → Option String
  | control (.detachInterface _ _ endpoint) => some endpoint
  | _ => none

/-- The network endpoints that a call deletes. -/
def Call.removed? : Call → Option (List String)
  | network (.deleteEndpoints _ endpointIds) => some endpointIds
  | _ => none

/-- The call takes an endpoint apart: it detaches an interface or deletes network endpoints. -/
def Call.takesApart (c : Call) : Bool :=
  c.detached?.isSome || c.removed?.isSome

/-- The interfaces that calls detach, in order. -/
def detached (trace : Trace Gateway) : List String :=
  trace.filterMap (·.call.detached?)

/-- The lists of network endpoints that calls delete, in order. -/
def removed (trace : Trace Gateway) : List (List String) :=
  trace.filterMap (·.call.removed?)

/-- Whether an interface is being detached after a call, if one knows whether it was before. It is once the call was made
to detach it, until a service does not list it. -/
def Answered.pends (endpoint : String) (before : Bool) : Answered Gateway → Bool
  | ⟨.control (.detachInterface _ _ other), _⟩ => before || other = endpoint
  | ⟨.control (.getService ..), .ok service⟩ => before && service.interfaceEndpoints.contains endpoint
  | _ => before

/-- The interface is being detached after a trace. -/
def IsPending (endpoint : String) (trace : Trace Gateway) : Prop :=
  trace.foldl (fun before answered => answered.pends endpoint before) false = true

/-- Nothing is taken apart while an interface is being detached. -/
def Patient (trace : Trace Gateway) : Prop :=
  ∀ before last, before ++ [last] <+: trace → last.call.takesApart = true → ∀ endpoint, ¬ IsPending endpoint before

section
variable {trace before after : Trace Gateway} {last : Answered Gateway} {endpoint : String}

@[simp] theorem detached_append : detached (before ++ after) = detached before ++ detached after :=
  List.filterMap_append

@[simp] theorem removed_append : removed (before ++ after) = removed before ++ removed after :=
  List.filterMap_append

theorem not_isPending_nil : ¬ IsPending endpoint [] := by
  simp [IsPending]

/-- Calls that take something apart are only made while no interface is being detached. -/
theorem patient_iff_guarded : Patient trace ↔
    Guarded (fun before c => c.takesApart = true → ∀ endpoint, ¬ IsPending endpoint before) trace :=
  Iff.rfl

theorem patient_nil : Patient [] :=
  patient_iff_guarded.mpr guarded_nil

theorem patient_concat : Patient (trace ++ [last]) ↔
    Patient trace ∧ (last.call.takesApart = true → ∀ endpoint, ¬ IsPending endpoint trace) := by
  rw [patient_iff_guarded, patient_iff_guarded, guarded_concat]

theorem isPending_concat_detach {project service other : String} {answer : Except GatewayError Unit} :
    IsPending endpoint (trace ++ [⟨.control (.detachInterface project service other), answer⟩]) ↔
      IsPending endpoint trace ∨ other = endpoint := by
  simp [IsPending, Answered.pends]

theorem isPending_concat_look {project id : String} {service : EndpointService} :
    IsPending endpoint (trace ++ [⟨.control (.getService project id), .ok service⟩]) ↔
      IsPending endpoint trace ∧ endpoint ∈ service.interfaceEndpoints := by
  simp [IsPending, Answered.pends]

theorem IsPending.of_concat (pending : IsPending endpoint (trace ++ [last])) (other : last.call.detached? = none) :
    IsPending endpoint trace := by
  rw [IsPending, List.foldl_append, List.foldl_cons, List.foldl_nil] at pending
  unfold Answered.pends at pending
  split at pending
  · simp [Call.detached?] at other
  · exact (Bool.and_eq_true_iff.mp pending).1
  · exact pending

/-- An interface is being detached until a look at the service does not find it. -/
theorem pends_or_released (answered : Answered Gateway) (endpoint : String) :
    answered.pends endpoint true = true ∨ ∃ project id service,
      answered = ⟨.control (.getService project id), .ok service⟩ ∧ endpoint ∉ service.interfaceEndpoints := by
  unfold Answered.pends
  split
  · exact .inl rfl
  · next project id service =>
    by_cases listed : endpoint ∈ service.interfaceEndpoints
    · exact .inl (by simp [listed])
    · exact .inr ⟨project, id, service, rfl, listed⟩
  · exact .inl rfl

/-- Between the call to detach an interface and a point where it is no longer being detached, a look at the service does
not find it. -/
theorem exists_release {project service : String} {answer : Except GatewayError Unit}
    (released : ¬ IsPending endpoint (before ++ ⟨.control (.detachInterface project service endpoint), answer⟩ :: after)) :
    ∃ project id service, ⟨.control (.getService project id), .ok service⟩ ∈ after ∧
      endpoint ∉ service.interfaceEndpoints := by
  rw [IsPending, List.foldl_append, List.foldl_cons, Answered.pends, decide_eq_true rfl, Bool.or_true] at released
  induction after with
  | nil => exact absurd rfl released
  | cons answered after ih =>
    rcases pends_or_released answered endpoint with still | ⟨project, id, service, rfl, missing⟩
    · rw [List.foldl_cons, still] at released
      obtain ⟨project, id, service, member, missing⟩ := ih released
      exact ⟨project, id, service, List.mem_cons_of_mem _ member, missing⟩
    · exact ⟨project, id, service, List.mem_cons_self, missing⟩

end

/-! ## Calls that take nothing apart -/

/-- No call takes an endpoint apart. -/
def Leaves (trace : Trace Gateway) : Prop :=
  ∀ answered ∈ trace, answered.call.takesApart = false

section
variable {trace more : Trace Gateway} {endpoint : String}

theorem Call.takesApart_eq_false {c : Call} : c.takesApart = false ↔ c.detached? = none ∧ c.removed? = none := by
  simp [takesApart]

theorem Call.isMutating_of_takesApart {c : Call} (apart : c.takesApart = true) : c.isMutating = true := by
  unfold takesApart detached? removed? at apart
  split at apart
  · rfl
  · split at apart
    · rfl
    · cases apart

theorem Reads.leaves (reads : Reads trace) : Leaves trace := by
  intro answered member
  have harmless := reads answered member
  cases apart : answered.call.takesApart with
  | false => rfl
  | true =>
    rw [Call.isMutating_of_takesApart apart] at harmless
    cases harmless

theorem Leaves.detached_eq_nil (leaves : Leaves trace) : detached trace = [] :=
  List.filterMap_eq_nil_iff.mpr fun answered member => (Call.takesApart_eq_false.mp (leaves answered member)).1

theorem Leaves.removed_eq_nil (leaves : Leaves trace) : removed trace = [] :=
  List.filterMap_eq_nil_iff.mpr fun answered member => (Call.takesApart_eq_false.mp (leaves answered member)).2

theorem Leaves.of_isPending (leaves : Leaves more) (pending : IsPending endpoint (trace ++ more)) :
    IsPending endpoint trace := by
  induction more generalizing trace with
  | nil => rwa [List.append_nil] at pending
  | cons answered more ih =>
    obtain ⟨first, later⟩ := List.forall_mem_cons.mp leaves
    rw [List.append_cons] at pending
    exact (ih later pending).of_concat (Call.takesApart_eq_false.mp first).1

theorem Leaves.patient (leaves : Leaves more) (patient : Patient trace) : Patient (trace ++ more) := by
  induction more generalizing trace with
  | nil => rwa [List.append_nil]
  | cons answered more ih =>
    obtain ⟨first, later⟩ := List.forall_mem_cons.mp leaves
    have next : Patient (trace ++ [answered]) := by
      refine patient_concat.mpr ⟨patient, ?_⟩
      intro apart
      rw [first] at apart
      cases apart
    rw [List.append_cons]
    exact ih later next

end

end Provisioner
