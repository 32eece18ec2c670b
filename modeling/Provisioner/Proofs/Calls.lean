import Provisioner.Lifecycle.Basic
import Provisioner.Proofs.Trace

/-!
# Calls in traces

Which calls change something, which create something, and which of them succeeded; how an action that makes a call goes
on after each answer; and when a call may be made, which is said by a condition on the calls and answers before it
(`Guarded`).
-/
namespace Provisioner

/-- The call changes something on the other side. -/
def ControlCall.isMutating : ControlCall → Bool
  | createCluster .. => true
  | updateCluster .. => true
  | deleteCluster .. => true
  | updateProcessArgs .. => true
  | createProcessor .. => true
  | updateProcessor .. => true
  | deleteProcessor .. => true
  | startProcessor .. => true
  | stopProcessor .. => true
  | createService .. => true
  | deleteService .. => true
  | attachInterface .. => true
  | detachInterface .. => true
  | createExport .. => true
  | getCluster .. => false
  | listClusters .. => false
  | getProcessor .. => false
  | listProcessors .. => false
  | getService .. => false
  | listServices .. => false
  | getInterface .. => false
  | getExport .. => false
  | listExports .. => false

/-- The call changes something on the other side. -/
def NetworkCall.isMutating : NetworkCall → Bool
  | createEndpoint .. => true
  | deleteEndpoints .. => true
  | describeEndpoints .. => false

/-- The call changes something on the other side. -/
def Call.isMutating : Call → Bool
  | control c => c.isMutating
  | network c => c.isMutating

/-- What is created by a call of its own. -/
inductive Creation where
  | cluster
  | processor
  | service
  | networkEndpoint
  | interface
  | exportJob
  deriving DecidableEq, Repr

/-- What a call creates. -/
def Call.creation? : Call → Option Creation
  | control (.createCluster ..) => some .cluster
  | control (.createProcessor ..) => some .processor
  | control (.createService ..) => some .service
  | control (.attachInterface ..) => some .interface
  | control (.createExport ..) => some .exportJob
  | network (.createEndpoint ..) => some .networkEndpoint
  | _ => none

/-- A call that creates something changes something. -/
theorem Call.isMutating_of_creation? {c : Call} {creation : Creation} (creates : c.creation? = some creation) :
    c.isMutating = true := by
  unfold Call.creation? at creates
  split at creates <;> first | rfl | cases creates

/-- The call was answered with a result. -/
def Answered.succeeded (answered : Answered Gateway) : Bool :=
  answered.answer.isOk

/-- No call that changes something succeeded. -/
def Untouched (trace : Trace Gateway) : Prop :=
  ∀ answered ∈ trace, answered.call.isMutating = true → answered.succeeded = false

instance (trace : Trace Gateway) : Decidable (Untouched trace) :=
  inferInstanceAs (Decidable (∀ _ ∈ _, _))

/-- All calls only read. -/
def Reads (trace : Trace Gateway) : Prop :=
  ∀ answered ∈ trace, answered.call.isMutating = false

/-- How many calls created something of a kind. -/
def creations (creation : Creation) (trace : Trace Gateway) : Nat :=
  trace.countP fun answered => answered.call.creation? == some creation && answered.succeeded

@[simp] theorem untouched_nil : Untouched [] := by
  simp [Untouched]

@[simp] theorem untouched_cons {answered : Answered Gateway} {trace : Trace Gateway} :
    Untouched (answered :: trace) ↔
      (answered.call.isMutating = true → answered.succeeded = false) ∧ Untouched trace := by
  simp [Untouched]

@[simp] theorem untouched_append {before after : Trace Gateway} :
    Untouched (before ++ after) ↔ Untouched before ∧ Untouched after := by
  simp only [Untouched, List.forall_mem_append]

@[simp] theorem reads_nil : Reads [] := by
  simp [Reads]

@[simp] theorem reads_cons {answered : Answered Gateway} {trace : Trace Gateway} :
    Reads (answered :: trace) ↔ answered.call.isMutating = false ∧ Reads trace := by
  simp [Reads]

theorem Reads.untouched {trace : Trace Gateway} (reads : Reads trace) : Untouched trace := by
  intro answered member mutating
  rw [reads answered member] at mutating
  cases mutating

@[simp] theorem creations_nil (creation : Creation) : creations creation [] = 0 := rfl

@[simp] theorem creations_cons (creation : Creation) (answered : Answered Gateway) (trace : Trace Gateway) :
    creations creation (answered :: trace) =
      creations creation trace + if answered.call.creation? = some creation ∧ answered.succeeded = true then 1 else 0 := by
  simp [creations, List.countP_cons]

@[simp] theorem creations_append (creation : Creation) (before after : Trace Gateway) :
    creations creation (before ++ after) = creations creation before + creations creation after :=
  List.countP_append

/-- Where nothing was changed, nothing was created. -/
theorem Untouched.creations_eq_zero {trace : Trace Gateway} (untouched : Untouched trace) (creation : Creation) :
    creations creation trace = 0 := by
  rw [creations, List.countP_eq_zero]
  intro answered member created
  simp only [Bool.and_eq_true, beq_iff_eq] at created
  have failed := untouched answered member (Call.isMutating_of_creation? created.1)
  rw [created.2] at failed
  cases failed

theorem Reads.creations_eq_zero {trace : Trace Gateway} (reads : Reads trace) (creation : Creation) :
    creations creation trace = 0 :=
  reads.untouched.creations_eq_zero creation

/-! ## Conditions on calls -/

/-- Every call is made where it is allowed after the calls before it. -/
def Guarded (allowed : Trace Gateway → Call → Prop) (trace : Trace Gateway) : Prop :=
  ∀ before last, before ++ [last] <+: trace → allowed before last.call

section
variable {allowed : Trace Gateway → Call → Prop} {trace : Trace Gateway} {last : Answered Gateway}

theorem guarded_nil : Guarded allowed [] := by
  intro before last begins
  simp at begins

theorem guarded_concat : Guarded allowed (trace ++ [last]) ↔ Guarded allowed trace ∧ allowed trace last.call := by
  constructor
  · intro guarded
    refine ⟨?_, guarded trace last List.prefix_rfl⟩
    intro before last' begins
    exact guarded before last' (begins.trans (List.prefix_append _ _))
  · rintro ⟨guarded, allows⟩ before last' begins
    rcases List.prefix_concat_iff.mp begins with whole | part
    · obtain ⟨rfl, rfl⟩ := List.append_singleton_inj.mp whole
      exact allows
    · exact guarded before last' part

end

/-! ## Checks -/

/-- Two checks in a row pass if both do. -/
theorem bind_eq_ok {ε α β : Type} {x : Except ε α} {f : α → Except ε β} {result : β} :
    x >>= f = .ok result ↔ ∃ value, x = .ok value ∧ f value = .ok result := by
  cases x <;> simp [bind, Except.bind]

theorem required_eq_ok {field text : String} {value : Option String} :
    required field value = .ok text ↔ value = some text ∧ text ≠ "" := by
  cases value with
  | none => simp [required]
  | some found =>
    by_cases empty : found = ""
    · rw [required, if_pos empty]
      constructor
      · rintro ⟨⟩
      · rintro ⟨⟨⟩, nonempty⟩
        exact absurd empty nonempty
    · rw [required, if_neg empty]
      constructor
      · rintro ⟨⟩
        exact ⟨rfl, empty⟩
      · rintro ⟨⟨⟩, _⟩
        rfl

/-! ## Actions -/

attribute [simp] Action.control Action.control? Action.network Action.network? Program.ask
attribute [simp] Answered.succeeded Except.isOk Except.toBool
attribute [simp] Call.isMutating ControlCall.isMutating NetworkCall.isMutating Call.creation?

/-- An answer is an error or a result. -/
@[simp] theorem forall_answer {ε α : Type} {p : Except ε α → Prop} :
    (∀ answer, p answer) ↔ (∀ error, p (.error error)) ∧ ∀ result, p (.ok result) := by
  constructor
  · intro all
    exact ⟨fun error => all _, fun result => all _⟩
  · rintro ⟨failed, answered⟩ (error | result)
    · exact failed error
    · exact answered result

section
variable {α β : Type} {Q : Trace Gateway → Except ProvisionError α → Prop} {error : GatewayError}

@[simp] theorem Action.require_ok_bind (result : β) (f : β → Action α) : (require (.ok result) >>= f) = f result := rfl

@[simp] theorem Action.require_error_bind (error : GatewayError) (f : β → Action α) :
    (require (.error error) >>= f) = .fail (.gateway error) := rfl

@[simp] theorem Action.require_absentIfNotFound_ok_bind (result : β) (f : Option β → Action α) :
    (require (absentIfNotFound (.ok result)) >>= f) = f (some result) := rfl

/-- An action that takes it well when a resource does not exist. -/
@[simp] theorem Action.always_require_absentIfNotFound_error_bind {f : Option β → Action α} :
    (require (absentIfNotFound (.error error)) >>= f).Always Q ↔
      (error.isNotFound = true → (f none).Always Q) ∧
        (error.isNotFound = false → Q [] (.error (.gateway error))) := by
  by_cases absent : error.isNotFound = true <;> simp [absentIfNotFound, absent]

@[simp] theorem Observation.ofAnswer_ok_bind (remote : β) (f : Observation β → Action α) :
    (ofAnswer (.ok remote) >>= f) = f (found remote) := rfl

/-- An action that goes on without a resource that does not exist. -/
@[simp] theorem Observation.always_ofAnswer_error_bind {f : Observation β → Action α} :
    (ofAnswer (.error error) >>= f).Always Q ↔
      (error.isNotFound = true → (f absent).Always Q) ∧
        (error.isNotFound = false → Q [] (.error (.gateway error))) := by
  by_cases absent : error.isNotFound = true <;> simp [ofAnswer, absent]

end

/-! ## What a read shows -/

namespace Observation
variable {R : Type} {answer : Except GatewayError R} {trace : Trace Gateway}
  {seen : Except ProvisionError (Observation R)}

/-- What the answer to a read shows: a resource, that there is none, or nothing. -/
def shown : Except GatewayError R → Except ProvisionError (Observation R)
  | .ok remote => .ok (.found remote)
  | .error error => if error.isNotFound then .ok .absent else .error (.gateway error)

theorem ends_ofAnswer : (ofAnswer answer).Ends trace seen ↔ trace = [] ∧ seen = shown answer := by
  rcases answer with error | remote
  · by_cases missing : error.isNotFound = true <;> simp [ofAnswer, shown, missing]
  · exact Program.ends_done

@[simp] theorem shown_eq_found {remote : R} : shown answer = .ok (.found remote) ↔ answer = .ok remote := by
  rcases answer with error | found
  · by_cases missing : error.isNotFound = true <;> simp [shown, missing]
  · simp [shown]

@[simp] theorem shown_eq_absent :
    shown answer = .ok .absent ↔ ∃ error, answer = .error error ∧ error.isNotFound = true := by
  rcases answer with error | found
  · by_cases missing : error.isNotFound = true <;> simp [shown, missing]
  · simp [shown]

@[simp] theorem shown_eq_error {error : ProvisionError} : shown answer = .error error ↔
    ∃ cause, answer = .error cause ∧ cause.isNotFound = false ∧ error = .gateway cause := by
  rcases answer with cause | found
  · by_cases missing : cause.isNotFound = true
    · simp [shown, missing]
    · simpa [shown, missing] using eq_comm
  · simp [shown]

end Observation

end Provisioner
