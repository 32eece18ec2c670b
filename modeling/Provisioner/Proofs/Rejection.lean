import Provisioner.Proofs.Family

/-!
# Checks

Before anything is done, the model is checked, and whether its resource can get there. All that can come of this is
that the input is rejected (`Rejects`): for every family it is not the context, the other side or time that such a check
fails for (`Family.rejects_validate`, `Family.rejects_validateTransition`).
-/
namespace Provisioner

/-- The check fails only by rejecting the input. -/
def Rejects {α : Type} (check : Except ProvisionError α) : Prop :=
  ∀ error, check = .error error → ∃ cause, error = .validation cause

section
variable {α β : Type} {check : Except ProvisionError α}

@[simp] theorem rejects_ok (value : α) : Rejects (.ok value) := by
  simp [Rejects]

@[simp] theorem rejects_validation (cause : Rejection) : Rejects (.error (.validation cause) : Except _ α) := by
  simp [Rejects]

theorem Rejects.bind {f : α → Except ProvisionError β} (first : Rejects check) (later : ∀ value, Rejects (f value)) :
    Rejects (check >>= f) := by
  rcases check with error | value
  · rintro _ ⟨⟩
    exact first error rfl
  · exact later value

end

@[simp] theorem rejects_required (field : String) (value : Option String) : Rejects (required field value) := by
  cases value with
  | none => simp [required]
  | some text => by_cases empty : text = "" <;> simp [required, empty]

/-! ## Clusters -/

@[simp] theorem ClusterIds.rejects_ofModel (model : ClusterModel) : Rejects (ofModel model) :=
  (rejects_required _ _).bind fun _ => (rejects_required _ _).bind fun _ => rejects_ok _

theorem ClusterLifecycle.rejects_validate (reserved : Label) (operation : Operation) (model : ClusterModel) :
    Rejects (validate reserved operation model) := by
  refine (ClusterIds.rejects_ofModel model).bind ?_
  intro _
  -- every way through the checks ends in one of the two
  repeat' split
  all_goals first | exact rejects_ok _ | exact rejects_validation _

/-! ## Stream processors -/

@[simp] theorem StreamProcessorIds.rejects_ofModel (model : StreamProcessorModel) : Rejects (ofModel model) := by
  rw [ofModel]
  split
  · simp
  · exact (rejects_required _ _).bind fun _ => (rejects_required _ _).bind fun _ => rejects_ok _

namespace StreamProcessorLifecycle

@[simp] theorem rejects_plannedState (model : StreamProcessorModel) : Rejects (plannedState model) := by
  unfold plannedState
  split
  · simp
  · split
    · simp
    · split <;> simp

@[simp] theorem rejects_request (model : StreamProcessorModel) : Rejects (request model) := by
  refine (rejects_required _ _).bind ?_
  intro text
  split
  · simp
  · exact (rejects_required _ _).bind fun _ => rejects_ok _

theorem rejects_checkTransition (current : String) (planned : StreamProcessorState) :
    Rejects (checkTransition current planned) := by
  unfold checkTransition
  split
  · simp
  · cases planned with
    | stopped => dsimp only; split <;> simp
    | _ => simp

theorem rejects_validate (operation : Operation) (model : StreamProcessorModel) : Rejects (validate operation model) := by
  refine (StreamProcessorIds.rejects_ofModel model).bind ?_
  intro _
  cases operation with
  | delete => exact rejects_ok _
  | create =>
    refine (rejects_plannedState model).bind ?_
    intro planned
    cases planned with
    | created | started => exact (rejects_request model).bind fun _ => rejects_ok _
    | _ => exact rejects_validation _
  | update =>
    refine (rejects_plannedState model).bind ?_
    intro planned
    cases planned with
    | created | started | stopped => exact (rejects_request model).bind fun _ => rejects_ok _
    | _ => exact rejects_validation _

theorem rejects_validateTransition (budget : String) (operation : Operation) (current : Option RemoteStreamProcessor)
    (model : StreamProcessorModel) :
    Rejects ((streamProcessorLifecycle budget operation).validateTransition current model) := by
  cases operation with
  | create | delete => cases current <;> exact rejects_ok ()
  | update =>
    cases current with
    | none => exact rejects_ok ()
    | some => exact (rejects_plannedState model).bind fun planned => rejects_checkTransition _ planned

end StreamProcessorLifecycle

/-! ## Private endpoints -/

@[simp] theorem PrivateEndpointIds.rejects_ofModel (model : PrivateEndpointModel) : Rejects (ofModel model) :=
  (rejects_required _ _).bind fun _ => (rejects_required _ _).bind fun _ => rejects_ok _

theorem PrivateEndpointLifecycle.rejects_validate (operation : Operation) (model : PrivateEndpointModel) :
    Rejects (validate operation model) := by
  refine (PrivateEndpointIds.rejects_ofModel model).bind ?_
  intro _
  cases operation with
  | create =>
    refine (rejects_required _ _).bind ?_
    intro _
    split
    · exact rejects_validation _
    · exact rejects_ok _
  | update => exact rejects_validation _
  | delete => exact (rejects_required _ _).bind fun _ => rejects_ok _

/-! ## Export jobs -/

@[simp] theorem ExportJobLifecycle.rejects_idsOfModel (model : ExportJobModel) : Rejects (idsOfModel model) :=
  (rejects_required _ _).bind fun _ => (rejects_required _ _).bind fun _ => (rejects_required _ _).bind fun _ =>
    rejects_ok _

theorem ExportJobLifecycle.rejects_validate (operation : Operation) (model : ExportJobModel) :
    Rejects (validate operation model) := by
  refine (rejects_required _ _).bind fun _ => (rejects_required _ _).bind ?_
  intro _
  cases operation with
  | create => exact (rejects_required _ _).bind fun _ => (rejects_required _ _).bind fun _ => rejects_ok _
  | update => exact rejects_validation _
  | delete => exact (rejects_required _ _).bind fun _ => rejects_ok _

/-! ## All families -/

namespace Family
variable (settings : Settings) (operation : Operation)

/-- A model that makes no sense is rejected. -/
theorem rejects_validate (family : Family) (model : family.Model) :
    Rejects ((family.lifecycle settings operation).validate model) := by
  cases family with
  | cluster => exact ClusterLifecycle.rejects_validate _ _ _
  | streamProcessor => exact StreamProcessorLifecycle.rejects_validate _ _
  | privateEndpoint => exact PrivateEndpointLifecycle.rejects_validate _ _
  | exportJob => exact ExportJobLifecycle.rejects_validate _ _

/-- A model that its resource cannot get to is rejected. -/
theorem rejects_validateTransition (family : Family) (current : Option family.Remote) (model : family.Model) :
    Rejects ((family.lifecycle settings operation).validateTransition current model) := by
  cases family with
  | cluster | privateEndpoint | exportJob => exact rejects_ok ()
  | streamProcessor => exact StreamProcessorLifecycle.rejects_validateTransition _ _ _ _

end Family
end Provisioner
