import Provisioner.Proofs.Family

/-!
# Where the model does not matter

Every step is given a model anew. After most phases it only fills in the model that is returned at the end; what is
called, and where the operation goes on, is read from the context. Programs that differ in such models alone are equal
once these are left out (`Transition.bare`, `Outcome.bare`). A lifecycle that is indifferent to the model after a phase
(`Lifecycle.Indifferent`) can take a step from there with any other model as well, with the same calls and to the same
end (`Lifecycle.Takes.exists_of_indifferent`).
-/
namespace Provisioner

/-! ## Programs with their results changed -/

namespace Program
variable {ι : Interface} {ε δ α β γ : Type} (f : β → γ)

@[simp] theorem map_done (value : β) : f <$> (done value : Program ι ε β) = done (f value) := rfl

@[simp] theorem map_fail (error : ε) : f <$> (fail error : Program ι ε β) = fail error := rfl

@[simp] theorem map_note (event : Event) (rest : Program ι ε β) : f <$> note event rest = note event (f <$> rest) := rfl

@[simp] theorem map_call (c : ι.Call) (next : ι.Answer c → Program ι ε β) :
    f <$> call c next = call c fun answer => f <$> next answer := rfl

theorem map_bind (p : Program ι ε α) (g : α → Program ι ε β) : f <$> (p >>= g) = p >>= fun value => f <$> g value :=
  bind_bind p g _

theorem attempt_map (p : Program ι ε β) : ((f <$> p).attempt : Program ι δ _) = Except.map f <$> p.attempt := by
  induction p with
  | done | fail => rfl
  | note event rest ih => simp only [map_note, attempt_note, ih]
  | call c next ih => simp only [map_call, attempt_call, ih]

theorem ends_map {p : Program ι ε β} {trace : Trace ι} {result : Except ε γ} :
    (f <$> p).Ends trace result ↔ ∃ inner, p.Ends trace inner ∧ result = inner.map f := by
  induction p generalizing trace with
  | done value => simp [Except.map, and_assoc]
  | fail error => simp [Except.map, and_assoc]
  | note event rest ih => simp only [map_note, ends_note, ih]
  | call c next ih =>
    simp only [map_call, ends_call, ih]
    constructor
    · rintro ⟨answer, rest, rfl, inner, later, rfl⟩
      exact ⟨inner, ⟨answer, rest, rfl, later⟩, rfl⟩
    · rintro ⟨inner, ⟨answer, rest, rfl, later⟩, rfl⟩
      exact ⟨answer, rest, rfl, inner, later, rfl⟩

end Program

/-! ## Steps without their models -/

/-- What is decided after acting, without the model. -/
def Transition.bare {P I M : Type} : Transition P I M → Transition P I Unit
  | proceed phase ids message => .proceed phase ids message
  | complete model message => .complete (model.map fun _ => ()) message

/-- What a step comes to, without the model. -/
def Outcome.bare {M : Type} (outcome : Outcome M) : Outcome Unit :=
  outcome.map fun _ => ()

namespace Lifecycle
variable {M P I R : Type} [Tagged P] (lifecycle : Lifecycle M P I R) (settings : StepSettings)

/-- What follows a phase does not depend on the model, apart from the model that is returned. -/
def Indifferent (phase : P) : Prop :=
  ∀ ids model model' remote, Transition.bare <$> lifecycle.advance phase ids model remote =
    Transition.bare <$> lifecycle.advance phase ids model' remote

/-- How an operation goes on after a transition, both without their models. -/
def conclude (continuation : Continuation P I) : Transition P I Unit → Action (Outcome Unit)
  | .proceed phase ids message =>
    .note ⟨.info, message⟩ (Outcome.bare <$> lifecycle.waiting settings (continuation.advance phase ids) message)
  | .complete model message => .note ⟨.info, message⟩ (.done (.success model message))

/-- The outcome of a step that was tried, without the model. -/
def bareOutcome : Except ProvisionError (Outcome Unit) → Program Gateway Empty (Outcome Unit)
  | .ok outcome => .done outcome
  | .error error => .note ⟨.warn, s!"Step failed: {error.message}"⟩ (.done (.ofError error))

variable {lifecycle settings} {continuation : Continuation P I} {taken : Taken M}

theorem bare_proceed (model : M) (remote : Option R) :
    Outcome.bare <$> lifecycle.proceed settings continuation model remote =
      Transition.bare <$> lifecycle.advance continuation.phase continuation.ids model remote >>=
        lifecycle.conclude settings continuation := by
  rw [proceed, Program.map_bind]
  refine (bind_congr ?_).trans (Program.bind_bind _ _ _).symm
  rintro (⟨phase, ids, message⟩ | ⟨model, message⟩) <;> rfl

theorem bare_step (fresh : OperationId) (context : Fields) (model : M) (now : Instant) :
    Outcome.bare <$> lifecycle.step settings fresh context model now =
      (Outcome.bare <$> lifecycle.tryStep settings fresh context model now).attempt >>= bareOutcome := by
  rw [step, Program.map_bind, Program.attempt_map]
  refine (bind_congr ?_).trans (Program.bind_bind _ _ _).symm
  rintro (error | outcome) <;> rfl

namespace Indifferent
variable (indifferent : lifecycle.Indifferent continuation.phase) (model model' : M)
include indifferent

theorem proceed (remote : Option R) : Outcome.bare <$> lifecycle.proceed settings continuation model remote =
    Outcome.bare <$> lifecycle.proceed settings continuation model' remote := by
  rw [bare_proceed, bare_proceed, indifferent continuation.ids model model' remote]

theorem resume (now : Instant) : Outcome.bare <$> lifecycle.resume settings continuation model now =
    Outcome.bare <$> lifecycle.resume settings continuation model' now := by
  have proceeds (remote : Option R) : Outcome.bare <$> lifecycle.proceed settings continuation model remote =
      Outcome.bare <$> lifecycle.proceed settings continuation model' remote := indifferent.proceed model model' remote
  simp only [Lifecycle.resume, Program.map_bind]
  refine bind_congr fun _ => bind_congr fun seen => ?_
  rcases seen with remote | _
  · by_cases reached : lifecycle.isReached continuation.phase remote = true
    · simp only [reached, if_true, proceeds]
    · simp only [reached, if_false, Bool.false_eq_true]
  · by_cases awaited : lifecycle.awaitsAbsence continuation.phase = true
    · simp only [awaited, if_true, proceeds]
    · simp only [awaited, if_false, Bool.false_eq_true]

theorem step {context : Fields}
    (decoded : Context.decode lifecycle.target lifecycle.ids context = .ok (some continuation)) (fresh : OperationId)
    (now : Instant) : Outcome.bare <$> lifecycle.step settings fresh context model now =
      Outcome.bare <$> lifecycle.step settings fresh context model' now := by
  simp only [bare_step, tryStep, decoded, indifferent.resume model model' now]

end Indifferent

/-- A step from a phase after which the model does not matter can be taken with any other: with the same calls, and to
the same end but for the model that is returned. -/
theorem Takes.exists_of_indifferent (takes : lifecycle.Takes settings taken)
    (decoded : Context.decode lifecycle.target lifecycle.ids taken.context = .ok (some continuation))
    (indifferent : lifecycle.Indifferent continuation.phase) (model : M) :
    ∃ outcome, lifecycle.Takes settings { taken with model, outcome } ∧ outcome.bare = taken.outcome.bare := by
  have ends := (Program.ends_map Outcome.bare).mpr ⟨_, takes, rfl⟩
  rw [indifferent.step taken.model model decoded] at ends
  obtain ⟨inner, other, same⟩ := (Program.ends_map Outcome.bare).mp ends
  rcases inner with error | outcome
  · exact error.elim
  · exact ⟨outcome, other, (Except.ok.inj same).symm⟩

end Lifecycle

/-! ## The families -/

namespace Family

/-- The phases after which the model says what is done next. -/
def HeedsModel : (family : Family) → family.Phase → Prop
  | .cluster, phase => phase = .creating ∨ phase = .updating ∨ phase = .configuring
  | .streamProcessor, phase => phase = .stopping
  | .privateEndpoint, phase => phase = .serviceProvisioning
  | .exportJob, _ => False

theorem bare_connected (ids : PrivateEndpointIds) (model model' : PrivateEndpointModel) (interface : InterfaceEndpoint) :
    Transition.bare <$> PrivateEndpointLifecycle.connected ids model interface =
      Transition.bare <$> PrivateEndpointLifecycle.connected ids model' interface := by
  simp only [PrivateEndpointLifecycle.connected, Program.map_bind]
  exact bind_congr fun _ => bind_congr fun _ => rfl

/-- After the other phases all families are indifferent to the model. -/
theorem indifferent (settings : Settings) (operation : Operation) (family : Family) {phase : family.Phase}
    (unheeded : ¬ family.HeedsModel phase) : (family.lifecycle settings operation).Indifferent phase := by
  intro ids model model' remote
  cases family with
  | cluster =>
    cases phase with
    | creating | updating | configuring => simp [HeedsModel] at unheeded
    | pausing =>
      rcases remote with _ | remote
      · rfl
      · by_cases shows : some remote.isPaused ≠ ids.targetPaused
        · simp [lifecycle, clusterLifecycle, ClusterLifecycle.advance, shows]
        · simp [lifecycle, clusterLifecycle, ClusterLifecycle.advance, shows, ClusterLifecycle.afterIdle,
            ClusterLifecycle.pendingArgs?, ClusterLifecycle.pendingPause?, Transition.bare]
    | deleting => rfl
  | streamProcessor =>
    rcases remote with _ | remote
    · rfl
    · by_cases due : StreamProcessorLifecycle.mustStart phase ids remote = true
      · simp [lifecycle, streamProcessorLifecycle, StreamProcessorLifecycle.advance, due]
      · cases phase with
        | stopping => exact absurd rfl unheeded
        | creating | updating | starting | deleting =>
          simp [lifecycle, streamProcessorLifecycle, StreamProcessorLifecycle.advance, due, Transition.bare]
  | privateEndpoint =>
    cases phase with
    | serviceProvisioning => exact absurd rfl unheeded
    | attachingInterface =>
      rcases remote with _ | (_ | _ | interface | _)
      case some.interface => exact bare_connected ids model model' interface
      all_goals rfl
    | creatingNetworkEndpoint | detachingInterfaces => rcases remote with _ | (_ | _ | _ | _) <;> rfl
    | removingNetworkEndpoints | deletingService => rfl
  | exportJob => cases phase <;> cases remote <;> rfl

end Family
end Provisioner
