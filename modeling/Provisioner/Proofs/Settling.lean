import Provisioner.Proofs.Account
import Provisioner.Proofs.Family
import Provisioner.Proofs.Pattern

/-!
# Settling clusters

A cluster that is created or changed is looked at until it is idle, and then it may get process settings, and be paused
or resumed, with looks after each (`settling`). Each of these is done at most once and only where it is asked for and
the cluster was just found to be idle (`Allows`), since what is done in a phase is known there (`Awaits`). From this
follows what a cluster looks like that is ready (`Family.cluster_settled_in_order`).
-/
namespace Provisioner
open Pattern

namespace ClusterLifecycle

/-- The calls with which a creation or a change begins. -/
def opening : Operation → Language String
  | .create => once "create_cluster"
  | .update => once "get_cluster" * once "update_cluster"
  | .delete => 0

/-- The calls that create or change a cluster, in order. -/
def settling (operation : Operation) : Language String :=
  opening operation * many "get_cluster" * maybe (once "update_process_args" * many "get_cluster") *
    maybe (once "pause_cluster" * many "get_cluster")

/-- The calls up to a phase. -/
def settlingUpTo (operation : Operation) : ClusterPhase → Language String
  | .creating | .updating => opening operation * many "get_cluster"
  | .configuring => opening operation * many "get_cluster" * once "update_process_args" * many "get_cluster"
  | .pausing =>
    opening operation * many "get_cluster" * maybe (once "update_process_args" * many "get_cluster") *
      once "pause_cluster" * many "get_cluster"
  | .deleting => 0

/-- The last call found the cluster idle. -/
def FoundIdle (trace : Trace Gateway) (remote : RemoteCluster) : Prop :=
  ∃ earlier project name, trace = earlier ++ [⟨.control (.getCluster project name), .ok remote⟩] ∧
    remote.stateName = idle

/-- Process settings were applied, if there are any. -/
def Applied (model : ClusterModel) (trace : Trace Gateway) : Prop :=
  ∀ args, model.advancedSettings = some args →
    ∃ project name result, ⟨.control (.updateProcessArgs project name args), .ok result⟩ ∈ trace

/-- When the calls that change a cluster are made, and for what. A change itself comes right after the first look. The
process settings are applied and the cluster is paused or resumed at most once, in this order, and right after it was
found to be idle. -/
def Allows (operation : Operation) (model : ClusterModel) (before : Trace Gateway) : Call → Prop
  | .control (.updateProcessArgs _ _ args) =>
    model.advancedSettings = some args ∧ "update_process_args" ∉ callKinds before ∧ ∃ remote, FoundIdle before remote
  | .control (.updateCluster _ _ request) =>
    match request.paused with
    | none =>
      operation = .update ∧ request = model.toRequest ∧
        ∃ project name remote, before = [⟨.control (.getCluster project name), .ok remote⟩]
    | some paused =>
      request = { paused := some paused } ∧ model.paused = some paused ∧ "pause_cluster" ∉ callKinds before ∧
        Applied model before ∧ ∃ remote, FoundIdle before remote ∧ remote.paused.getD false ≠ paused
  | _ => True

/-- What was done and is remembered in a phase. -/
structure Awaits (operation : Operation) (model : ClusterModel) (past : Trace Gateway) (phase : ClusterPhase)
    (ids : ClusterIds) : Prop where
  makes : Makes (settlingUpTo operation phase) past
  unconfigured : phase = .creating ∨ phase = .updating → "update_process_args" ∉ callKinds past
  configured : phase = .configuring ∨ phase = .pausing → Applied model past
  unpaused : phase ≠ .pausing → "pause_cluster" ∉ callKinds past
  target : phase = .pausing → ids.targetPaused = model.paused

/-- A cluster is ready: it was just found to be idle, process settings were applied before if there are any, and the
model tells what was found, with the cluster paused or not as was asked for. -/
def Settled (model : ClusterModel) (trace : Trace Gateway) (result : Option ClusterModel) : Prop :=
  ∃ earlier project name remote settled, trace = earlier ++ [⟨.control (.getCluster project name), .ok remote⟩] ∧
    remote.stateName = "IDLE" ∧ Applied model earlier ∧ result = some settled ∧ settled.stateName = some "IDLE" ∧
    settled.id = remote.id ∧ settled.createdDate = remote.createdDate ∧ settled.version = remote.version ∧
    settled.connectionStrings = remote.connectionStrings ∧
    (∀ paused, model.paused = some paused → settled.paused = some paused) ∧
    (model.paused = none → settled.paused = remote.paused)

/-- What is told of creating or changing a cluster. -/
def settlement (operation : Operation) (model : ClusterModel) : Account ClusterModel ClusterPhase ClusterIds where
  calls trace := Follows (settling operation) trace ∧ Guarded (Allows operation model) trace
  waits := Awaits operation model
  succeeds := Settled model

variable {reserved : Label} {operation : Operation} {model : ClusterModel} {past : Trace Gateway} {phase : ClusterPhase}
  {ids : ClusterIds}

theorem allows_of_reads (before : Trace Gateway) (c : Call) (reads : c.isMutating = false) :
    Allows operation model before c := by
  unfold Allows
  split
  · cases reads
  · cases reads
  · trivial

theorem possible_opening (changes : operation ≠ .delete) : Possible (opening operation) := by
  cases operation with
  | create => exact inferInstanceAs (Possible (once _))
  | update => exact inferInstanceAs (Possible (once _ * once _))
  | delete => exact absurd rfl changes

theorem follows_nil_settling (changes : operation ≠ .delete) : Follows (settling operation) [] := by
  have := possible_opening changes
  unfold settling
  exact follows_nil

/-- Before a cluster is paused, its process settings may have been applied. -/
theorem makes_unpaused (other : phase ≠ .pausing) (makes : Makes (settlingUpTo operation phase) past) :
    Makes (opening operation * many "get_cluster" * maybe (once "update_process_args" * many "get_cluster")) past := by
  cases phase with
  | creating | updating => exact makes.skip
  | configuring =>
    rw [settlingUpTo, mul_assoc (opening operation * many _)] at makes
    exact makes.take
  | pausing => exact absurd rfl other
  | deleting => exact makes.elim

theorem follows_of_upTo (makes : Makes (settlingUpTo operation phase) past) : Follows (settling operation) past := by
  by_cases pausing : phase = .pausing
  · rw [pausing, settlingUpTo, mul_assoc (_ * maybe _)] at makes
    exact makes.take.follows
  · exact (makes_unpaused pausing makes).follows.mul

theorem Applied.append {before : Trace Gateway} (applied : Applied model before) (after : Trace Gateway) :
    Applied model (before ++ after) := by
  intro args asked
  obtain ⟨project, name, result, member⟩ := applied args asked
  exact ⟨project, name, result, List.mem_append_left after member⟩

theorem Applied.of_concat {before : Trace Gateway} {answered : Answered Gateway}
    (applied : Applied model (before ++ [answered])) (other : answered.call.kind ≠ "update_process_args") :
    Applied model before := by
  intro args asked
  obtain ⟨project, name, result, member⟩ := applied args asked
  rcases List.mem_append.mp member with earlier | last
  · exact ⟨project, name, result, earlier⟩
  · exact absurd (List.mem_singleton.mp last ▸ rfl) other

/-! ## The actions -/

theorem polls_look (ids : ClusterIds) : (look ids).Always fun trace _ => Polls "get_cluster" trace := by
  simp [look, Polls, Observation.ofAnswer]

theorem always_look (ids : ClusterIds) : (look ids).Always fun trace result => ∀ remote, result = .ok (.found remote) →
    trace = [⟨.control (.getCluster ids.projectId ids.clusterName), .ok remote⟩] := by
  simp [look, Observation.ofAnswer]

theorem polls_inspect (reserved : Label) (operation : Operation) (model : ClusterModel) :
    ((clusterLifecycle reserved operation).inspect model).Always fun trace _ => Polls "get_cluster" trace := by
  simp [clusterLifecycle, look, Polls]

theorem always_inspect_update (reserved : Label) (model : ClusterModel) :
    ((clusterLifecycle reserved .update).inspect model).Always fun trace result => ∀ seen, result = .ok seen →
      seen ≠ some .absent → ∃ project name remote, trace = [⟨.control (.getCluster project name), .ok remote⟩] := by
  simp [clusterLifecycle, look]

section
variable {remote : RemoteCluster} {after : Trace Gateway}
  {result : Except ProvisionError (Transition ClusterPhase ClusterIds ClusterModel)}

theorem ends_start_create (ends : (start reserved .create model).Ends after result) : FailsSilently after result ∨
    ∃ ids, CallsOnce (.control (.createCluster ids.projectId (creation reserved model)))
      (fun _ => .proceed .creating ids "Cluster creation requested") after result := by
  rcases failsSilently_or_lift ends with fails | ⟨ids, known, later⟩
  · exact .inl fails
  · exact .inr ⟨ids, callsOnce_ask (Program.ends_note.mp later)⟩

theorem ends_start_update (ends : (start reserved .update model).Ends after result) : FailsSilently after result ∨
    ∃ ids, CallsOnce (.control (.updateCluster ids.projectId ids.clusterName model.toRequest))
      (fun _ => .proceed .updating ids "Cluster update requested") after result := by
  rcases failsSilently_or_lift ends with fails | ⟨ids, known, later⟩
  · exact .inl fails
  · exact .inr ⟨ids, callsOnce_ask (Program.ends_note.mp later)⟩

/-- An idle cluster that does not show yet that it is paused or resumed is waited for; otherwise what is left is done. -/
theorem ends_advance (alive : phase ≠ .deleting)
    (ends : (advance reserved phase ids model (some remote)).Ends after result) :
    (phase = .pausing ∧ after = [] ∧ ∃ message, result = .ok (.proceed .pausing ids message)) ∨
      ((phase = .pausing → some remote.isPaused = ids.targetPaused) ∧
        (afterIdle reserved phase ids model remote).Ends after result) := by
  have ends : (if phase = .pausing ∧ some remote.isPaused ≠ ids.targetPaused then
      .done (.proceed phase ids
        s!"Waiting for paused to become {Text.outlineOption Text.outlineBool ids.targetPaused}")
      else afterIdle reserved phase ids model remote : Action _).Ends after result := by
    cases phase with
    | creating | updating | configuring | pausing => exact ends
    | deleting => exact absurd rfl alive
  split at ends
  · next unpaused =>
    obtain ⟨rfl, -⟩ := unpaused
    obtain ⟨rfl, rfl⟩ := Program.ends_done.mp ends
    exact .inl ⟨rfl, rfl, _, rfl⟩
  · next reached =>
    refine .inr ⟨?_, ends⟩
    intro pausing
    by_contra differs
    exact reached ⟨pausing, differs⟩

/-- Once a cluster is idle, its process settings are applied, or it is paused or resumed, or it is ready. -/
theorem ends_afterIdle (ends : (afterIdle reserved phase ids model remote).Ends after result) :
    (∃ args message, pendingArgs? phase model = some args ∧
      CallsOnce (.control (.updateProcessArgs ids.projectId ids.clusterName args))
        (fun _ => .proceed .configuring ids message) after result) ∨
    (∃ paused message, pendingArgs? phase model = none ∧ pendingPause? phase model remote = some paused ∧
      CallsOnce (.control (.updateCluster ids.projectId ids.clusterName { paused := some paused }))
        (fun _ => .proceed .pausing { ids with targetPaused := some paused } message) after result) ∨
    (pendingArgs? phase model = none ∧ pendingPause? phase model remote = none ∧ after = [] ∧
      ∃ message, result = .ok (.complete (some (model.merge reserved remote)) message)) := by
  unfold afterIdle at ends
  split at ends
  · next args pending => exact .inl ⟨args, _, pending, callsOnce_ask (Program.ends_note.mp ends)⟩
  · next paused configured pending =>
    exact .inr (.inl ⟨paused, _, configured, pending, callsOnce_ask (Program.ends_note.mp ends)⟩)
  · next configured settled =>
    obtain ⟨rfl, rfl⟩ := Program.ends_done.mp ends
    exact .inr (.inr ⟨configured, settled, rfl, _, rfl⟩)

end

/-! ## A change in order -/

/-- Process settings are pending only after the first call, and only where there are any. -/
theorem of_pendingArgs {args : ProcessArgs} (pending : pendingArgs? phase model = some args) :
    (phase = .creating ∨ phase = .updating) ∧ model.advancedSettings = some args := by
  cases phase with
  | creating => exact ⟨.inl rfl, pending⟩
  | updating => exact ⟨.inr rfl, pending⟩
  | configuring | pausing | deleting => cases pending

/-- A cluster is paused or resumed only once, and only where that is asked for and not so yet. -/
theorem of_pendingPause {remote : RemoteCluster} {paused : Bool}
    (pending : pendingPause? phase model remote = some paused) :
    phase ≠ .pausing ∧ model.paused = some paused ∧ remote.isPaused ≠ paused := by
  unfold pendingPause? at pending
  split at pending
  · cases pending
  · next other =>
    obtain ⟨asked, differs⟩ := Option.filter_eq_some_iff.mp pending
    exact ⟨other, asked, (of_decide_eq_true differs).symm⟩

/-- Nothing is pending where a cluster is as it is asked for. -/
theorem eq_isPaused_of_pendingPause {remote : RemoteCluster} {paused : Bool} (other : phase ≠ .pausing)
    (settled : pendingPause? phase model remote = none) (asked : model.paused = some paused) :
    remote.isPaused = paused := by
  simp only [pendingPause?, other, asked, if_false, Option.filter_some] at settled
  by_contra differs
  rw [if_pos (decide_eq_true (Ne.symm differs))] at settled
  cases settled

/-- What is known of pausing is taken over, and otherwise what was asked for is kept. -/
theorem paused_merge {remote : RemoteCluster}
    (settled : ∀ paused, model.paused = some paused → remote.isPaused = paused) :
    (∀ paused, model.paused = some paused → (model.merge reserved remote).paused = some paused) ∧
      (model.paused = none → (model.merge reserved remote).paused = remote.paused) := by
  refine ⟨?_, ?_⟩
  · intro paused asked
    have same : remote.paused.getD false = paused := settled paused asked
    cases shown : remote.paused with
    | none => simp [ClusterModel.merge, shown, asked]
    | some => simpa [ClusterModel.merge, shown] using same
  · intro unasked
    cases shown : remote.paused <;> simp [ClusterModel.merge, shown, unasked]

/-- Where no process settings are pending, they were applied, if there are any. -/
theorem Awaits.applied (waits : Awaits operation model past phase ids) (none : pendingArgs? phase model = none) :
    Applied model past := by
  cases phase with
  | creating | updating =>
    have unasked : model.advancedSettings = .none := none
    intro args asked
    rw [unasked] at asked
    cases asked
  | configuring => exact waits.configured (.inl rfl)
  | pausing => exact waits.configured (.inr rfl)
  | deleting => exact waits.makes.elim

/-- Looking does nothing. -/
theorem Awaits.poll {look : Trace Gateway} (waits : Awaits operation model past phase ids)
    (polls : Polls "get_cluster" look) : Awaits operation model (past ++ look) phase ids where
  makes := by
    have makes := waits.makes
    cases phase with
    | creating | updating | configuring | pausing => exact makes.poll polls
    | deleting => exact makes.elim
  unconfigured early := notMem_callKinds_poll (waits.unconfigured early) polls (by decide)
  configured later := (waits.configured later).append look
  unpaused other := notMem_callKinds_poll (waits.unpaused other) polls (by decide)
  target := waits.target

section
variable {earlier after : Trace Gateway} {result : Except ProvisionError (Transition ClusterPhase ClusterIds ClusterModel)}
  {project name : String} {remote : RemoteCluster}

theorem calls_inspect {look : Trace Gateway} {seen : Except ProvisionError (Option (Observation RemoteCluster))}
    (changes : operation ≠ .delete) (inspected : ((clusterLifecycle reserved operation).inspect model).Ends look seen) :
    (settlement operation model).calls look := by
  have polls : Polls "get_cluster" look := polls_inspect reserved operation model _ _ inspected
  refine ⟨?_, guarded_nil.poll polls allows_of_reads⟩
  cases operation with
  | create =>
    obtain ⟨rfl, -⟩ := Program.ends_done.mp inspected
    exact follows_nil_settling changes
  | update =>
    rcases polls with rfl | ⟨answered, rfl, same, _⟩
    · exact follows_nil_settling changes
    · exact (makes_once same).follows.mul.mul.mul.mul
  | delete => exact absurd rfl changes

theorem acts_create (calls : (settlement .create model).calls []) (ends : (start reserved .create model).Ends after result) :
    (settlement .create model).Acts [] after result := by
  rcases ends_start_create ends with fails | ⟨ids, called⟩
  · exact Account.acts_of_failsSilently calls fails
  · have makes (answer : Except GatewayError RemoteCluster) : Makes (settlingUpTo .create .creating)
        [⟨.control (.createCluster ids.projectId (creation reserved model)), answer⟩] := Makes.wait (makes_once rfl)
    refine Account.acts_of_callsOnce called ?_ ?_
    · intro answer
      exact ⟨follows_of_upTo (makes answer), guarded_concat.mpr ⟨guarded_nil, trivial⟩⟩
    · intro created _
      exact ⟨makes _, by simp, nofun, by simp, nofun⟩

theorem acts_update {look : Trace Gateway} (seen : look = [⟨.control (.getCluster project name), .ok remote⟩])
    (calls : (settlement .update model).calls look) (ends : (start reserved .update model).Ends after result) :
    (settlement .update model).Acts look after result := by
  rcases ends_start_update ends with fails | ⟨ids, called⟩
  · exact Account.acts_of_failsSilently calls fails
  · have makes (answer : Except GatewayError RemoteCluster) : Makes (settlingUpTo .update .updating)
        (look ++ [⟨.control (.updateCluster ids.projectId ids.clusterName model.toRequest), answer⟩]) := by
      have looked : Makes (once "get_cluster") look := by
        rw [seen]
        exact makes_once rfl
      exact looked.enter rfl
    refine Account.acts_of_callsOnce called ?_ ?_
    · intro answer
      exact ⟨follows_of_upTo (makes answer), guarded_concat.mpr ⟨calls.2, rfl, rfl, project, name, remote, seen⟩⟩
    · intro updated _
      exact ⟨makes _, by simp [seen, ClusterModel.toRequest], nofun, by simp [seen, ClusterModel.toRequest], nofun⟩

/-- Once a cluster is idle, its process settings are applied. -/
theorem acts_configure {args : ProcessArgs} {message : String} (found : FoundIdle past remote)
    (pending : pendingArgs? phase model = some args) (calls : (settlement operation model).calls past)
    (waits : Awaits operation model past phase ids)
    (called : CallsOnce (.control (.updateProcessArgs ids.projectId ids.clusterName args))
      (fun _ => .proceed .configuring ids message) after result) : (settlement operation model).Acts past after result := by
  obtain ⟨early, asked⟩ := of_pendingArgs pending
  have other : phase ≠ .pausing := by
    rintro rfl
    simp at early
  have makes (answer : Except GatewayError ProcessArgs) : Makes (settlingUpTo operation .configuring)
      (past ++ [⟨.control (.updateProcessArgs ids.projectId ids.clusterName args), answer⟩]) := by
    have first : Makes (opening operation * many "get_cluster") past := by
      rcases early with rfl | rfl <;> exact waits.makes
    exact first.enter rfl
  refine Account.acts_of_callsOnce called ?_ ?_
  · intro answer
    refine ⟨follows_of_upTo (makes answer), guarded_concat.mpr ⟨calls.2, ?_⟩⟩
    exact ⟨asked, waits.unconfigured early, remote, found⟩
  · intro applied _
    refine ⟨makes _, by simp, ?_, by simpa using waits.unpaused other, nofun⟩
    intro _ args' asked'
    obtain rfl : args = args' := Option.some.inj (asked.symm.trans asked')
    exact ⟨_, _, applied, List.mem_append_right past List.mem_cons_self⟩

/-- Then it is paused or resumed. -/
theorem acts_pause {paused : Bool} {message : String} (found : FoundIdle past remote)
    (none : pendingArgs? phase model = none) (pending : pendingPause? phase model remote = some paused)
    (calls : (settlement operation model).calls past) (waits : Awaits operation model past phase ids)
    (called : CallsOnce (.control (.updateCluster ids.projectId ids.clusterName { paused := some paused }))
      (fun _ => .proceed .pausing { ids with targetPaused := some paused } message) after result) :
    (settlement operation model).Acts past after result := by
  obtain ⟨other, asked, differs⟩ := of_pendingPause pending
  have makes (answer : Except GatewayError RemoteCluster) : Makes (settlingUpTo operation .pausing)
      (past ++ [⟨.control (.updateCluster ids.projectId ids.clusterName { paused := some paused }), answer⟩]) :=
    (makes_unpaused other waits.makes).enter rfl
  refine Account.acts_of_callsOnce called ?_ ?_
  · intro answer
    refine ⟨follows_of_upTo (makes answer), guarded_concat.mpr ⟨calls.2, ?_⟩⟩
    exact ⟨rfl, asked, waits.unpaused other, waits.applied none, remote, found, differs⟩
  · intro updated _
    exact ⟨makes _, by simp, fun _ => (waits.applied none).append _, fun other => absurd rfl other, fun _ => asked.symm⟩

/-- Then it is ready. -/
theorem settled_of_idle (found : FoundIdle past remote) (none : pendingArgs? phase model = none)
    (settled : pendingPause? phase model remote = .none)
    (reached : phase = .pausing → some remote.isPaused = ids.targetPaused)
    (waits : Awaits operation model past phase ids) : Settled model past (some (model.merge reserved remote)) := by
  obtain ⟨earlier, project, name, seen, ready⟩ := found
  have applied := waits.applied none
  rw [seen] at applied
  refine ⟨earlier, project, name, remote, _, seen, ready, applied.of_concat (by simp), rfl, congrArg some ready, rfl, rfl, rfl,
    rfl, paused_merge ?_⟩
  intro paused asked
  by_cases pausing : phase = .pausing
  · have same : some remote.isPaused = model.paused := (reached pausing).trans (waits.target pausing)
    exact Option.some.inj (same.trans asked)
  · exact eq_isPaused_of_pendingPause pausing settled asked

theorem acts_advance (found : FoundIdle past remote) (alive : phase ≠ .deleting)
    (calls : (settlement operation model).calls past) (waits : Awaits operation model past phase ids)
    (ends : (advance reserved phase ids model (some remote)).Ends after result) :
    (settlement operation model).Acts past after result := by
  rcases ends_advance alive ends with ⟨rfl, rfl, message, rfl⟩ | ⟨reached, ends⟩
  · rw [Account.Acts, List.append_nil]
    exact ⟨calls, waits⟩
  rcases ends_afterIdle ends with ⟨args, message, pending, called⟩ | ⟨paused, message, none, pending, called⟩ |
    ⟨none, settled, rfl, message, rfl⟩
  · exact acts_configure found pending calls waits called
  · exact acts_pause found none pending calls waits called
  · rw [Account.Acts, List.append_nil]
    exact ⟨calls, settled_of_idle found none settled reached waits⟩

end

theorem upholds_settlement (reserved : Label) (changes : operation ≠ .delete) (model : ClusterModel) :
    (clusterLifecycle reserved operation).Upholds id (fun _ => True) model (settlement operation model) where
  unopened := ⟨follows_nil_settling changes, guarded_nil⟩
  reread waits := waits
  inspect valid := by
    intro look seen inspected _
    exact ⟨calls_inspect changes inspected, fun _ deletes => absurd deletes changes⟩
  start := by
    intro look seen valid inspected present allowed after result ends _
    have calls := calls_inspect changes inspected
    cases operation with
    | create =>
      obtain ⟨rfl, ⟨⟩⟩ := Program.ends_done.mp inspected
      exact acts_create calls ends
    | update =>
      obtain ⟨project, name, remote, looked⟩ := always_inspect_update reserved model _ _ inspected seen rfl present
      have ends : (ClusterLifecycle.start reserved .update model).Ends after result := ends
      exact acts_update looked calls ends
    | delete => exact absurd rfl changes
  observe := by
    intro past phase ids calls waits look result ends
    have polls : Polls "get_cluster" look := polls_look ids _ _ ends
    have waits : Awaits operation model (past ++ look) phase ids := Awaits.poll waits polls
    exact ⟨⟨follows_of_upTo waits.makes, calls.2.poll polls allows_of_reads⟩, waits⟩
  advance := by
    intro past look phase ids seen valid calls waits observed due after result ends _
    have alive : phase ≠ .deleting := by
      rintro rfl
      exact waits.makes.elim
    rcases seen with remote | _
    · have looked := always_look ids _ _ observed remote rfl
      have ready : remote.stateName = idle := by
        cases phase with
        | creating | updating | configuring | pausing => exact of_decide_eq_true due
        | deleting => exact absurd rfl alive
      exact acts_advance ⟨past, ids.projectId, ids.clusterName, congrArg (past ++ ·) looked, ready⟩ alive calls waits ends
    · exact absurd (of_decide_eq_true due) alive
  cleanup timed _ _ := by cases timed

end ClusterLifecycle

open ClusterLifecycle in
/-- The calls that create or change a cluster are the first ones of a fixed order. Process settings are applied at most
once and only where there are any; then the cluster is paused or resumed at most once and only where it is not as asked
for; both right after it was found to be idle. Whoever succeeds has just found it to be idle, with all of that done
before, and tells what was found. -/
theorem Family.cluster_settled_in_order (settings : Settings) {operation : Operation} (changes : operation ≠ .delete)
    {model : ClusterModel} {steps : List (Taken ClusterModel)} {next : Option Fields}
    (run : (Family.cluster.lifecycle settings operation).Run (settings.step .cluster) .plain steps next)
    (same : ∀ taken ∈ steps, taken.model = model) :
    Follows (settling operation) (traceOf steps) ∧ Guarded (Allows operation model) (traceOf steps) ∧
    ∀ taken ∈ steps, ∀ result message, taken.outcome = .success result message →
      Settled model (traceOf steps) result := by
  have keeps := Family.cluster.keeps settings operation
  have upholds : (Family.cluster.lifecycle settings operation).Upholds id (fun _ => True) model
    (settlement operation model) := upholds_settlement settings.reservedLabel changes model
  obtain ⟨⟨follows, guarded⟩, succeeds⟩ := upholds.holds keeps run same fun _ _ => trivial
  exact ⟨follows, guarded, succeeds⟩

/-- A cluster that is to get process settings and to be paused. -/
def tunedModel : ClusterModel where
  projectId := some "p"
  name := some "c"
  paused := some true
  advancedSettings := some { noTableScan := some true }

/-- The operation on it, in a phase. -/
def tunedWaiting (phase : ClusterPhase) (targetPaused : Option Bool) : Continuation ClusterPhase ClusterIds where
  operationId := .nil
  phase := phase
  ids := { projectId := "p", clusterName := "c", targetPaused }
  timing := none

/-- The context in which the operation waits. -/
def tunedContext (phase : ClusterPhase) (targetPaused : Option Bool) : Fields :=
  (Family.cluster.lifecycle {} .update).write Family.cluster.idsRecord (tunedWaiting phase targetPaused)

/-- The cluster, idle. -/
def tunedRemote (paused : Option Bool) : RemoteCluster where
  name := "c"
  stateName := "IDLE"
  paused := paused

/-- A step in changing it, which first looks at it. -/
def tunedStep (context : Fields) (remote : RemoteCluster) (after : Trace Gateway) (outcome : Outcome ClusterModel) :
    Taken ClusterModel where
  fresh := .nil
  context := context
  model := tunedModel
  now := .epoch
  trace := ⟨.control (.getCluster "p" "c"), .ok remote⟩ :: after
  outcome := outcome

/-- The first step changes the cluster. -/
def tunedUpdated : Taken ClusterModel :=
  tunedStep [] (tunedRemote none)
    [⟨.control (.updateCluster "p" "c" tunedModel.toRequest), .ok (tunedRemote none)⟩]
    (.inProgress (tunedContext .updating none) (.ofSeconds 60) "Cluster update requested")

/-- The second step applies the process settings. -/
def tunedConfigured : Taken ClusterModel :=
  tunedStep (tunedContext .updating none) (tunedRemote none)
    [⟨.control (.updateProcessArgs "p" "c" { noTableScan := some true }), .ok { noTableScan := some true }⟩]
    (.inProgress (tunedContext .configuring none) (.ofSeconds 60) "Applying advanced configuration")

/-- The third step pauses the cluster. -/
def tunedPaused : Taken ClusterModel :=
  tunedStep (tunedContext .configuring none) (tunedRemote none)
    [⟨.control (.updateCluster "p" "c" { paused := some true }), .ok (tunedRemote none)⟩]
    (.inProgress (tunedContext .pausing (some true)) (.ofSeconds 60) ("Setting paused to " ++ "true"))

/-- The last step finds it paused. -/
def tunedSettled : Taken ClusterModel :=
  tunedStep (tunedContext .pausing (some true)) (tunedRemote (some true)) []
    (.success (some (tunedModel.merge (Settings.reservedLabel {}) (tunedRemote (some true))))
      ("Cluster " ++ "c" ++ " is " ++ "IDLE"))

theorem decode_tunedContext (phase : ClusterPhase) (targetPaused : Option Bool) :
    Context.decode (Family.cluster.lifecycle {} .update).target (Family.cluster.lifecycle {} .update).ids
      (tunedContext phase targetPaused) = .ok (some (tunedWaiting phase targetPaused)) :=
  (Family.cluster.keeps {} .update).decode_write (by rintro _ ⟨⟩)

theorem takes_tunedUpdated : (Family.cluster.lifecycle {} .update).Takes (Settings.step {} .cluster) tunedUpdated := by
  refine Lifecycle.takes_of_ends (.call (.note (.call (.note ?_))))
  exact (Family.cluster.keeps {} .update).ends_waiting (tunedWaiting .updating none) _

theorem takes_tunedConfigured :
    (Family.cluster.lifecycle {} .update).Takes (Settings.step {} .cluster) tunedConfigured := by
  apply Lifecycle.takes_of_ends
  rw [tunedConfigured, tunedStep, Lifecycle.tryStep, decode_tunedContext]
  refine .call (.note (.call (.note ?_)))
  exact (Family.cluster.keeps {} .update).ends_waiting (tunedWaiting .configuring none) _

theorem takes_tunedPaused : (Family.cluster.lifecycle {} .update).Takes (Settings.step {} .cluster) tunedPaused := by
  apply Lifecycle.takes_of_ends
  rw [tunedPaused, tunedStep, Lifecycle.tryStep, decode_tunedContext]
  refine .call (.note (.call (.note ?_)))
  exact (Family.cluster.keeps {} .update).ends_waiting (tunedWaiting .pausing (some true)) _

theorem takes_tunedSettled : (Family.cluster.lifecycle {} .update).Takes (Settings.step {} .cluster) tunedSettled := by
  apply Lifecycle.takes_of_ends
  rw [tunedSettled, tunedStep, Lifecycle.tryStep, decode_tunedContext]
  exact .call (.note (.done _))

/-- The four steps. -/
def tunedSteps : List (Taken ClusterModel) :=
  [tunedUpdated] ++ [tunedConfigured] ++ [tunedPaused] ++ [tunedSettled]

theorem run_tuned : (Family.cluster.lifecycle {} .update).Run (Settings.step {} .cluster) .plain tunedSteps
    (Caller.plain.next tunedSettled) :=
  .step (.step (.step (.step .start takes_tunedUpdated) takes_tunedConfigured) takes_tunedPaused) takes_tunedSettled

/-- They settle the cluster. -/
theorem tuned_settled_in_order : Operation.update ≠ .delete ∧ ClusterLifecycle.Settled tunedModel (traceOf tunedSteps)
    (some (tunedModel.merge (Settings.reservedLabel {}) (tunedRemote (some true)))) := by
  have changes : Operation.update ≠ .delete := by decide
  have same : ∀ taken ∈ tunedSteps, taken.model = tunedModel := by
    simp [tunedSteps, tunedUpdated, tunedConfigured, tunedPaused, tunedSettled, tunedStep]
  obtain ⟨_, _, settled⟩ := Family.cluster_settled_in_order {} changes run_tuned same
  exact ⟨changes, settled tunedSettled (by simp [tunedSteps]) _ _ rfl⟩

end Provisioner
