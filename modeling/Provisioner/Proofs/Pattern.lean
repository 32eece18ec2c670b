import Mathlib.Computability.Language
import Mathlib.Order.CompletePartialOrder
import Provisioner.Proofs.Calls

/-!
# Patterns of calls

In which order calls are made is said by a language of their kinds, a pattern. It is put together from calls that are
made once (`Pattern.once`), any number of times (`Pattern.many`) or perhaps (`Pattern.maybe`). The calls of a trace may
be all calls of a pattern (`Makes`) or only the first ones (`Follows`). A look at what is waited for makes at most one
more call of the last kind (`Polls`).
-/
namespace Provisioner
open scoped Computability

/-- What a call is told apart by: its name, and for a cluster whether the call pauses or resumes it. -/
def Call.kind : Call → String
  | control (.updateCluster _ _ request) => if request.paused.isSome then "pause_cluster" else "update_cluster"
  | c => c.name

/-- The kinds of the calls of a trace. -/
def callKinds (trace : Trace Gateway) : List String :=
  trace.map (·.call.kind)

attribute [simp] Call.kind Call.name ControlCall.name NetworkCall.name

@[simp] theorem callKinds_nil : callKinds [] = [] := rfl

@[simp] theorem callKinds_cons (answered : Answered Gateway) (trace : Trace Gateway) :
    callKinds (answered :: trace) = answered.call.kind :: callKinds trace := rfl

@[simp] theorem callKinds_append (before after : Trace Gateway) :
    callKinds (before ++ after) = callKinds before ++ callKinds after :=
  List.map_append

namespace Pattern

/-- A call that is made once. -/
def once (kind : String) : Language String :=
  {[kind]}

/-- A call that is made any number of times. -/
def many (kind : String) : Language String :=
  (once kind)∗

/-- Calls that are made or not. -/
def maybe (pattern : Language String) : Language String :=
  1 + pattern

/-- There are calls that follow the pattern. -/
class Possible (pattern : Language String) : Prop where
  exists_word : ∃ word, word ∈ pattern

variable {p q : Language String} {kind : String}

instance : Possible (once kind) :=
  ⟨[kind], rfl⟩

instance : Possible (many kind) :=
  ⟨[], Language.nil_mem_kstar _⟩

instance : Possible (maybe p) :=
  ⟨[], .inl Language.nil_mem_one⟩

instance [first : Possible p] [second : Possible q] : Possible (p * q) := by
  obtain ⟨word, member⟩ := first.exists_word
  obtain ⟨word', member'⟩ := second.exists_word
  exact ⟨word ++ word', Language.append_mem_mul member member'⟩

end Pattern

open Pattern

/-- The calls of a trace are all calls of a pattern. -/
def Makes (pattern : Language String) (trace : Trace Gateway) : Prop :=
  callKinds trace ∈ pattern

/-- The calls of a trace are the first calls of a pattern. -/
def Follows (pattern : Language String) (trace : Trace Gateway) : Prop :=
  ∃ word ∈ pattern, callKinds trace <+: word

section
variable {p q : Language String} {trace : Trace Gateway} {answered : Answered Gateway} {kind : String}

theorem makes_once (same : answered.call.kind = kind) : Makes (once kind) [answered] :=
  congrArg (fun kind => [kind]) same

theorem Makes.mono (makes : Makes p trace) (weaker : p ≤ q) : Makes q trace :=
  weaker makes

theorem Makes.concat (makes : Makes p trace) (same : answered.call.kind = kind) :
    Makes (p * once kind) (trace ++ [answered]) := by
  rw [Makes, callKinds_append, callKinds_cons, callKinds_nil, same]
  exact Language.append_mem_mul makes rfl

theorem Makes.wait (makes : Makes p trace) : Makes (p * many kind) trace :=
  makes.mono (le_mul_of_one_le_right' one_le_kstar)

/-- A call after which another one may be repeated. -/
theorem Makes.enter {poll : String} (makes : Makes p trace) (same : answered.call.kind = kind) :
    Makes (p * once kind * many poll) (trace ++ [answered]) :=
  (makes.concat same).wait

theorem Makes.again (makes : Makes (p * many kind) trace) (same : answered.call.kind = kind) :
    Makes (p * many kind) (trace ++ [answered]) := by
  have more : Makes (p * many kind * once kind) (trace ++ [answered]) := makes.concat same
  rw [mul_assoc] at more
  exact more.mono (mul_le_mul' le_rfl kstar_mul_le_kstar)

theorem Makes.skip (makes : Makes p trace) : Makes (p * maybe q) trace :=
  makes.mono (le_mul_of_one_le_right' le_self_add)

theorem Makes.take (makes : Makes (p * q) trace) : Makes (p * maybe q) trace :=
  makes.mono (mul_le_mul' le_rfl le_add_self)

theorem follows_nil [possible : Possible p] : Follows p [] := by
  obtain ⟨word, member⟩ := possible.exists_word
  exact ⟨word, member, List.nil_prefix⟩

theorem Makes.follows (makes : Makes p trace) : Follows p trace :=
  ⟨_, makes, List.prefix_rfl⟩

/-- The first calls of a pattern are also those of a longer one. -/
theorem Follows.mul (follows : Follows p trace) [later : Possible q] : Follows (p * q) trace := by
  obtain ⟨word, member, start⟩ := follows
  obtain ⟨rest, member'⟩ := later.exists_word
  exact ⟨word ++ rest, Language.append_mem_mul member member', start.trans (List.prefix_append word rest)⟩

end

/-! ## Looking -/

/-- At most one call is made; it is of a kind that changes nothing. -/
def Polls (kind : String) (look : Trace Gateway) : Prop :=
  look = [] ∨ ∃ answered, look = [answered] ∧ answered.call.kind = kind ∧ answered.call.isMutating = false

section
variable {p : Language String} {allowed : Trace Gateway → Call → Prop} {past look : Trace Gateway} {kind : String}

theorem Makes.poll (makes : Makes (p * many kind) past) (polls : Polls kind look) :
    Makes (p * many kind) (past ++ look) := by
  rcases polls with rfl | ⟨answered, rfl, same, _⟩
  · rwa [List.append_nil]
  · exact makes.again same

/-- Calls that change nothing are allowed where conditions are only put on others. -/
theorem Guarded.poll (guarded : Guarded allowed past) (polls : Polls kind look)
    (free : ∀ before c, c.isMutating = false → allowed before c) : Guarded allowed (past ++ look) := by
  rcases polls with rfl | ⟨answered, rfl, _, reads⟩
  · rwa [List.append_nil]
  · exact guarded_concat.mpr ⟨guarded, free past answered.call reads⟩

theorem notMem_callKinds_poll {other : String} (lacks : other ∉ callKinds past) (polls : Polls kind look)
    (differs : other ≠ kind) : other ∉ callKinds (past ++ look) := by
  rcases polls with rfl | ⟨answered, rfl, same, _⟩
  · rwa [List.append_nil]
  · rw [callKinds_append, callKinds_cons, callKinds_nil, same]
    simp [lacks, differs]

end
end Provisioner
