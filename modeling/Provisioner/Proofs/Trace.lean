import Provisioner.Program

/-!
# Traces

Whatever answers its calls, a program makes some calls, gets some answers and ends with some result. `Program.Ends`
relates a program to the trace of its calls with their answers and to its result; whoever runs a program
(`Program.run`) gets it to one of its ends (`exists_ends_of_run`).
-/
namespace Provisioner

/-- A call and its answer. -/
structure Answered (ι : Interface) where
  call : ι.Call
  answer : ι.Answer call

/-- Calls with their answers, in the order in which they were made. -/
abbrev Trace (ι : Interface) := List (Answered ι)

namespace Program
variable {ι : Interface} {ε δ α β : Type}

/-- A program makes the calls of a trace, gets its answers, and ends with a result or an error. -/
inductive Ends : Program ι ε α → Trace ι → Except ε α → Prop
  | done (result : α) : Ends (.done result) [] (.ok result)
  | fail (error : ε) : Ends (.fail error) [] (.error error)
  | note {event : Event} {rest : Program ι ε α} {trace : Trace ι} {result : Except ε α}
      (later : Ends rest trace result) : Ends (.note event rest) trace result
  | call {c : ι.Call} {next : ι.Answer c → Program ι ε α} {answer : ι.Answer c} {trace : Trace ι}
      {result : Except ε α} (later : Ends (next answer) trace result) : Ends (.call c next) (⟨c, answer⟩ :: trace) result

variable {trace : Trace ι}

@[simp] theorem ends_done {value : α} {result : Except ε α} :
    (done value : Program ι ε α).Ends trace result ↔ trace = [] ∧ result = .ok value := by
  constructor
  · rintro ⟨⟩
    exact ⟨rfl, rfl⟩
  · rintro ⟨rfl, rfl⟩
    exact .done value

@[simp] theorem ends_fail {error : ε} {result : Except ε α} :
    (fail error : Program ι ε α).Ends trace result ↔ trace = [] ∧ result = .error error := by
  constructor
  · rintro ⟨⟩
    exact ⟨rfl, rfl⟩
  · rintro ⟨rfl, rfl⟩
    exact .fail error

@[simp] theorem ends_note {event : Event} {rest : Program ι ε α} {result : Except ε α} :
    (note event rest).Ends trace result ↔ rest.Ends trace result := by
  constructor
  · rintro ⟨⟩
    assumption
  · exact .note

@[simp] theorem ends_call {c : ι.Call} {next : ι.Answer c → Program ι ε α} {result : Except ε α} :
    (call c next).Ends trace result ↔ ∃ answer rest, trace = ⟨c, answer⟩ :: rest ∧ (next answer).Ends rest result := by
  constructor
  · rintro ⟨⟩
    exact ⟨_, _, rfl, by assumption⟩
  · rintro ⟨answer, rest, rfl, later⟩
    exact .call later

/-- A program followed by another ends where it fails, or where the other ends. -/
theorem ends_bind {p : Program ι ε α} {f : α → Program ι ε β} {result : Except ε β} :
    (p >>= f).Ends trace result ↔
      (∃ error, p.Ends trace (.error error) ∧ result = .error error) ∨
      ∃ value before after, p.Ends before (.ok value) ∧ (f value).Ends after result ∧ trace = before ++ after := by
  induction p generalizing trace with
  | done value =>
    simp only [done_bind, ends_done, reduceCtorEq, and_false, false_and, exists_false, false_or]
    constructor
    · intro later
      exact ⟨value, [], trace, ⟨rfl, rfl⟩, later, rfl⟩
    · rintro ⟨_, _, _, ⟨rfl, ⟨⟩⟩, later, rfl⟩
      exact later
  | fail error =>
    simp only [fail_bind, ends_fail, reduceCtorEq, and_false, false_and, exists_false, or_false]
    constructor
    · rintro ⟨rfl, rfl⟩
      exact ⟨error, ⟨rfl, rfl⟩, rfl⟩
    · rintro ⟨_, ⟨rfl, ⟨⟩⟩, rfl⟩
      exact ⟨rfl, rfl⟩
  | note event rest ih => simp only [note_bind, ends_note, ih]
  | call c next ih =>
    simp only [call_bind, ends_call, ih]
    constructor
    · rintro ⟨answer, rest, rfl, ⟨error, early, rfl⟩ | ⟨value, before, after, first, second, rfl⟩⟩
      · exact .inl ⟨error, ⟨answer, rest, rfl, early⟩, rfl⟩
      · exact .inr ⟨value, ⟨c, answer⟩ :: before, after, ⟨answer, before, rfl, first⟩, second, rfl⟩
    · rintro (⟨error, ⟨answer, rest, rfl, early⟩, rfl⟩ | ⟨value, _, after, ⟨answer, before, rfl, first⟩, second, rfl⟩)
      · exact ⟨answer, rest, rfl, .inl ⟨error, early, rfl⟩⟩
      · exact ⟨answer, before ++ after, rfl, .inr ⟨value, before, after, first, second, rfl⟩⟩

@[simp] theorem ends_attempt {p : Program ι ε α} {result : Except δ (Except ε α)} :
    (p.attempt : Program ι δ _).Ends trace result ↔ ∃ inner, p.Ends trace inner ∧ result = .ok inner := by
  induction p generalizing trace with
  | done value => simp [and_assoc]
  | fail error => simp [and_assoc]
  | note event rest ih => simp [ih]
  | call c next ih =>
    simp only [attempt_call, ends_call, ih]
    constructor
    · rintro ⟨answer, rest, rfl, inner, later, rfl⟩
      exact ⟨inner, ⟨answer, rest, rfl, later⟩, rfl⟩
    · rintro ⟨inner, ⟨answer, rest, rfl, later⟩, rfl⟩
      exact ⟨answer, rest, rfl, inner, later, rfl⟩

/-- A result that is there already, or an error. -/
@[simp] theorem ends_lift {value result : Except ε α} :
    (monadLift value : Program ι ε α).Ends trace result ↔ trace = [] ∧ result = value := by
  cases value
  · exact ends_fail
  · exact ends_done

@[simp] theorem lift_ok_bind (value : α) (f : α → Program ι ε β) :
    ((monadLift (Except.ok value : Except ε α) : Program ι ε α) >>= f) = f value := rfl

@[simp] theorem lift_error_bind (error : ε) (f : α → Program ι ε β) :
    ((monadLift (Except.error error : Except ε α) : Program ι ε α) >>= f) = fail error := rfl

@[simp] theorem bind_bind {γ : Type} (p : Program ι ε α) (f : α → Program ι ε β) (g : β → Program ι ε γ) :
    (p >>= f) >>= g = p >>= fun value => f value >>= g := by
  induction p with
  | done | fail => rfl
  | note event rest ih => simp only [note_bind, ih]
  | call c next ih => simp only [call_bind, ih]

@[simp] theorem info_bind (message : String) (f : Unit → Program ι ε α) :
    (info message >>= f) = note ⟨.info, message⟩ (f ()) := rfl

@[simp] theorem warn_bind (message : String) (f : Unit → Program ι ε α) :
    (warn message >>= f) = note ⟨.warn, message⟩ (f ()) := rfl

@[simp] theorem report_bind (event : Event) (f : Unit → Program ι ε α) :
    (report event >>= f) = note event (f ()) := rfl

/-- A program has an end, whatever answers its calls. -/
theorem exists_ends (answer : (c : ι.Call) → ι.Answer c) (p : Program ι ε α) :
    ∃ trace result, p.Ends trace result ∧ ∀ answered ∈ trace, answered.answer = answer answered.call := by
  induction p with
  | done value => exact ⟨[], _, .done value, by simp⟩
  | fail error => exact ⟨[], _, .fail error, by simp⟩
  | note event rest ih =>
    obtain ⟨trace, result, later, answers⟩ := ih
    exact ⟨trace, result, .note later, answers⟩
  | call c next ih =>
    obtain ⟨trace, result, later, answers⟩ := ih (answer c)
    exact ⟨⟨c, answer c⟩ :: trace, result, .call later, List.forall_mem_cons.mpr ⟨rfl, answers⟩⟩

/-- Every answer of a trace is the one that is due after the calls and answers before it. -/
def AnsweredBy (answer : Trace ι → (c : ι.Call) → ι.Answer c) (trace : Trace ι) : Prop :=
  ∀ before last, before ++ [last] <+: trace → last.answer = answer before last.call

theorem answeredBy_cons {answer : Trace ι → (c : ι.Call) → ι.Answer c} {first : Answered ι}
    (due : first.answer = answer [] first.call) (later : AnsweredBy (fun before => answer (first :: before)) trace) :
    AnsweredBy answer (first :: trace) := by
  rintro (_ | ⟨head, before⟩) last begins
  · obtain ⟨rfl, _⟩ := List.cons_prefix_cons.mp begins
    exact due
  · obtain ⟨rfl, rest⟩ := List.cons_prefix_cons.mp begins
    exact later before last rest

/-- A program has an end, also if its calls are answered by someone who remembers those before. -/
theorem exists_ends_answeredBy (answer : Trace ι → (c : ι.Call) → ι.Answer c) (p : Program ι ε α) :
    ∃ trace result, p.Ends trace result ∧ AnsweredBy answer trace := by
  induction p generalizing answer with
  | done value => exact ⟨[], _, .done value, by simp [AnsweredBy]⟩
  | fail error => exact ⟨[], _, .fail error, by simp [AnsweredBy]⟩
  | note event rest ih =>
    obtain ⟨trace, result, later, answers⟩ := ih answer
    exact ⟨trace, result, .note later, answers⟩
  | call c next ih =>
    obtain ⟨trace, result, later, answers⟩ := ih (answer [] c) fun before => answer (⟨c, answer [] c⟩ :: before)
    exact ⟨⟨c, answer [] c⟩ :: trace, result, .call later, answeredBy_cons rfl answers⟩

/-- Calls that get the same answers lead to the same end. -/
theorem Ends.eq_of_append_eq {p : Program ι ε α} {other rest rest' : Trace ι} {result result' : Except ε α}
    (first : p.Ends trace result) (second : p.Ends other result') (same : trace ++ rest = other ++ rest') :
    trace = other ∧ result = result' := by
  induction first generalizing other with
  | done | fail =>
    cases second
    exact ⟨rfl, rfl⟩
  | note _ ih =>
    cases second with
    | note later => exact ih later same
  | call _ ih =>
    cases second with
    | call later =>
      rw [List.cons_append, List.cons_append, List.cons.injEq] at same
      obtain ⟨head, tail⟩ := same
      cases head
      obtain ⟨rfl, rfl⟩ := ih later tail
      exact ⟨rfl, rfl⟩

/-- Running a program where answers depend on a state gets it to one of its ends. -/
theorem exists_ends_of_run {σ : Type} (answer : (c : ι.Call) → StateM σ (ι.Answer c)) (watch : Event → StateM σ Unit)
    (p : Program ι ε α) (state : σ) : ∃ trace, p.Ends trace ((p.run answer watch).run state).1 := by
  induction p generalizing state with
  | done value => exact ⟨[], .done value⟩
  | fail error => exact ⟨[], .fail error⟩
  | note event rest ih =>
    obtain ⟨trace, later⟩ := ih ((watch event).run state).2
    exact ⟨trace, .note later⟩
  | call c next ih =>
    obtain ⟨trace, later⟩ := ih ((answer c).run state).1 ((answer c).run state).2
    exact ⟨_, .call later⟩

/-! ## What holds at every end -/

/-- Wherever a program ends, its trace and its result are related like that. -/
def Always (p : Program ι ε α) (Q : Trace ι → Except ε α → Prop) : Prop :=
  ∀ trace result, p.Ends trace result → Q trace result

variable {Q Q' : Trace ι → Except ε α → Prop}

@[simp] theorem always_done {value : α} : (done value : Program ι ε α).Always Q ↔ Q [] (.ok value) := by
  simp [Always]

@[simp] theorem always_fail {error : ε} : (fail error : Program ι ε α).Always Q ↔ Q [] (.error error) := by
  simp [Always]

@[simp] theorem always_note {event : Event} {rest : Program ι ε α} : (note event rest).Always Q ↔ rest.Always Q := by
  simp [Always]

@[simp] theorem always_call {c : ι.Call} {next : ι.Answer c → Program ι ε α} :
    (call c next).Always Q ↔
      ∀ answer, (next answer).Always fun trace result => Q (⟨c, answer⟩ :: trace) result := by
  constructor
  · intro always answer trace result later
    exact always _ _ (.call later)
  · rintro always _ _ ⟨⟩
    exact always _ _ _ (by assumption)

@[simp] theorem always_lift {value : Except ε α} :
    (monadLift value : Program ι ε α).Always Q ↔ Q [] value := by
  simp [Always]

@[simp] theorem always_lift_bind {value : Except ε α} {f : α → Program ι ε β} {Q : Trace ι → Except ε β → Prop} :
    ((monadLift value : Program ι ε α) >>= f).Always Q ↔
      (∀ error, value = .error error → Q [] (.error error)) ∧ ∀ result, value = .ok result → (f result).Always Q := by
  cases value <;> simp

@[simp] theorem always_ite {condition : Prop} [Decidable condition] {p q : Program ι ε α} :
    (if condition then p else q).Always Q ↔ (condition → p.Always Q) ∧ (¬ condition → q.Always Q) := by
  split <;> simp [*]

end Program
end Provisioner
