import Provisioner.Event

/-!
# Programs

A program makes calls one after the other, each of which may depend on the answers to those before, and ends
with a result or an error. It does not make its calls itself: whoever runs it answers them, so a program is a
value that can be run against a script, against a remote side, or against every possible answer.
-/
namespace Provisioner

/-- The calls that a program can make, and what each is answered with. -/
structure Interface where
  Call : Type
  Answer : Call → Type

/-- A program over an interface. -/
inductive Program (ι : Interface) (ε α : Type) where
  | done (result : α)
  | fail (error : ε)
  /-- Reports an event and goes on. -/
  | note (event : Event) (rest : Program ι ε α)
  /-- Makes a call and goes on with its answer. -/
  | call (c : ι.Call) (next : ι.Answer c → Program ι ε α)

namespace Program
variable {ι κ : Interface} {ε δ α β : Type}

/-- A program followed by another that takes its result. -/
def bind : Program ι ε α → (α → Program ι ε β) → Program ι ε β
  | done result, f => f result
  | fail error, _ => fail error
  | note event rest, f => note event (rest.bind f)
  | call c next, f => call c fun answer => (next answer).bind f

instance : Monad (Program ι ε) where
  pure := done
  bind := bind

instance : MonadLift (Except ε) (Program ι ε) where
  monadLift
    | .ok result => done result
    | .error error => fail error

@[simp] theorem pure_eq (result : α) : (pure result : Program ι ε α) = done result := rfl

@[simp] theorem done_bind (result : α) (f : α → Program ι ε β) : (done result >>= f) = f result := rfl

@[simp] theorem fail_bind (error : ε) (f : α → Program ι ε β) : (fail error >>= f) = fail error := rfl

@[simp] theorem note_bind (event : Event) (rest : Program ι ε α) (f : α → Program ι ε β) :
    (note event rest >>= f) = note event (rest >>= f) := rfl

@[simp] theorem call_bind (c : ι.Call) (next : ι.Answer c → Program ι ε α) (f : α → Program ι ε β) :
    (call c next >>= f) = call c fun answer => next answer >>= f := rfl

/-- A call whose answer is the result. -/
def ask (c : ι.Call) : Program ι ε (ι.Answer c) :=
  call c done

/-- The report of an event. -/
def report (event : Event) : Program ι ε Unit :=
  note event (done ())

/-- The report of something an operator may want to know. -/
def info (message : String) : Program ι ε Unit :=
  report ⟨.info, message⟩

/-- The report of something that went wrong. -/
def warn (message : String) : Program ι ε Unit :=
  report ⟨.warn, message⟩

/-- The program with its error as a result; it cannot fail any more. -/
def attempt : Program ι ε α → Program ι δ (Except ε α)
  | done result => done (.ok result)
  | fail error => done (.error error)
  | note event rest => note event rest.attempt
  | call c next => call c fun answer => (next answer).attempt

@[simp] theorem attempt_done (result : α) : (done result : Program ι ε α).attempt = (done (.ok result) : Program ι δ _) :=
  rfl

@[simp] theorem attempt_fail (error : ε) : (fail error : Program ι ε α).attempt = (done (.error error) : Program ι δ _) :=
  rfl

@[simp] theorem attempt_note (event : Event) (rest : Program ι ε α) :
    (note event rest).attempt = (note event rest.attempt : Program ι δ _) := rfl

@[simp] theorem attempt_call (c : ι.Call) (next : ι.Answer c → Program ι ε α) :
    (call c next).attempt = (call c fun answer => (next answer).attempt : Program ι δ _) := rfl

/-- The program with its error in other words. -/
def mapError (f : ε → δ) : Program ι ε α → Program ι δ α
  | done result => done result
  | fail error => fail (f error)
  | note event rest => note event (rest.mapError f)
  | call c next => call c fun answer => (next answer).mapError f

/-- A program that cannot fail, where one that can is wanted. -/
def widen : Program ι Empty α → Program ι ε α :=
  mapError nofun

/-- The program over another interface, with a program there in place of each call. -/
def interpret (answer : (c : ι.Call) → Program κ ε (ι.Answer c)) : Program ι ε α → Program κ ε α
  | done result => done result
  | fail error => fail error
  | note event rest => note event (rest.interpret answer)
  | call c next => (answer c).bind fun result => (next result).interpret answer

/-- Runs a program where calls can be answered. -/
def run {m : Type → Type} [Monad m] (answer : (c : ι.Call) → m (ι.Answer c)) (watch : Event → m Unit) :
    Program ι ε α → m (Except ε α)
  | done result => pure (.ok result)
  | fail error => pure (.error error)
  | note event rest => do
    watch event
    rest.run answer watch
  | call c next => do
    (next (← answer c)).run answer watch

end Program

end Provisioner
