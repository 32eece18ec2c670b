import Provisioner.Proofs.Command.Files
import Provisioner.Proofs.Command.Requests

/-!
# Running is stepping

The program can make the steps of an operation itself, or it is invoked for every step anew, on the context that the
step before it returned and that was kept in a file (`Task.Iterated`). Both come to the same: the same requests in the
same order, the same times and ids, and the same last response (`Task.run_iterates_step`).
-/
namespace Provisioner.Command

/-! ## Invocations -/

/-- A file with its text. -/
structure TextFile where
  path : String
  text : String

/-- The file is read. -/
def TextFile.read (file : TextFile) : Answered Host :=
  ⟨.fileText file.path, .ok file.text⟩

/-- A step as it went: when it was, the id that was drawn for it, its requests with the replies, and its response. -/
structure Invocation where
  now : Instant
  fresh : OperationId
  exchanges : Trace Web
  response : StepResponse Json

namespace Invocation

/-- What the step asks of the host, wherever it is made. -/
def asked (invocation : Invocation) : Trace Host :=
  ⟨.now, invocation.now⟩ :: ⟨.freshId, invocation.fresh⟩ :: sends invocation.exchanges

/-- The response is printed. -/
def printed (invocation : Invocation) : Answered Host :=
  ⟨.print (((StepResponse.shape .any).write invocation.response).pretty ++ "\n"), ()⟩

/-- The time that the response asks for is waited. -/
def paused (invocation : Invocation) : Answered Host :=
  ⟨.pause (.ofSeconds (invocation.response.retryDelaySeconds.getD 0).toNat), ()⟩

/-- No step follows. -/
def isTerminal (invocation : Invocation) : Bool :=
  invocation.response.status ≠ .inProgress

theorem isTerminal_eq_false {invocation : Invocation} :
    invocation.isTerminal = false ↔ invocation.response.status = .inProgress := by
  simp [isTerminal]

/-- What a run does with the response: it prints the last one only, and waits after the others. -/
def closing (invocation : Invocation) : Answered Host :=
  if invocation.isTerminal then invocation.printed else invocation.paused

/-- The step as a part of a run. -/
def inRun (invocation : Invocation) : Trace Host :=
  invocation.asked ++ [invocation.closing]

end Invocation

/-- A request with its reply, where the host was asked to send one. -/
def exchange? : Answered Host → Option (Answered Web)
  | ⟨.send request, reply⟩ => some ⟨request, reply⟩
  | _ => none

/-- Something was printed. -/
def isPrint : Answered Host → Bool
  | ⟨.print _, _⟩ => true
  | _ => false

namespace Invocation

theorem exchanges_inRun (invocation : Invocation) : invocation.inRun.filterMap exchange? = invocation.exchanges := by
  have sent : (sends invocation.exchanges).filterMap exchange? = invocation.exchanges := by
    rw [sends, List.filterMap_map]
    exact List.filterMap_some
  have closed : exchange? invocation.closing = none := by
    rw [closing]
    split <;> rfl
  rw [inRun, asked, List.filterMap_append, List.filterMap_cons_none rfl, List.filterMap_cons_none rfl, sent,
    List.filterMap_cons_none closed, List.filterMap_nil, List.append_nil]

theorem prints_inRun (invocation : Invocation) :
    invocation.inRun.filter isPrint = if invocation.isTerminal then [invocation.printed] else [] := by
  have sent : (sends invocation.exchanges).filter isPrint = [] := by
    rw [List.filter_eq_nil_iff]
    intro answered member
    obtain ⟨exchange, _, rfl⟩ := List.mem_map.mp member
    simp [isPrint]
  rw [inRun, asked, List.filter_append, List.filter_cons_of_neg (by simp [isPrint]),
    List.filter_cons_of_neg (by simp [isPrint]), sent, List.nil_append, closing]
  split <;> rfl

end Invocation

/-- What the program is told to do in one step or many. -/
structure Task where
  configuration : Configuration
  family : String
  operation : Operation
  model : TextFile

namespace Task

/-- One step on the context in a file, or on the empty one, up to its response. -/
def respond (task : Task) (contextPath : Option String) : Routine (StepResponse Json) := do
  let client ← client task.configuration
  let model ← readJson task.model.path
  let context ← match contextPath with
    | some path => readContext path
    | none => pure []
  step { settings := task.configuration.settings, client, family := task.family, operation := task.operation, model }
    context

/-- The program that is invoked for one step prints the response. -/
theorem perform_step (task : Task) (contextPath : Option String) :
    perform task.configuration (.step task.family task.operation task.model.path contextPath) =
      task.respond contextPath >>= printResponse := by
  cases contextPath <;> simp only [perform, respond, Program.bind_bind]

/-- What an invocation reads. -/
def files (task : Task) (context : Option TextFile) : Trace Host :=
  task.model.read :: (context.map TextFile.read).toList

/-- The step is made when the program is invoked for it, with the context in a file or with the empty one. -/
def Makes (task : Task) (context : Option TextFile) (invocation : Invocation) : Prop :=
  (task.respond (context.map (·.path))).Ends (task.files context ++ invocation.asked) (.ok invocation.response)

/-- An invocation starts with a context: the empty one, or the one that its file holds. -/
def Holds (context : Option TextFile) (fields : Fields) : Prop :=
  match context with
  | none => fields = []
  | some file => Json.ofText file.text = .ok (.object fields)

/-- Steps for which the program is invoked one after the other, first with a context that may be in a file. They go on,
each with a file that holds the context which the one before it returned, until a response does not ask for another
step, or as many steps were made as are allowed. -/
inductive Iterated (task : Task) : (left : Nat) → (context : Option TextFile) → List Invocation → Prop
  | spent (context : Option TextFile) : Iterated task 0 context []
  | ended {left : Nat} {context : Option TextFile} {invocation : Invocation} (makes : task.Makes context invocation)
      (terminal : invocation.isTerminal = true) : Iterated task (left + 1) context [invocation]
  | goesOn {left : Nat} {context : Option TextFile} {invocation : Invocation} {returned : Fields} {file : TextFile}
      {later : List Invocation} (makes : task.Makes context invocation)
      (waits : invocation.response.status = .inProgress)
      (returns : invocation.response.continuationContext = some returned)
      (kept : Holds (some file) returned) (rest : Iterated task left (some file) later) :
      Iterated task (left + 1) context (invocation :: later)

/-- How a run ends after its last step, or without any. -/
def verdict (task : Task) (limit : Nat) : Option Invocation → Except Failure Unit
  | none => .error (.operationUnfinished task.family task.operation limit)
  | some last =>
    match last.response.status with
    | .inProgress => .error (.operationUnfinished task.family task.operation limit)
    | .success => .ok ()
    | .failed => .error (.operationFailed task.family task.operation last.response.message)

/-! ## Files are read -/

/-- The subject of the steps, with a client for a token and the document in the model file. -/
def subject (task : Task) (token : String) (document : Json) : Subject where
  settings := task.configuration.settings
  client := .of task.configuration.apiUrl token
  family := task.family
  operation := task.operation
  model := document

variable {α : Type} {trace : Trace Host} {result : Except Failure α}

theorem ends_readJson_bind {file : TextFile} {document : Json} (held : Json.ofText file.text = .ok document)
    {next : Json → Routine α} :
    (readJson file.path >>= next).Ends (file.read :: trace) result ↔ (next document).Ends trace result := by
  simp only [readJson, Routine.ask, Program.ask, Program.call_bind, Program.done_bind, Program.ends_call]
  constructor
  · rintro ⟨_, _, ⟨⟩, later⟩
    simpa only [held, Program.pure_eq, Program.done_bind] using later
  · intro later
    exact ⟨.ok file.text, trace, rfl, by simpa only [held, Program.pure_eq, Program.done_bind] using later⟩

theorem ends_readContext_bind {file : TextFile} {fields : Fields} (held : Json.ofText file.text = .ok (.object fields))
    {next : Fields → Routine α} :
    (readContext file.path >>= next).Ends (file.read :: trace) result ↔ (next fields).Ends trace result := by
  rw [readContext, Program.bind_bind, ends_readJson_bind held]
  rfl

variable {task : Task} {token : String} {document : Json}

/-- With files that hold what they should, an invocation is a step on what they hold. -/
theorem ends_respond_bind (known : task.configuration.apiToken = some token)
    (held : Json.ofText task.model.text = .ok document) {context : Option TextFile} {fields : Fields}
    (holds : Holds context fields) {next : StepResponse Json → Routine α} :
    (task.respond (context.map (·.path)) >>= next).Ends (task.files context ++ trace) result ↔
      (step (task.subject token document) fields >>= next).Ends trace result := by
  have client : client task.configuration = .done (.of task.configuration.apiUrl token) := by
    rw [Command.client, known]
    rfl
  rw [respond, client, Program.done_bind, files, List.cons_append, Program.bind_bind, ends_readJson_bind held]
  cases context with
  | none =>
    obtain rfl := holds
    rfl
  | some file =>
    rw [Option.map_some, Program.bind_bind]
    exact ends_readContext_bind holds

theorem makes_iff (known : task.configuration.apiToken = some token)
    (held : Json.ofText task.model.text = .ok document) {context : Option TextFile} {fields : Fields}
    (holds : Holds context fields) {invocation : Invocation} :
    task.Makes context invocation ↔
      (step (task.subject token document) fields).Ends invocation.asked (.ok invocation.response) := by
  rw [Makes, ← Program.bind_pure (task.respond _), ends_respond_bind known held holds, Program.bind_pure]

/-! ## Runs -/

theorem exists_calls {subject : Subject} {fields : Fields} {response : StepResponse Json}
    (ends : (step subject fields).Ends trace (.ok response)) :
    ∃ now fresh calls,
      (Registry.step subject.settings subject.family subject.operation fresh fields subject.model now).Ends calls
        (.ok response) := by
  obtain ⟨now, fresh, exchanges, _, asks, rfl, ⟨⟩⟩ := ends_step.mp ends
  obtain ⟨_, ⟨⟩, calls, responds⟩ := exists_ends_of_requestsOfStep asks
  exact ⟨now, fresh, calls, responds⟩

theorem ends_printResponse {response : StepResponse Json} {result : Except Failure Unit} :
    (printResponse response).Ends trace result ↔
      trace = [⟨.print (((StepResponse.shape .any).write response).pretty ++ "\n"), ()⟩] ∧ result = .ok () := by
  simp only [printResponse, Routine.printDocument, Routine.print, Routine.ask, Program.ask, Program.ends_call,
    Program.ends_done]
  constructor
  · rintro ⟨_, _, rfl, rfl, rfl⟩
    exact ⟨rfl, rfl⟩
  · rintro ⟨rfl, rfl⟩
    exact ⟨(), [], rfl, rfl, rfl⟩

/-- The verdict on the last of some steps does not depend on a step before that asks for another. -/
theorem verdict_cons {limit : Nat} {invocation : Invocation} (waits : invocation.response.status = .inProgress)
    (later : List Invocation) :
    task.verdict limit (invocation :: later).getLast? = task.verdict limit later.getLast? := by
  cases later with
  | nil => simp [verdict, waits]
  | cons => rw [List.getLast?_cons_cons]

/-- What remains of a run after the response to a step. -/
def goOn (subject : Subject) (limit left : Nat) (response : StepResponse Json) : Routine Unit :=
  match response.status with
  | .inProgress => do
    Program.info response.message
    Routine.ask (.pause (.ofSeconds (response.retryDelaySeconds.getD 0).toNat))
    steps subject limit left (response.continuationContext.getD [])
  | .success => do
    Program.info response.message
    printResponse response
  | .failed => do
    printResponse response
    .fail (.operationFailed subject.family subject.operation response.message)

/-- What a response leads to in a run: a run with one step less left, or the end. -/
def Ensues (subject : Subject) (limit left : Nat) (response : StepResponse Json) (after : Trace Host)
    (result : Except Failure Unit) : Prop :=
  match response.status with
  | .inProgress => (steps subject limit left (response.continuationContext.getD [])).Ends after result
  | .success => after = [] ∧ result = .ok ()
  | .failed => after = [] ∧ result = .error (.operationFailed subject.family subject.operation response.message)

/-- A run goes on after a pause, or ends after it has printed the response. -/
theorem ends_goOn {subject : Subject} {limit left : Nat} {invocation : Invocation} {result : Except Failure Unit} :
    (goOn subject limit left invocation.response).Ends trace result ↔
      ∃ after, trace = invocation.closing :: after ∧
        Ensues subject limit left invocation.response after result := by
  unfold goOn Ensues Invocation.closing Invocation.isTerminal
  cases status : invocation.response.status with
  | inProgress =>
    simp only [Program.info_bind, Program.ends_note, Routine.ask, Program.ask, Program.call_bind, Program.done_bind,
      Program.ends_call]
    constructor
    · rintro ⟨_, after, rfl, later⟩
      exact ⟨after, rfl, later⟩
    · rintro ⟨after, rfl, later⟩
      exact ⟨(), after, rfl, later⟩
  | success =>
    simp only [Program.info_bind, Program.ends_note, ends_printResponse]
    constructor
    · rintro ⟨rfl, rfl⟩
      exact ⟨[], rfl, rfl, rfl⟩
    · rintro ⟨_, rfl, rfl, rfl⟩
      exact ⟨rfl, rfl⟩
  | failed =>
    rw [Program.ends_bind]
    constructor
    · rintro (⟨_, printed, _⟩ | ⟨_, _, _, printed, ended, rfl⟩)
      · obtain ⟨_, ⟨⟩⟩ := ends_printResponse.mp printed
      · obtain ⟨rfl, _⟩ := ends_printResponse.mp printed
        obtain ⟨rfl, rfl⟩ := Program.ends_fail.mp ended
        exact ⟨[], rfl, rfl, rfl⟩
    · rintro ⟨_, rfl, rfl, rfl⟩
      exact .inr ⟨(), _, [], ends_printResponse.mpr ⟨rfl, rfl⟩, .fail _, rfl⟩

/-- Where steps are left, one is made, and the rest depends on its response. -/
theorem ends_steps_succ {subject : Subject} {limit left : Nat} {fields : Fields} {result : Except Failure Unit} :
    (steps subject limit (left + 1) fields).Ends trace result ↔
      ∃ invocation : Invocation, ∃ after, (step subject fields).Ends invocation.asked (.ok invocation.response) ∧
        trace = invocation.inRun ++ after ∧
        Ensues subject limit left invocation.response after result := by
  have unfolded : steps subject limit (left + 1) fields = step subject fields >>= goOn subject limit left := rfl
  rw [unfolded, Program.ends_bind]
  constructor
  · rintro (⟨_, failed, _⟩ | ⟨response, _, _, stepped, later, rfl⟩)
    · obtain ⟨_, _, _, _, _, _, ⟨⟩⟩ := ends_step.mp failed
    · obtain ⟨now, fresh, exchanges, _, _, rfl, ⟨⟩⟩ := ends_step.mp stepped
      let invocation : Invocation := ⟨now, fresh, exchanges, response⟩
      obtain ⟨after, rfl, rest⟩ := (@ends_goOn _ _ _ _ invocation _).mp later
      exact ⟨invocation, after, stepped, by simp [Invocation.inRun, invocation, Invocation.asked], rest⟩
  · rintro ⟨invocation, after, stepped, rfl, rest⟩
    rw [Invocation.inRun, List.append_assoc]
    exact .inr ⟨invocation.response, invocation.asked, _, stepped, ends_goOn.mpr ⟨after, rfl, rest⟩, rfl⟩

/-- A terminal response ends a run as the verdict on it says. -/
theorem ensues_of_terminal {limit left : Nat} {invocation : Invocation} (terminal : invocation.isTerminal = true)
    {after : Trace Host} {result : Except Failure Unit} :
    Ensues (task.subject token document) limit left invocation.response after result ↔
      after = [] ∧ result = task.verdict limit (some invocation) := by
  cases status : invocation.response.status with
  | inProgress => simp [Invocation.isTerminal, status] at terminal
  | success | failed => simp [Ensues, verdict, status, subject]

/-- The steps that a run makes are those for which the program can be invoked one after the other. -/
theorem ends_steps_iff (known : task.configuration.apiToken = some token)
    (held : Json.ofText task.model.text = .ok document) {limit left : Nat} {context : Option TextFile} {fields : Fields}
    (holds : Holds context fields) {result : Except Failure Unit} :
    (steps (task.subject token document) limit left fields).Ends trace result ↔
      ∃ invocations, task.Iterated left context invocations ∧ trace = invocations.flatMap Invocation.inRun ∧
        result = task.verdict limit invocations.getLast? := by
  -- From step to step the context changes, and with it the file that holds it.
  induction left generalizing trace context fields with
  | zero =>
    rw [steps, Program.ends_fail]
    constructor
    · rintro ⟨rfl, rfl⟩
      exact ⟨[], .spent context, rfl, rfl⟩
    · rintro ⟨_, ⟨⟩, rfl, rfl⟩
      exact ⟨rfl, rfl⟩
  | succ left ih =>
    rw [ends_steps_succ]
    constructor
    · rintro ⟨invocation, after, stepped, rfl, rest⟩
      have makes : task.Makes context invocation := (makes_iff known held holds).mpr stepped
      cases terminal : invocation.isTerminal with
      | true =>
        obtain ⟨rfl, rfl⟩ := (ensues_of_terminal terminal).mp rest
        exact ⟨[invocation], .ended makes terminal, by rw [List.flatMap_singleton, List.append_nil], rfl⟩
      | false =>
        have waits := Invocation.isTerminal_eq_false.mp terminal
        obtain ⟨now, fresh, calls, responds⟩ := exists_calls stepped
        obtain ⟨returned, returns⟩ := Registry.exists_returned_of_inProgress responds waits
        -- Any file will do that holds the context, and its own text is one that does.
        have kept : Holds (some ⟨"context.json", (Json.object returned).text⟩) returned :=
          Registry.ofText_returned responds returns
        simp only [Ensues, waits, returns, Option.getD_some] at rest
        obtain ⟨invocations, iterated, rfl, rfl⟩ := (ih kept).mp rest
        exact ⟨invocation :: invocations, .goesOn makes waits returns kept iterated, by rw [List.flatMap_cons],
          (verdict_cons waits invocations).symm⟩
    · rintro ⟨_, iterated, rfl, rfl⟩
      cases iterated with
      | @ended _ _ invocation makes terminal =>
        exact ⟨invocation, [], (makes_iff known held holds).mp makes,
          by rw [List.flatMap_singleton, List.append_nil], (ensues_of_terminal terminal).mpr ⟨rfl, rfl⟩⟩
      | @goesOn _ _ invocation returned file later makes waits returns kept rest =>
        refine ⟨invocation, later.flatMap Invocation.inRun, (makes_iff known held holds).mp makes,
          by rw [List.flatMap_cons], ?_⟩
        simp only [Ensues, waits, returns, Option.getD_some]
        exact (ih kept).mpr ⟨later, rest, rfl, verdict_cons waits later⟩

/-! ## Both ways -/

theorem Iterated.length_le {left : Nat} {context : Option TextFile} {invocations : List Invocation}
    (iterated : task.Iterated left context invocations) : invocations.length ≤ left := by
  induction iterated with
  | spent => exact Nat.le_refl _
  | ended => exact Nat.le_add_left _ _
  | goesOn _ _ _ _ _ ih => exact Nat.succ_le_succ ih

/-- Of the responses to steps made one after the other only the last can be terminal, and a run prints no other. -/
theorem Iterated.prints {left : Nat} {context : Option TextFile} {invocations : List Invocation}
    (iterated : task.Iterated left context invocations) :
    (invocations.flatMap Invocation.inRun).filter isPrint =
      (invocations.getLast?.filter Invocation.isTerminal).toList.map Invocation.printed := by
  induction iterated with
  | spent => rfl
  | ended makes terminal =>
    rw [List.flatMap_singleton, Invocation.prints_inRun, if_pos terminal, List.getLast?_singleton,
      Option.filter_some_pos terminal]
    rfl
  | @goesOn _ _ invocation _ _ later makes waits returns kept rest ih =>
    have running : invocation.isTerminal = false := Invocation.isTerminal_eq_false.mpr waits
    rw [List.flatMap_cons, List.filter_append, Invocation.prints_inRun, if_neg (by simp [running]), List.nil_append, ih]
    cases later with
    | nil => simp [running]
    | cons => rw [List.getLast?_cons_cons]

theorem verdict_eq_ok {limit : Nat} {last : Option Invocation} :
    task.verdict limit last = .ok () ↔ ∃ invocation ∈ last, invocation.response.status = .success := by
  cases last with
  | none => simp [verdict]
  | some invocation => cases status : invocation.response.status <;> simp [verdict, status]

/-- An invocation of the program for one step makes it and prints its response. -/
theorem ends_perform_step (known : task.configuration.apiToken = some token)
    (held : Json.ofText task.model.text = .ok document) {context : Option TextFile} {fields : Fields}
    (holds : Holds context fields) {result : Except Failure Unit} :
    (perform task.configuration (.step task.family task.operation task.model.path (context.map (·.path)))).Ends
        (task.files context ++ trace) result ↔
      ∃ invocation, task.Makes context invocation ∧ trace = invocation.asked ++ [invocation.printed] ∧
        result = .ok () := by
  rw [perform_step, ends_respond_bind known held holds, Program.ends_bind]
  constructor
  · rintro (⟨_, failed, _⟩ | ⟨response, _, _, stepped, printed, rfl⟩)
    · obtain ⟨_, _, _, _, _, _, ⟨⟩⟩ := ends_step.mp failed
    · obtain ⟨now, fresh, exchanges, _, _, rfl, ⟨⟩⟩ := ends_step.mp stepped
      obtain ⟨rfl, rfl⟩ := ends_printResponse.mp printed
      exact ⟨⟨now, fresh, exchanges, response⟩, (makes_iff known held holds).mpr stepped, rfl, rfl⟩
  · rintro ⟨invocation, makes, rfl, rfl⟩
    exact .inr ⟨invocation.response, invocation.asked, _, (makes_iff known held holds).mp makes,
      ends_printResponse.mpr ⟨rfl, rfl⟩, rfl⟩

/-- A context that an invocation returns is held by any file with its text. -/
theorem Makes.holds (known : task.configuration.apiToken = some token)
    (held : Json.ofText task.model.text = .ok document) {context : Option TextFile} {fields returned : Fields}
    (holds : Holds context fields) {invocation : Invocation} (makes : task.Makes context invocation)
    (returns : invocation.response.continuationContext = some returned) (path : String) :
    Holds (some ⟨path, (Json.object returned).text⟩) returned := by
  obtain ⟨now, fresh, calls, responds⟩ := exists_calls ((makes_iff known held holds).mp makes)
  exact Registry.ofText_returned responds returns

/-- A run is a step made again and again. With a token and a model file that holds a document, a run of at most `limit`
steps makes those steps for which the program can be invoked one after the other, each on the context that the one
before it returned and that a file holds, until one does not ask for another or `limit` are made: it reads the same
times and ids and sends the same requests, and its last response decides how it ends. So it makes at most `limit` steps,
succeeds just if the last response does, and prints that response just if it is terminal, and nothing else. Every such
invocation for one step makes that step and prints its response, and a file with the text of the context that it
returns holds that context. -/
theorem run_iterates_step (task : Task) {token : String} (known : task.configuration.apiToken = some token)
    {document : Json} (held : Json.ofText task.model.text = .ok document) (limit : Nat) :
    (∀ trace result,
      (perform task.configuration (.run task.family task.operation task.model.path limit)).Ends
          (task.model.read :: trace) result ↔
        ∃ invocations, task.Iterated limit none invocations ∧ trace = invocations.flatMap Invocation.inRun ∧
          result = task.verdict limit invocations.getLast?) ∧
    (∀ invocations, task.Iterated limit none invocations →
      invocations.length ≤ limit ∧
      (task.verdict limit invocations.getLast? = .ok () ↔
        ∃ last ∈ invocations.getLast?, last.response.status = .success) ∧
      (invocations.flatMap Invocation.inRun).filterMap exchange? = invocations.flatMap Invocation.exchanges ∧
      (invocations.flatMap Invocation.inRun).filter isPrint =
        (invocations.getLast?.filter Invocation.isTerminal).toList.map Invocation.printed) ∧
    ∀ context fields, Holds context fields →
      (∀ trace result,
        (perform task.configuration (.step task.family task.operation task.model.path (context.map (·.path)))).Ends
            (task.files context ++ trace) result ↔
          ∃ invocation, task.Makes context invocation ∧ trace = invocation.asked ++ [invocation.printed] ∧
            result = .ok ()) ∧
      ∀ invocation returned, task.Makes context invocation →
        invocation.response.continuationContext = some returned →
        ∀ path, Holds (some ⟨path, (Json.object returned).text⟩) returned := by
  refine ⟨fun trace result => ?_, fun invocations iterated => ?_, fun context fields holds => ⟨?_, ?_⟩⟩
  · have client : client task.configuration = .done (.of task.configuration.apiUrl token) := by
      rw [Command.client, known]
      rfl
    rw [perform, client, Program.done_bind, ends_readJson_bind held]
    exact ends_steps_iff known held (show Holds none [] from rfl)
  · refine ⟨iterated.length_le, verdict_eq_ok, ?_, iterated.prints⟩
    rw [List.filterMap_flatMap]
    exact congrArg (fun f => invocations.flatMap f) (funext Invocation.exchanges_inRun)
  · intro trace result
    exact ends_perform_step known held holds
  · intro invocation returned makes returns path
    exact makes.holds known held holds returns path

/-- The model of an export job that is to be deleted. -/
def exportModel : Json :=
  .object [("clusterName", .string "c"), ("exportId", .string "e"), ("projectId", .string "p")]

/-- To delete that job, which is to wait until it is over. -/
def exportDeletion : Task where
  configuration :=
    { apiUrl := "http://localhost"
      apiToken := some "token"
      pollDelay := none
      fallbackTimeout := .ofSeconds 60
      logDirectory := none }
  family := "export-job"
  operation := .delete
  model := ⟨"model.json", exportModel.text⟩

theorem ofText_exportModel : Json.ofText exportDeletion.model.text = .ok exportModel :=
  Json.ofText_text (by unfold Fields.IsMap; decide) fun field member => by
    simp only [List.mem_cons, List.not_mem_nil, or_false] at member
    rcases member with rfl | rfl | rfl <;> exact .string _

/-- When the deletion is made. -/
def epoch : Instant := ⟨0, ⟨0, by decide⟩, ⟨0, by decide⟩⟩

/-- What a step of the deletion comes to if every request gets the same reply. -/
def replied (reply : Http.Reply) (fields : Fields) : Except Failure (StepResponse Json) :=
  (((requestsOfStep (exportDeletion.subject "token" exportModel) fields epoch .nil).run
    (fun _ => (pure reply : StateM Unit Http.Reply)) fun _ => pure ()).run ()).1

theorem exists_makes {context : Option TextFile} {fields : Fields} (holds : Holds context fields)
    (reply : Http.Reply) :
    ∃ invocation, exportDeletion.Makes context invocation ∧ replied reply fields = .ok invocation.response := by
  obtain ⟨exchanges, ends⟩ := Program.exists_ends_of_run (fun _ => (pure reply : StateM Unit Http.Reply))
    (fun _ => pure ()) (requestsOfStep (exportDeletion.subject "token" exportModel) fields epoch .nil) ()
  obtain ⟨response, result, _⟩ := exists_ends_of_requestsOfStep ends
  rw [result] at ends
  let invocation : Invocation := ⟨epoch, .nil, exchanges, response⟩
  exact ⟨invocation, (makes_iff rfl ofText_exportModel holds).mpr
    (ends_step.mpr ⟨_, _, _, _, ends, rfl, rfl⟩), result⟩

/-- The job is in the queue. -/
def inQueue : Http.Reply :=
  .answered 200 "\x7b\"id\":\"e\",\"state\":\"Queued\"\x7d"

/-- A job that is in the queue is waited for, and one that is gone is no longer. -/
theorem replied_queued_gone :
    (replied inQueue []).toOption.bind (fun queued =>
      queued.continuationContext.bind fun returned =>
        (replied (.answered 404 "") returned).toOption.map fun gone => (queued.status, gone.status)) =
      some (.inProgress, .success) := by
  decide +kernel

/-- The job is in the queue at first, and then it is gone: a run of at most three steps makes two, and succeeds. -/
theorem run_exportDeletion :
    ∃ queued gone : Invocation, queued.response.status = .inProgress ∧ gone.response.status = .success ∧
      (perform exportDeletion.configuration (.run "export-job" .delete "model.json" 3)).Ends
        (exportDeletion.model.read :: (queued.inRun ++ gone.inRun)) (.ok ()) := by
  have start : Holds none [] := rfl
  obtain ⟨queued, first, waiting⟩ := exists_makes start inQueue
  have statuses := replied_queued_gone
  rw [waiting, Except.toOption, Option.bind_some] at statuses
  obtain ⟨returned, returns, statuses⟩ := Option.bind_eq_some_iff.mp statuses
  have kept := first.holds rfl ofText_exportModel start returns "context.json"
  obtain ⟨gone, second, ended⟩ := exists_makes kept (.answered 404 "")
  rw [ended, Except.toOption, Option.map_some] at statuses
  obtain ⟨waits, succeeds⟩ := Prod.mk.inj (Option.some.inj statuses)
  have terminal : gone.isTerminal = true := by simp [Invocation.isTerminal, succeeds]
  have iterated : exportDeletion.Iterated 3 none [queued, gone] :=
    .goesOn first waits returns kept (.ended second terminal)
  refine ⟨queued, gone, waits, succeeds, ?_⟩
  refine ((run_iterates_step exportDeletion rfl ofText_exportModel 3).1 _ _).mpr ⟨_, iterated, ?_, ?_⟩
  · rw [List.flatMap_cons, List.flatMap_singleton]
  · simp [verdict, succeeds]

end Task
end Provisioner.Command
