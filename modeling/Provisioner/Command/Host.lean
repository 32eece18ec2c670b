import Provisioner.Command.Failure
import Provisioner.Http.ControlPlane
import Provisioner.Time.Instant

/-!
# The host

What the program asks of the machine it runs on.
-/
namespace Provisioner.Command

/-- What the program can ask for. -/
inductive HostCall where
  | send (request : Http.Request)
  /-- The text of the file with further variables, if there is one. -/
  | environmentFile
  | fileText (path : String)
  /-- Begins a log in a directory, which is made if need be. -/
  | openLog (directory : String)
  | now
  | freshId
  | pause (time : Duration)
  | print (text : String)
  deriving Repr

/-- What each thing asked for is answered with. -/
abbrev HostCall.Answer : HostCall → Type
  | send _ => Http.Reply
  | environmentFile => Option String
  | fileText _ => Except FileError String
  | openLog _ => Except FileError Unit
  | now => Instant
  | freshId => OperationId
  | pause _ => Unit
  | print _ => Unit

/-- The machine that the program runs on. -/
abbrev Host : Interface where
  Call := HostCall
  Answer := HostCall.Answer

/-- What the program does, or a part of it. -/
abbrev Routine := Program Host Failure

namespace Routine

/-- Asks the host. -/
def ask (c : HostCall) : Routine c.Answer :=
  Program.ask (ι := Host) c

/-- Prints a text. -/
def print (text : String) : Routine Unit :=
  ask (.print text)

/-- Prints a document over several lines. -/
def printDocument (document : Json) : Routine Unit :=
  print (document.pretty ++ "\n")

/-- The answer to a call of a step. No network provider can be reached from here. -/
def answer (client : Client) : (c : Call) → Routine (Except GatewayError c.Result)
  | .control c => (ControlPlane.perform client c).interpret fun request => ask (.send request)
  | .network _ => return .error .noNetworkProvider

/-- A program whose calls go to a control plane. -/
def through {α : Type} (client : Client) (program : Program Gateway Failure α) : Routine α :=
  program.interpret (answer client)

end Routine

end Provisioner.Command
