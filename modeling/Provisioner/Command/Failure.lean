import Provisioner.Command.Arguments
import Provisioner.Command.Configuration
import Provisioner.Error

/-!
# Failures

Why the program ends without having done what it was told to do, how it says so, and with what status.
-/
namespace Provisioner.Command

/-- Why a file cannot be used. -/
inductive FileError where
  | missing
  | denied
  | taken
  | notDirectory
  | isDirectory
  | notText
  | other (reason : String)
  deriving DecidableEq, Repr

/-- The wording of an unusable file. -/
def FileError.message : FileError → String
  | missing => "No such file or directory (os error 2)"
  | denied => "Permission denied (os error 13)"
  | taken => "File exists (os error 17)"
  | notDirectory => "Not a directory (os error 20)"
  | isDirectory => "Is a directory (os error 21)"
  | notText => "stream did not contain valid UTF-8"
  | other reason => reason

/-- Why the program fails. -/
inductive Failure where
  | usage (error : UsageError)
  | configuration (error : ConfigurationError)
  | log (error : FileError)
  | noToken
  | unreadable (path : String) (error : FileError)
  | notJson (path : String) (error : SyntaxError)
  | notContext (path : String) (found : Json)
  | provision (error : ProvisionError)
  /-- The operation failed, as a step says. -/
  | operationFailed (family : String) (operation : Operation) (message : String)
  /-- The operation did not end within the steps it was given. -/
  | operationUnfinished (family : String) (operation : Operation) (steps : Nat)

namespace Failure

/-- What the program says first. -/
def message : Failure → String
  | usage error => error.message
  | configuration error => error.message
  | log error => error.message
  | noToken => "CLOUDSTEP_API_TOKEN must be set"
  | unreadable path _ => s!"Failed to read {path}"
  | notJson path _ => s!"{path} is not valid JSON"
  | notContext path found => s!"{path} must hold a JSON object, found {found.text}"
  | provision error => error.message
  | operationFailed family operation message => s!"{family} {operation.tag} failed: {message}"
  | operationUnfinished family operation steps => s!"{family} {operation.tag} still in progress after {steps} steps"

/-- What lies behind a failure, if there is more to say. -/
def cause? : Failure → Option String
  | configuration error => some error.cause
  | unreadable _ error => some error.message
  | notJson _ error => some error.message
  | _ => none

/-- The lines of a text, each indented. -/
def indented (text : String) : String :=
  "    " ++ String.intercalate "\n    " (text.splitOn "\n")

/-- What the program says about a failure. -/
def report (failure : Failure) : String :=
  "Error: " ++ failure.message ++
    match failure.cause? with
    | some cause => "\n\nCaused by:\n" ++ indented cause
    | none => ""

/-- The status that the program ends with. -/
def exitCode : Failure → UInt8
  | usage _ => 2
  | _ => 1

end Failure

end Provisioner.Command
