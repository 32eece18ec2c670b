/-!
# Events

What a program reports while it runs, for whoever watches it.
-/
namespace Provisioner

/-- How much an event matters. -/
inductive Level where
  | debug
  | info
  | warn
  | error
  deriving DecidableEq, Repr

/-- Something worth a line in a log. -/
structure Event where
  level : Level
  message : String
  deriving DecidableEq, Repr

/-- The name of a level in a log. -/
def Level.name : Level → String
  | debug => "DEBUG"
  | info => "INFO"
  | warn => "WARN"
  | error => "ERROR"

end Provisioner
