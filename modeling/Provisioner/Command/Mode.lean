import Provisioner.Command.Help

/-!
# Modes

What the program can be told to do: one step of an operation, steps until the operation ends, a look at one
resource or at all of them, and a look at its own configuration.
-/
namespace Provisioner.Command

/-- What the program is told to do. -/
inductive Mode where
  | step (family : String) (operation : Operation) (model : String) (context : Option String)
  | run (family : String) (operation : Operation) (model : String) (maxSteps : Nat)
  | read (family model : String)
  | list (family model output : String)
  | config
  deriving DecidableEq, Repr

/-- The families, as usage texts list them. -/
def familyAbout : String :=
  "Resource family (" ++ String.intercalate ", " (Tagged.tags Family) ++ ")"

/-- The operations, as usage texts list them. -/
def operationAbout : String :=
  "Operation (" ++ String.intercalate ", " (Tagged.tags Operation) ++ ")"

/-- The positional values of a verb that works on an operation. -/
def operationValues : List Positional :=
  [{ placeholder := "FAMILY", about := familyAbout },
    { placeholder := "OPERATION", about := operationAbout, kind := .operation }]

/-- The option that names the file of the model. -/
def modelOption (about : String) : OptionSpec :=
  { name := "model", short := some 'm', about }

/-- Runs one step. -/
def stepRoute : Route Mode where
  verb := {
    name := "step"
    about := "Perform exactly one step of an operation and print the response"
    positionals := operationValues
    options :=
      [modelOption "Path to the resource model JSON",
        { name := "context", short := some 'c', absent := .allowed
          about := "Path to the continuation context returned by the previous step" }] }
  ask?
    | { positionals := [family, operation], options } => do
      return .step family (← Operation.ofTag? operation) (← options.lookup "model") (options.lookup "context")
    | _ => none

/-- Runs steps to the end. -/
def runRoute : Route Mode where
  verb := {
    name := "run"
    about := "Step repeatedly until the operation reaches a terminal outcome"
    positionals := operationValues
    options :=
      [modelOption "Path to the resource model JSON",
        { name := "max-steps", kind := .count, absent := .default "500", about := "Give up after this many steps" }] }
  ask?
    | { positionals := [family, operation], options } => do
      let maxSteps ← (Unsigned.parse (← options.lookup "max-steps").toList).toOption
      return .run family (← Operation.ofTag? operation) (← options.lookup "model") maxSteps
    | _ => none

/-- Looks at one resource. -/
def readRoute : Route Mode where
  verb := {
    name := "read"
    about := "Read the current state of one resource"
    positionals := [{ placeholder := "FAMILY" }]
    options := [modelOption "Path to the resource model JSON"] }
  ask?
    | { positionals := [family], options } => do return .read family (← options.lookup "model")
    | _ => none

/-- Looks at all resources. -/
def listRoute : Route Mode where
  verb := {
    name := "list"
    about := "List resources under the parent named in the model"
    positionals := [{ placeholder := "FAMILY" }]
    options :=
      [modelOption "Path to a model JSON naming the parent (projectId, workspaceName, clusterName)",
        { name := "output", short := some 'o', kind := .text, absent := .default "table", about := "Output format" }] }
  ask?
    | { positionals := [family], options } => do
      return .list family (← options.lookup "model") (← options.lookup "output")
    | _ => none

/-- Looks at the configuration. -/
def configRoute : Route Mode where
  verb := { name := "config", about := "Show the effective configuration" }
  ask? _ := some .config

/-- Everything that a command line can ask for. -/
def routes : List (Route Mode) := [stepRoute, runRoute, readRoute, listRoute, configRoute]

/-- What the program says about itself. -/
def manual : Manual where
  name := "cloudstep"
  package := "cloudstep-cli"
  version := "0.1.0"
  about := "Cloudstep - resumable provisioning for cloud database resources"
  verbs := routes.map (·.verb)

/-- The mode that a command line asks for. -/
def Mode.parse (words : List String) : Except Interruption Mode :=
  readLine routes words

end Provisioner.Command
