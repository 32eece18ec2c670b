import Provisioner.Command.Host
import Provisioner.Command.Mode
import Provisioner.Registry

/-!
# Running a command line

What the program does in each of its modes. A single step takes the context of the step before it from a file
and prints a response that holds the next one; `run` hands the context from step to step itself, and waits
between steps as each response says.
-/
namespace Provisioner.Command
open Routine

/-! ## Files -/

/-- The document in a file. -/
def readJson (path : String) : Routine Json := do
  match ← ask (.fileText path) with
  | .error error => .fail (.unreadable path error)
  | .ok text =>
    match Json.ofText text with
    | .error error => .fail (.notJson path error)
    | .ok document => return document

/-- The context in a file; `null` is the empty one. -/
def readContext (path : String) : Routine Fields := do
  match ← readJson path with
  | .object fields => return fields
  | .null => return []
  | other => .fail (.notContext path other)

/-- The client that a configuration describes. -/
def client (configuration : Configuration) : Routine Client :=
  match configuration.apiToken with
  | none => .fail .noToken
  | some token => return .of configuration.apiUrl token

/-! ## Steps -/

/-- What a step is about. -/
structure Subject where
  settings : Settings
  client : Client
  family : String
  operation : Operation
  model : Json

/-- Prints a response, whose fields stand in their own order. -/
def printResponse (response : StepResponse Json) : Routine Unit :=
  printDocument ((StepResponse.shape .any).write response)

/-- One step of an operation. -/
def step (subject : Subject) (context : Fields) : Routine (StepResponse Json) := do
  let now ← ask .now
  let fresh ← ask .freshId
  through subject.client
    (Registry.step subject.settings subject.family subject.operation fresh context subject.model now).widen

/-- Steps from a context on, of which at most `left` are made, until the operation ends. -/
def steps (subject : Subject) (limit : Nat) : (left : Nat) → (context : Fields) → Routine Unit
  | 0, _ => .fail (.operationUnfinished subject.family subject.operation limit)
  | left + 1, context => do
    let response ← step subject context
    match response.status with
    | .inProgress =>
      Program.info response.message
      ask (.pause (.ofSeconds (response.retryDelaySeconds.getD 0).toNat))
      steps subject limit left (response.continuationContext.getD [])
    | .success =>
      Program.info response.message
      printResponse response
    | .failed =>
      printResponse response
      .fail (.operationFailed subject.family subject.operation response.message)

/-! ## Looks at resources -/

/-- The first text that a resource has under one of some keys, or a hyphen. -/
def firstText (resource : Json) (keys : List String) : String :=
  (keys.findSome? fun key => (resource.field? key).bind Json.string?).getD "-"

/-- A row of the table of resources. -/
def tableRow (name id state : String) : String :=
  padTo 30 name ++ " " ++ padTo 28 id ++ " " ++ padTo 20 state ++ "\n"

/-- The table of some resources. -/
def table (resources : List Json) : String :=
  let rows := resources.map fun resource =>
    tableRow (firstText resource ["name", "processorName", "endpointServiceName", "exportId"])
      (firstText resource ["id", "exportId"]) (firstText resource ["stateName", "state", "status"])
  tableRow "NAME" "ID" "STATE" ++ String.ofList (List.replicate 80 '-') ++ "\n" ++ String.join rows ++
    s!"\n{resources.length} resource(s) found\n"

/-- A program that ends in an error of provisioning, with that as the failure. -/
def provisioned {α : Type} (client : Client) (action : Action α) : Routine α :=
  through client (action.mapError Failure.provision)

/-! ## Modes -/

/-- Does what the program is told to do. -/
def perform (configuration : Configuration) : Mode → Routine Unit
  | .step family operation model context => do
    let client ← client configuration
    let model ← readJson model
    let context ← match context with
      | some path => readContext path
      | none => pure []
    let response ← step { settings := configuration.settings, client, family, operation, model } context
    printResponse response
  | .run family operation model maxSteps => do
    let client ← client configuration
    let model ← readJson model
    steps { settings := configuration.settings, client, family, operation, model } maxSteps maxSteps []
  | .read family model => do
    let client ← client configuration
    let model ← readJson model
    let resource ← provisioned client (Registry.read configuration.settings family model)
    printDocument resource
  | .list family model output => do
    let client ← client configuration
    let model ← readJson model
    let resources ← provisioned client (Registry.list configuration.settings family model)
    if output = "json" then printDocument (.array resources)
    else print (table resources)
  | .config => print configuration.text

/-- The configuration that an environment sets together with the file that adds to it. -/
def configure (environment : Environment) : Routine Configuration := do
  let environment ←
    match ← ask .environmentFile with
    | some text => pure (EnvFile.load environment text)
    | none => pure environment
  match Configuration.load environment with
  | .error error => .fail (.configuration error)
  | .ok configuration => return configuration

/-- What the program does for a command line in an environment. -/
def run (words : List String) (environment : Environment) : Routine Unit := do
  match Mode.parse words with
  | .error (.misused error) => .fail (.usage error)
  | .error (.help topic) => print (manual.explain topic)
  | .error .version => print manual.versionText
  | .ok mode =>
    let configuration ← configure environment
    if let some directory := configuration.logDirectory then
      match ← ask (.openLog directory) with
      | .error error => .fail (.log error)
      | .ok () => pure ()
    perform configuration mode

end Provisioner.Command
