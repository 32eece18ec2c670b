import Provisioner.Command.Environment
import Provisioner.Number.Unsigned
import Provisioner.Settings

/-!
# Configuration

What the environment of the program sets: where the control plane is and how to enter, how long to wait, and
where to keep a log.
-/
namespace Provisioner.Command

/-- What the environment sets. -/
structure Configuration where
  apiUrl : String
  apiToken : Option String
  /-- The wait between two steps, in place of that of each family. -/
  pollDelay : Option Duration
  fallbackTimeout : Duration
  logDirectory : Option String
  deriving DecidableEq, Repr

/-- Which variable has a value that cannot be used. -/
inductive ConfigurationError where
  | pollDelay (cause : UnsignedError)
  | fallbackTimeout (text : String) (cause : DurationError)
  deriving DecidableEq, Repr

namespace ConfigurationError

/-- The wording of a value that cannot be used. -/
def message : ConfigurationError → String
  | pollDelay _ => "CLOUDSTEP_POLL_DELAY_SECS must be a whole number of seconds"
  | fallbackTimeout text _ => s!"CLOUDSTEP_FALLBACK_TIMEOUT is not a duration: {text}"

/-- The wording of what is wrong with the value. -/
def cause : ConfigurationError → String
  | pollDelay cause => cause.message
  | fallbackTimeout _ cause => cause.message

end ConfigurationError

namespace Configuration

/-- The control plane that is used when the environment names none. -/
def defaultUrl : String := "https://cloud.mongodb.com"

/-- The configuration that an environment sets. -/
def load (environment : Environment) : Except ConfigurationError Configuration := do
  let pollDelay ←
    match environment "CLOUDSTEP_POLL_DELAY_SECS" with
    | none => .ok none
    | some text =>
      ((Unsigned.parse text.toList).map fun n => some (Duration.ofSeconds n)).mapError ConfigurationError.pollDelay
  let fallbackTimeout ←
    match environment "CLOUDSTEP_FALLBACK_TIMEOUT" with
    | none => .ok StepSettings.defaultFallbackTimeout
    | some text => (Duration.parse text).mapError (ConfigurationError.fallbackTimeout text)
  return {
    apiUrl := (environment "CLOUDSTEP_API_URL").getD defaultUrl
    apiToken := environment "CLOUDSTEP_API_TOKEN"
    pollDelay
    fallbackTimeout
    logDirectory := environment "CLOUDSTEP_LOG_DIR" }

/-- The settings of all operations. -/
def settings (configuration : Configuration) : Settings :=
  { delays := (configuration.pollDelay.map PollDelays.uniform).getD {}
    fallbackTimeout := configuration.fallbackTimeout }

/-- The configuration as it is shown; the token itself is not. -/
def text (configuration : Configuration) : String :=
  let settings := configuration.settings
  let seconds (d : Duration) : String := s!"{d.seconds}s\n"
  "Cloudstep Configuration\n" ++
    String.ofList (List.replicate 50 '=') ++ "\n" ++
    s!"API URL:            {configuration.apiUrl}\n" ++
    "API token:          " ++ (if configuration.apiToken.isSome then "set\n" else "not set\n") ++
    "Network gateway:    disabled (build with --features aws)\n" ++
    "Log directory:      " ++ configuration.logDirectory.getD "(stderr only)" ++ "\n" ++
    "\n" ++
    "Poll delays\n" ++
    "  cluster:          " ++ seconds settings.delays.cluster ++
    "  stream-processor: " ++ seconds settings.delays.streamProcessor ++
    "  private-endpoint: " ++ seconds settings.delays.privateEndpoint ++
    "  export-job:       " ++ seconds settings.delays.exportJob ++
    "Fallback timeout:   " ++ seconds settings.fallbackTimeout ++
    s!"Stream processor create timeout: {settings.createTimeout}\n"

end Configuration

end Provisioner.Command
