import Provisioner.Lifecycle.Step
import Provisioner.Resource.Label

/-!
# Settings

How long to wait between the steps of each family, and what the lifecycles need to know beside their models.
-/
namespace Provisioner

/-- The wait between two steps, for each family. -/
structure PollDelays where
  cluster : Duration := .ofSeconds 60
  streamProcessor : Duration := .ofSeconds 3
  privateEndpoint : Duration := .ofSeconds 10
  exportJob : Duration := .ofSeconds 35
  deriving DecidableEq, Repr

namespace PollDelays

/-- The same wait for all families. -/
def uniform (delay : Duration) : PollDelays :=
  { cluster := delay, streamProcessor := delay, privateEndpoint := delay, exportJob := delay }

/-- The wait of a family. -/
def of (delays : PollDelays) : Family → Duration
  | .cluster => delays.cluster
  | .streamProcessor => delays.streamProcessor
  | .privateEndpoint => delays.privateEndpoint
  | .exportJob => delays.exportJob

end PollDelays

/-- Everything that is set once for all operations. -/
structure Settings where
  delays : PollDelays := {}
  /-- The budget in place of one that is no duration. -/
  fallbackTimeout : Duration := StepSettings.defaultFallbackTimeout
  /-- The label that clusters get beside those of the caller. -/
  reservedLabel : Label := { key := "Infrastructure Tool", value := "cloudstep" }
  /-- The budget for creating a stream processor whose model gives none. -/
  createTimeout : String := "20m"
  /-- The state of an export job that is complete. -/
  completionState : String := "Successful"
  deriving DecidableEq, Repr

namespace Settings

/-- The settings of the steps of a family. -/
def step (settings : Settings) (family : Family) : StepSettings :=
  { StepSettings.ofDelay (settings.delays.of family) with fallbackTimeout := settings.fallbackTimeout }

end Settings

end Provisioner
