import Provisioner.Context
import Provisioner.Event

/-!
# Time budgets

An operation with a time budget is over time as soon as the time since its start reaches the budget. A budget
that is no duration counts as the fallback.
-/
namespace Provisioner.Budget

/-- The duration that a budget spells, or the fallback. -/
def ofText (fallback : Duration) (text : String) : Duration :=
  match Duration.parse text with
  | .ok budget => budget
  | .error _ => fallback

/-- What an operator should know about a budget that is no duration. -/
def warning? (text : String) : Option Event :=
  match Duration.parse text with
  | .ok _ => none
  | .error error => some ⟨.warn, s!"Unparseable timeout, using fallback: {error.message}"⟩

/-- How long an operation took that is over time, and what time it had. -/
structure Exceeded where
  elapsed : Duration
  budget : Duration
  deriving DecidableEq, Repr

/-- By what an operation is over time, if it is. -/
def exceeded? (fallback : Duration) (timing : Timing) (now : Instant) : Option Exceeded :=
  timing.timeout.bind fun text =>
    let budget := ofText fallback text
    let elapsed := now.since timing.startedAt
    if budget.nanoseconds ≤ elapsed.nanoseconds then some { elapsed, budget } else none

end Provisioner.Budget
