import MissionControl.Time.Duration
/-!
# What a command run ends with

A command ends with an exit code and what it wrote to its standard output and error, and
takes some time to get there: how long it spends waiting, or forever when it only stops once
it is told to.
-/

namespace MissionControl

namespace Cli

/-- How a command run ended. -/
structure Outcome where
  code : Nat
  stdout : String := ""
  stderr : String := ""
  span : Span := .within ⟨0⟩
  deriving Inhabited

end Cli

end MissionControl
