import MissionControl.Text.Blank
import MissionControl.Text.Case

/-!
# Log levels

The levels of the logger, from the most verbose: trace, debug, info, warn, error, fatal and
panic; then the absence of a level and the level that disables logging. Each has a number,
-1 for trace up to 5 for panic, 6 for no level and 7 for disabled.

A level is read from a word after trimming white space and lower-casing: `trace` or
`diagnostics`, `debug`, `info`, `warn` or `warning`, `error`, and `disabled`, `disable`, `off`,
`none` or `inactive`. Any other word, the empty one included, is not a level and reads as
info.
-/

namespace MissionControl

/-- A logger level. -/
inductive Level where
  | trace | debug | info | warn | error | fatal | panic | noLevel | disabled
  deriving BEq, DecidableEq, Repr, Inhabited

namespace Level

/-- The number of a level. -/
def number : Level → Int
  | .trace => -1 | .debug => 0 | .info => 1 | .warn => 2 | .error => 3 | .fatal => 4
  | .panic => 5 | .noLevel => 6 | .disabled => 7

/-- The name of a level; the absent level has the empty name. -/
def name : Level → String
  | .trace => "trace" | .debug => "debug" | .info => "info" | .warn => "warn"
  | .error => "error" | .fatal => "fatal" | .panic => "panic" | .noLevel => ""
  | .disabled => "disabled"

/-- The level a configuration word names. -/
def ofWord? (raw : String) : Option Level :=
  let w := Text.lowerAscii (Text.trim raw)
  if w = "trace" || w = "diagnostics" then some .trace
  else if w = "debug" then some .debug
  else if w = "info" then some .info
  else if w = "warn" || w = "warning" then some .warn
  else if w = "error" then some .error
  else if w = "disabled" || w = "disable" || w = "off" || w = "none" || w = "inactive" then
    some .disabled
  else none

/-- The level a word names, or info with `false` when it names none. -/
def parse (raw : String) : Level × Bool :=
  match ofWord? raw with
  | some l => (l, true)
  | none => (.info, false)

/-- Whether a message at level `msg` is written when the logger's threshold is `threshold`. -/
def admits (threshold msg : Level) : Bool := threshold.number ≤ msg.number

end Level

end MissionControl
