/-!
# Connection filter chains

Before an account connects, its connection parameters pass through an ordered chain of named
filters supplied by plugins. Registering a name that is already present replaces its filter
and keeps its position; a new name goes last. A filter may be absent (registered as nothing).

The chain is generic in what a filter is (`φ`).
-/

namespace MissionControl

namespace Account

/-- Named filters in chain order; `none` is a name registered without a filter. -/
structure Chain (φ : Type) where
  filters : List (String × Option φ) := []
  deriving Inhabited

namespace Chain

variable {φ : Type}

/-- The chain with `f` registered under `name`, in place if the name is present. -/
def register (c : Chain φ) (name : String) (f : Option φ) : Chain φ :=
  if c.filters.any (·.1 == name) then
    { filters := c.filters.map fun e => if e.1 == name then (name, f) else e }
  else { filters := c.filters ++ [(name, f)] }

/-- The filter at position `i`, with its name. -/
def at? (c : Chain φ) (i : Int) : Option (String × Option φ) :=
  if i < 0 then none else c.filters[i.toNat]?

/-- The number of filters. -/
def size (c : Chain φ) : Nat := c.filters.length

/-- The names of the filters, in order. -/
def names (c : Chain φ) : List String := c.filters.map (·.1)

end Chain

end Account

end MissionControl
