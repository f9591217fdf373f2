import MissionControl.Bus.Value

/-!
# Channel filters

A client declares the channels it can take as a list of filters; a filter is a property map
that a channel's properties must match on every key. A filter that matches scores one more
than its number of keys, so that an empty filter matches everything with the least score, and
a channel scores the best of its matching filters, or 0 when none matches.

A request that has not been made yet is treated as requested: with `assumeRequested`, the
key `org.freedesktop.Telepathy.Channel.Requested` of a filter is compared with `true`, whatever
the properties hold.
-/

namespace MissionControl

namespace Client

/-- The channel property that says whether a channel was requested. -/
def requestedKey : String := "org.freedesktop.Telepathy.Channel.Requested"

/-- The score of one filter, if every key of it matches. -/
def filterScore? (props : Properties) (filter : Properties) (assumeRequested : Bool) :
    Option Nat :=
  let keyMatches (e : String × Value) : Bool :=
    let actual := if assumeRequested && e.1 == requestedKey then some (.bool true)
      else props.get? e.1
    match actual with
    | some v => v.satisfies e.2
    | none => false
  if filter.all keyMatches then some (filter.length + 1) else none

/-- The best score of the matching filters, or 0. -/
def matchFilters (props : Properties) (filters : List Properties) (assumeRequested : Bool) :
    Nat :=
  filters.foldl (fun best f => match filterScore? props f assumeRequested with
    | some q => max best q
    | none => best) 0

end Client

end MissionControl
