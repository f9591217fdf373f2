import MissionControl.Bus.Value

/-!
# Signals and match rules

A signal names its sender, its object path and its full member name `interface.member`, and
carries a body of values. A match rule selects signals by sender, path, interface, member and
first argument; an empty field selects anything. The interface and member of a signal are its
name split at the last dot (no dot: no interface, the whole name as member). A rule's first
argument selects only signals whose first body value is that string.
-/

namespace MissionControl

/-- A signal received from the bus. -/
structure Signal where
  sender : String
  path : String
  name : String
  body : List Value
  deriving Inhabited

/-- A rule selecting signals; empty fields select anything. -/
structure MatchRule where
  sender : String := ""
  path : String := ""
  interface : String := ""
  member : String := ""
  arg0 : String := ""
  deriving Inhabited, BEq

namespace Signal

/-- The interface and member of a full member name, split at the last dot. -/
def splitName (name : String) : String × String :=
  match name.toList.reverse.span (· != '.') with
  | (_, []) => ("", name)
  | (member, _ :: iface) => (String.ofList iface.reverse, String.ofList member.reverse)

end Signal

namespace MatchRule

/-- Whether the rule selects the signal. -/
def selects (m : MatchRule) (s : Signal) : Bool :=
  let (iface, member) := Signal.splitName s.name
  (m.sender.isEmpty || m.sender == s.sender) &&
    (m.path.isEmpty || m.path == s.path) &&
    (m.interface.isEmpty || m.interface == iface) &&
    (m.member.isEmpty || m.member == member) &&
    (m.arg0.isEmpty ||
      match s.body with
      | .str a :: _ => a == m.arg0
      | _ => false)

end MatchRule

/-- The conventional object path of a well-known bus name: a slash, then the name with its
dots turned into slashes. -/
def objectPathForName (name : String) : String := "/" ++ name.replace "." "/"

end MissionControl
