import MissionControl.Wire.Value
import MissionControl.Bus.Reply
import MissionControl.Bus.Scripted
import MissionControl.Text.Blank

/-!
# A scripted bus daemon

A small message-bus daemon answers the method calls of its connections from a script:

* `Hello` gives the caller a fresh unique name `:1.N`, numbering from 1;
* adding and removing a match rule succeed with an empty reply;
* listing the owned and the activatable names gives the scripted reply, by default an empty
  string list;
* fetching every property of an interface gives the reply scripted for the destination and the
  interface (the call's first argument), or fails with `no interface <iface>`;
* any other method gives the reply scripted for `interface.member`, or fails with
  `unknown method interface.member`.

A reply is a body of values, one string list, one property map or an error with a name and a
message; the caller sees the message of an error. The daemon writes every call except `Hello`
in its log as `<dest> <path> <interface>.<member> <args>`, trimmed, and counts the calls it
answered.

A script can be merged into another: listings replace listings, and property replies and method
replies replace those of the same destination and interface, or of the same method.
-/

namespace MissionControl

namespace Wire

/-- A scripted reply. -/
inductive Reply where
  | body (values : List Value)
  | names (items : List String)
  | props (entries : Properties)
  | error (name message : String)
  deriving Inhabited

/-- What the caller receives for a reply. -/
def Reply.answer : Reply → Bus.Answer
  | .body values => .values (values.map delivered)
  | .names items => .values [.strs (some items)]
  | .props entries => .values [delivered (.map entries)]
  | .error _ message => .failure message

/-- The daemon's script. -/
structure Script where
  names : Option Reply := none
  activatable : Option Reply := none
  /-- Property replies by destination, then by interface. -/
  getAll : List (String × List (String × Reply)) := []
  /-- Method replies by `interface.member`. -/
  methods : List (String × Reply) := []
  deriving Inhabited

/-- An association list with `(k, v)` set, replacing the value of `k`. -/
def setEntry {α : Type} (xs : List (String × α)) (k : String) (v : α) : List (String × α) :=
  if xs.any (·.1 == k) then xs.map fun e => if e.1 == k then (k, v) else e else xs ++ [(k, v)]

/-- A script with another merged into it. -/
def Script.merge (s o : Script) : Script :=
  { names := o.names.orElse fun _ => s.names
    activatable := o.activatable.orElse fun _ => s.activatable
    getAll := o.getAll.foldl (fun acc (dest, table) =>
      let old := (acc.lookup dest).getD []
      setEntry acc dest (table.foldl (fun t (iface, r) => setEntry t iface r) old)) s.getAll
    methods := o.methods.foldl (fun acc (m, r) => setEntry acc m r) s.methods }

/-- The error name of a missing interface. -/
def unknownInterfaceError : String := "org.freedesktop.DBus.Error.UnknownInterface"

/-- The error name of a missing method. -/
def unknownMethodError : String := "org.freedesktop.DBus.Error.UnknownMethod"

/-- The reply the script gives to a call other than `Hello`. -/
def Script.reply (s : Script) (dest iface member : String) (args : List Value) : Reply :=
  let daemon := iface == Bus.daemonInterface
  if daemon && (member == "AddMatch" || member == "RemoveMatch") then .body []
  else if daemon && member == "ListNames" then s.names.getD (.names [])
  else if daemon && member == "ListActivatableNames" then s.activatable.getD (.names [])
  else if iface == Bus.propertiesInterface && member == "GetAll" then
    let wanted := match args with
      | .str i :: _ => i
      | _ => ""
    match (s.getAll.lookup dest).bind (·.lookup wanted) with
    | some r => r
    | none => .error unknownInterfaceError ("no interface " ++ wanted)
  else
    let key := iface ++ "." ++ member
    match s.methods.lookup key with
    | some r => r
    | none => .error unknownMethodError ("unknown method " ++ key)

/-- The daemon: its script, the unique names it gave, the calls it answered and its log. -/
structure Daemon where
  script : Script := {}
  hellos : Nat := 0
  answered : Nat := 0
  log : Array String := #[]
  deriving Inhabited

/-- The log line of a call. -/
def logLine (dest path iface member : String) (args : List Value) : String :=
  Text.trim (" ".intercalate ([dest, path, iface ++ "." ++ member] ++ args.map (logText ∘ received)))

/-- The daemon after greeting a new connection, and the unique name it gave. -/
def Daemon.hello (d : Daemon) : Daemon × String :=
  let n := d.hellos + 1
  ({ d with hellos := n }, ":1." ++ toString n)

/-- The daemon after answering a call other than `Hello`, and what the caller receives. -/
def Daemon.receive (d : Daemon) (dest path iface member : String) (args : List Value) :
    Daemon × Bus.Answer :=
  ({ d with answered := d.answered + 1, log := d.log.push (logLine dest path iface member args) },
    (d.script.reply dest iface member args).answer)

/-- The text of a match rule as a connection sends it to the daemon. -/
def ruleText (m : MatchRule) : String :=
  ",".intercalate (("type", "signal") :: ([("sender", m.sender), ("path", m.path),
    ("interface", m.interface), ("member", m.member), ("arg0", m.arg0)].filter
      (!·.2.isEmpty)) |>.map fun (k, v) => k ++ "='" ++ v ++ "'")

end Wire

end MissionControl
