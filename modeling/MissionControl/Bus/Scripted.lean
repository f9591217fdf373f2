import MissionControl.Bus.Reply
import MissionControl.Bus.Signal

/-!
# A scripted bus connection

An in-memory bus connection whose replies are decided by a script. It keeps every method call
in the order it was made, answered or not, together with where its reply goes; it keeps the
signal subscriptions with the ids they were given, counting from 1; and it keeps responders that
answer some calls at once.

A responder is chosen by destination and method, falling back to the responder installed for
the method with an empty destination. Installing a responder for a key replaces the one there.

The connection is generic in what a reply is routed to (`ρ`) and what a signal is delivered to
(`κ`): the routing is the caller's business, the bookkeeping is this module's.
-/

namespace MissionControl

namespace Bus

/-- The bus daemon's own name. -/
def daemonName : String := "org.freedesktop.DBus"

/-- The bus daemon's object path. -/
def daemonPath : String := "/org/freedesktop/DBus"

/-- The bus daemon's interface. -/
def daemonInterface : String := "org.freedesktop.DBus"

/-- The standard properties interface. -/
def propertiesInterface : String := "org.freedesktop.DBus.Properties"

/-- The method that fetches every property of an interface. -/
def getAllMethod : String := propertiesInterface ++ ".GetAll"

/-- The daemon method listing the names that have an owner. -/
def listNamesMethod : String := daemonInterface ++ ".ListNames"

/-- The daemon method listing the names that can be activated. -/
def listActivatableMethod : String := daemonInterface ++ ".ListActivatableNames"

/-- The member of the daemon's ownership signal. -/
def nameOwnerChanged : String := "NameOwnerChanged"

/-- The rule watching ownership changes, of one name or (empty name) of all. -/
def ownershipRule (name : String) : MatchRule :=
  { sender := daemonName, path := daemonPath, interface := daemonInterface,
    member := nameOwnerChanged, arg0 := name }

/-- The ownership signal the daemon emits when `name` passes from `old` to `new`. -/
def ownershipSignal (name old new : String) : Signal :=
  { sender := daemonName, path := daemonPath, name := daemonInterface ++ "." ++ nameOwnerChanged,
    body := [.str name, .str old, .str new] }

/-- The name, old owner and new owner of an ownership signal whose body is exactly three
strings. -/
def ownershipChange? (s : Signal) : Option (String × String × String) :=
  match s.body with
  | [.str name, .str old, .str new] => some (name, old, new)
  | _ => none

/-- The full method name for a short one: the listing and fetch methods may be named by their
member alone. -/
def fullMethod (method : String) : String :=
  if method == "GetAll" then getAllMethod
  else if method == "ListNames" then listNamesMethod
  else if method == "ListActivatableNames" then listActivatableMethod
  else method

/-- A responder answers a call as soon as it is made. -/
inductive Responder where
  /-- Answers a property fetch from a table by interface; an interface missing from the table
  fails with `failure`. -/
  | table (entries : List (String × Option Properties)) (failure : String)
  /-- Answers every call with the same answer. -/
  | fixed (answer : Answer)
  deriving Inhabited

/-- The answer a responder gives to a call with these arguments. A table reads the interface
from the first argument; a first argument that is not a string reads as the empty name. -/
def Responder.answer (r : Responder) (args : List Value) : Answer :=
  match r with
  | .fixed a => a
  | .table entries failure =>
    let iface := match args with
      | .str s :: _ => s
      | _ => ""
    match entries.find? (·.1 == iface) with
    | some (_, p) => .properties p
    | none => .failure failure

/-- A method call made on the connection. -/
structure Call (ρ : Type) where
  dest : String
  path : String
  method : String
  args : List Value
  route : ρ
  answered : Bool := false
  deriving Inhabited

/-- A signal subscription. -/
structure Subscription (κ : Type) where
  rule : MatchRule
  listener : κ
  live : Bool := true
  deriving Inhabited

/-- The state of a scripted connection. -/
structure Scripted (ρ κ : Type) where
  unique : String := ":1.0"
  calls : Array (Call ρ) := #[]
  responders : List (String × Responder) := []
  subscriptions : Array (Subscription κ) := #[]
  deriving Inhabited

namespace Scripted

variable {ρ κ : Type}

/-- The key a responder is installed under. -/
def responderKey (dest method : String) : String := dest ++ "|" ++ method

/-- The connection with `r` answering `method` sent to `dest` (any destination when empty). -/
def respond (b : Scripted ρ κ) (dest method : String) (r : Responder) : Scripted ρ κ :=
  let key := responderKey dest method
  { b with responders := (key, r) :: b.responders.filter (·.1 != key) }

/-- The responder for a call: the one for its destination, else the one for any destination. -/
def responderFor? (b : Scripted ρ κ) (dest method : String) : Option Responder :=
  match b.responders.lookup (responderKey dest method) with
  | some r => some r
  | none => b.responders.lookup (responderKey "" method)

/-- The connection with a new call recorded, and the call's index. -/
def record (b : Scripted ρ κ) (dest path method : String) (args : List Value) (route : ρ) :
    Scripted ρ κ × Nat :=
  ({ b with calls := b.calls.push { dest, path, method, args, route } }, b.calls.size)

/-- The connection with call `i` marked answered. -/
def markAnswered (b : Scripted ρ κ) (i : Nat) : Scripted ρ κ :=
  { b with calls := b.calls.modify i fun c => { c with answered := true } }

/-- The connection with a new live subscription, and its id. -/
def subscribe (b : Scripted ρ κ) (rule : MatchRule) (listener : κ) : Scripted ρ κ × Nat :=
  ({ b with subscriptions := b.subscriptions.push { rule, listener } }, b.subscriptions.size + 1)

/-- The connection with subscription `id` no longer live. -/
def unsubscribe (b : Scripted ρ κ) (id : Nat) : Scripted ρ κ :=
  { b with subscriptions := b.subscriptions.modify (id - 1) fun s => { s with live := false } }

/-- Whether subscription `id` is live. -/
def isLive (b : Scripted ρ κ) (id : Nat) : Bool :=
  match b.subscriptions[id - 1]? with
  | some s => id ≠ 0 && s.live
  | none => false

/-- The number of live subscriptions. -/
def liveCount (b : Scripted ρ κ) : Nat := (b.subscriptions.toList.filter (·.live)).length

/-- The ids of the live subscriptions that select `s`, in the order they were made. -/
def selecting (b : Scripted ρ κ) (s : Signal) : List Nat :=
  ((b.subscriptions.toList.zipIdx 1).filter fun e => e.1.live && e.1.rule.selects s).map (·.2)

/-- Whether a call went to `dest` (any destination when empty) with `method`. -/
def Call.isTo (c : Call ρ) (dest method : String) : Bool :=
  c.method == method && (dest.isEmpty || c.dest == dest)

/-- The number of unanswered calls of `method` to `dest`. -/
def pendingCount (b : Scripted ρ κ) (dest method : String) : Nat :=
  (b.calls.toList.filter fun c => !c.answered && Call.isTo c dest method).length

/-- The number of calls of `method` to `dest`, answered or not. -/
def callCount (b : Scripted ρ κ) (dest method : String) : Nat :=
  (b.calls.toList.filter fun c => Call.isTo c dest method).length

end Scripted

end Bus

end MissionControl
