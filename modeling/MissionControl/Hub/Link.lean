import MissionControl.Hub.Run
import MissionControl.Wire.Address

/-!
# Running over the transport

With a transport, answers and signals do not reach the hub when they happen: they wait for the
dispatch loop, which runs them oldest first, work handed over meanwhile included. A run of the
loop may also stop once the daemon has answered a given number of calls: the work running then
finishes, and the rest is left.

Dialling connects the transport to a bus, and the daemon greets the new connection with its
unique name. Dialling with retries tries up to the given number of times (as long as it takes
when that is not positive); connecting fails the same way every time here, so the failures all
read alike.
-/

namespace MissionControl

namespace Hub

/-- The steps one piece of the loop's work may take. -/
def workBudget : Nat := 1000000

/-- The dispatch loop runs waiting work until none is left, `fuel` pieces have run, or the
daemon has answered `limit` calls. -/
def drainPosted : Nat → Option Nat → HubM Unit
  | 0, _ => pure ()
  | k + 1, limit => do
    if let some m := limit then
      if (← get).daemon.answered ≥ m then return
    match ← takePosted with
    | none => pure ()
    | some (.reply i a) =>
      answerCall workBudget i a
      drainPosted k limit
    | some (.signal s) =>
      emit workBudget s
      drainPosted k limit

/-- The pieces of work one run of the loop may take. -/
def drainBudget : Nat := 100000

/-- The transport connected to the daemon, which greets it; the unique name it gave. -/
def greet : HubM String :=
  modifyGet fun h =>
    let (d, u) := h.daemon.hello
    (u, { h with daemon := d, link := some { unique := u }, bus := { h.bus with unique := u } })

/-- Connects the transport to a bus by name or address; the unique name, or why it failed. -/
def dial (env : List (String × String)) (daemon : Option Wire.DaemonName) (bus : String) :
    HubM (Except String String) := do
  match Wire.connectBus env daemon bus with
  | .error e => return .error e
  | .ok () => return .ok (← greet)

/-- The error of giving up dialling. -/
def givingUp (attempts : Int) (e : String) : String :=
  "bus: giving up after " ++ toString attempts ++ " attempts: " ++ e

/-- The failures of dialling with retries, in order, and how it ended; `cancelled` stops it
after the first failure. -/
def retryPlan (env : List (String × String)) (daemon : Option Wire.DaemonName) (bus : String)
    (attempts : Int) (cancelled : Bool) : List String × Except String Unit :=
  match Wire.connectBus env daemon bus with
  | .ok () => ([], .ok ())
  | .error e =>
    if cancelled then ([e], .error "context canceled")
    else
      let n := if attempts ≤ 0 then 1 else attempts.toNat
      (List.replicate n e, .error (givingUp attempts e))

end Hub

end MissionControl
