import MissionControl.Proofs.Hub.Sessions

/-!
# Waiters that fire although they should not

A waiter is meant to fire at most once, never once it is cancelled or its owner is closed, and a
cancelled waiter is meant never to have fired. Two paths of the broker break this.

* An interface with no descriptor for the object's type fires the waiter with an error at once,
  before the owner is looked at: a waiter whose owner is already closed fires, and so does the
  finale of a wait for several interfaces whose owner is closed.
* A waiter that fired during a fan-out is done only once every waiter of the fetch has fired. A
  later waiter's callback can cancel it meanwhile, and it then reports that it was cancelled
  although it fired.

Each is shown on a session run.
-/

set_option autoImplicit false

namespace MissionControl.Hub

/-- An owner that is closed before anything waits for it, and an object. -/
def closedOwnerSetup : List Json :=
  [.obj [("do", .str "owner"), ("id", .str "k")],
    .obj [("do", .str "close_owner"), ("owner", .str "k")],
    .obj [("do", .str "object"), ("id", .str "o1"), ("bus_name", .str "org.example.W1"),
      ("path", .str "/org/example/W1")]]

/-- The world after the steps of `setup`, ready for the next step. -/
def setUp (setup : List Json) : World :=
  { setup.foldl (fun h j => (runTop h j).2) {} with notes := #[] }

/-- Whether a run of a step returned, having noted something `noted` accepts. -/
def notedBy (r : EStateM.Result Fault World Json) (noted : Note → Bool) : Bool :=
  match r with
  | .ok _ h' => h'.notes.toList.any noted
  | .error _ _ => false

/-- A wait for interface `A`, which has no descriptor, of the object, owned by the closed
owner. -/
def waitAllForUnregistered : Json :=
  .obj [("do", .str "wait_all"), ("obj", .str "o1"), ("type", .str "w"),
    ("ifaces", .arr [.str "A"]), ("id", .str "m1"), ("owner", .str "k")]

/-- The finale of a wait for several interfaces runs although its owner was closed before the
wait began: the only interface has no descriptor, and its waiter fires without the owner being
looked at. -/
theorem finale_runs_for_closed_owner :
    ((setUp closedOwnerSetup).owners.getD 0 default).closed = true ∧
      notedBy ((runStep stepBudget 0 waitAllForUnregistered).run (setUp closedOwnerSetup))
        (· matches .finished "m1" _ _) = true := by
  decide +kernel

/-- A wait for interface `A`, which has no descriptor, of the object, with waiter `w1` owned by
the closed owner. -/
def ensureUnregistered : Json :=
  .obj [("do", .str "ensure"), ("obj", .str "o1"), ("type", .str "w"), ("iface", .str "A"),
    ("w", .str "w1"), ("owner", .str "k")]

/-- A waiter whose owner was closed before it was handed over fires all the same, when its
interface has no descriptor. -/
theorem waiter_of_closed_owner_fires :
    ((setUp closedOwnerSetup).owners.getD 0 default).closed = true ∧
      notedBy ((runStep stepBudget 0 ensureUnregistered).run (setUp closedOwnerSetup))
        (· matches .fired "w1" _ _) = true := by
  decide +kernel

/-- An interface `A` with a descriptor, an object, a waiter `w1` on it, and a second waiter `w2`
on the same fetch whose callback cancels `w1`. -/
def cancelInFanOutSetup : List Json :=
  [.obj [("do", .str "add_descriptor"), ("name", .str "A"), ("type", .str "w")],
    .obj [("do", .str "object"), ("id", .str "o1"), ("bus_name", .str "org.example.W1"),
      ("path", .str "/org/example/W1")],
    .obj [("do", .str "ensure"), ("obj", .str "o1"), ("type", .str "w"), ("iface", .str "A"),
      ("w", .str "w1")],
    .obj [("do", .str "ensure"), ("obj", .str "o1"), ("type", .str "w"), ("iface", .str "A"),
      ("w", .str "w2"), ("on_ready", .arr [.obj [("do", .str "cancel"), ("w", .str "w1")]])]]

/-- The reply to the fetch of `A`. -/
def replyToFetch : Json :=
  .obj [("do", .str "reply"), ("method", .str "GetAll"), ("iface", .str "A"), ("props", .obj [])]

/-- A waiter can report that it was cancelled after it fired: `w1` fires in the fan-out, and the
callback of `w2`, which fires after it, cancels it before the fetch is done with its waiters. -/
theorem waiter_cancelled_after_firing :
    (match (runStep stepBudget 0 replyToFetch).run (setUp cancelInFanOutSetup) with
      | .ok _ h' => h'.notes.toList.any (· matches .fired "w1" _ _) &&
          (h'.waiterLabels.lookup "w1").any fun w => (h'.waiters.getD w default).cancelled
      | .error _ _ => false) = true := by
  decide +kernel

end MissionControl.Hub
