/-!
# Handler lists

An ordered set of handlers owned by whoever emits to them. Connecting a handler gives it the
next id (1, 2, 3, ... for each list, never reused); disconnecting removes it, and an unknown id
is ignored; clearing removes every handler but keeps the count of ids given.

An emission calls the handlers connected when it began, in connection order, skipping any
disconnected (or cleared) before its turn; handlers connected during the emission are not
called by it. The list only keeps the handlers; who calls them, and what they do, is the
caller's business: `emission` gives the ids to call, and `isConnected` decides each turn.
-/

namespace MissionControl

/-- Handlers with ids, in connection order. -/
structure HandlerList (α : Type) where
  lastId : Nat := 0
  entries : List (Nat × α) := []
  deriving Inhabited

namespace HandlerList

variable {α : Type}

/-- The list with a handler connected, and the handler's id. -/
def connect (l : HandlerList α) (a : α) : HandlerList α × Nat :=
  let id := l.lastId + 1
  ({ lastId := id, entries := l.entries ++ [(id, a)] }, id)

/-- The list without the handler of this id. -/
def disconnect (l : HandlerList α) (id : Nat) : HandlerList α :=
  { l with entries := l.entries.filter (·.1 != id) }

/-- The list without any handler. -/
def clear (l : HandlerList α) : HandlerList α := { l with entries := [] }

/-- The number of connected handlers. -/
def size (l : HandlerList α) : Nat := l.entries.length

/-- Whether the handler of this id is connected. -/
def isConnected (l : HandlerList α) (id : Nat) : Bool := l.entries.any (·.1 == id)

/-- The handler of this id, if connected. -/
def find? (l : HandlerList α) (id : Nat) : Option α := l.entries.lookup id

/-- The handlers an emission starting now calls, if still connected at their turn. -/
def emission (l : HandlerList α) : List (Nat × α) := l.entries

/-- An emission of `v` starting at list `l`: each handler of `l` in turn is called with `v`
(`call` runs it), if the list as `live` reads it then still has its id. The handlers may change
the list meanwhile. -/
def emit {m : Type → Type} [Monad m] {β : Type} (l : HandlerList α) (live : m (HandlerList α))
    (call : Nat → α → β → m Unit) (v : β) : m Unit :=
  l.emission.forM fun e => do
    if (← live).isConnected e.1 then call e.1 e.2 v

end HandlerList

end MissionControl
