import MissionControl.Text.Blank

/-!
# Interface descriptors

An object type (a client, an account, ...) has interfaces whose properties are fetched from the
bus. A descriptor names one such interface and says how a completed fetch becomes object state
(its builder) and, optionally, how the interface is watched for later changes.

The table is filled once, before any object is used. Registering checks the type and the
interface name after trimming white space, but keeps the interface name exactly as given and
files it under the trimmed type; looking up uses the strings as they are. A registration that
fails leaves the table as it was.
-/

namespace MissionControl

namespace Readiness

/-- How a completed fetch is turned into object state. -/
inductive Builder where
  /-- The properties are noted in the session record, as they arrived. -/
  | record
  /-- A client's declared interfaces. -/
  | clientCore
  /-- A handler's channel filters, approval bypass and capability tokens. -/
  | clientHandler
  /-- An approver's channel filters. -/
  | clientApprover
  /-- An observer's channel filters. -/
  | clientObserver
  /-- An account's main properties. -/
  | accountCore
  /-- An account's avatar. -/
  | accountAvatar
  deriving BEq, Inhabited

/-- How an interface is watched for changes once its first fetch is issued. -/
inductive Watcher where
  /-- The start of watching is noted in the session record. -/
  | record
  /-- The account subscribes to the change signal of that interface. -/
  | account
  deriving BEq, Inhabited

/-- One fetchable interface of an object type. -/
structure Descriptor where
  name : String
  build : Builder
  watch : Option Watcher := none
  deriving Inhabited

/-- Descriptors by object type, each type's descriptors in the order they were added. -/
structure DescriptorTable where
  byType : List (String × List Descriptor) := []
  deriving Inhabited

/-- Why a descriptor could not be registered. -/
inductive DescriptorError where
  /-- The type or the interface name is blank. -/
  | incomplete
  /-- The descriptor has no builder. -/
  | noBuilder (name type : String)
  /-- The type already has a descriptor of that name. -/
  | duplicate (name type : String)
  deriving BEq, Inhabited

namespace DescriptorError

/-- The text of a registration error. -/
def message : DescriptorError → String
  | .incomplete => "readiness: invalid interface descriptor: type and interface name are required"
  | .noBuilder name type =>
    "readiness: invalid interface descriptor: " ++ name ++ " on " ++ type ++ " has no builder"
  | .duplicate name type =>
    "readiness: interface descriptor already registered: " ++ name ++ " on " ++ type

end DescriptorError

namespace DescriptorTable

/-- The descriptor of `iface` for objects of type `type`, compared exactly. -/
def lookup? (t : DescriptorTable) (type iface : String) : Option Descriptor :=
  (t.byType.find? (·.1 == type)).bind fun e => e.2.find? (·.name == iface)

/-- The table with `d` added after the descriptors of `type`. -/
def insert (t : DescriptorTable) (type : String) (d : Descriptor) : DescriptorTable :=
  if t.byType.any (·.1 == type) then
    { byType := t.byType.map fun e => if e.1 == type then (e.1, e.2 ++ [d]) else e }
  else { byType := t.byType ++ [(type, [d])] }

/-- Registers an interface of an object type. The type is trimmed before it is checked and
filed; the name is checked trimmed and stored as given. -/
def add (t : DescriptorTable) (type name : String) (build : Option Builder)
    (watch : Option Watcher) : Except DescriptorError DescriptorTable :=
  let type := Text.trim type
  if type.isEmpty || (Text.trim name).isEmpty then .error .incomplete
  else
    match build with
    | none => .error (.noBuilder name type)
    | some b =>
      if (t.lookup? type name).isSome then .error (.duplicate name type)
      else .ok (t.insert type { name, build := b, watch })

/-- Registers descriptors one after another, stopping at the first that fails. The table that
results keeps those registered before the failure, so it comes back with the error. -/
def addAll (t : DescriptorTable) (type : String) :
    List (String × Builder × Option Watcher) → DescriptorTable × Option DescriptorError
  | [] => (t, none)
  | (name, b, w) :: rest =>
    match t.add type name (some b) w with
    | .ok t' => t'.addAll type rest
    | .error e => (t, some e)

end DescriptorTable

end Readiness

end MissionControl
