import MissionControl.Bus.Value

/-!
# Reading properties

Typed getters over a property map. Each answers the value when the property is present and
has the expected type, and nothing otherwise:

* `string?`, `bool?`, `uint32?` accept exactly a string, a truth value, an unsigned 32-bit
  integer;
* `strings?` accepts a list of strings (possibly the absent list) or a generic list all of
  whose items are strings;
* `maps?` accepts a list of maps in any of its three shapes: a list of property maps, a list
  of plain maps, or a generic list all of whose items are maps;
* `map?` accepts a plain map or a property map.

A map may be absent rather than empty; the getters keep the difference, which shows only where
a map is written out.
-/

namespace MissionControl

namespace Properties

/-- The string value of a property. -/
def string? (p : Properties) (key : String) : Option String :=
  match p.get? key with
  | some (.str s) => some s
  | _ => none

/-- The truth value of a property. -/
def bool? (p : Properties) (key : String) : Option Bool :=
  match p.get? key with
  | some (.bool b) => some b
  | _ => none

/-- The unsigned 32-bit value of a property. -/
def uint32? (p : Properties) (key : String) : Option Nat :=
  match p.get? key with
  | some (.int .u32 n) => some n.toNat
  | _ => none

/-- The strings of a list value, if every item is a string. -/
def stringItems? : List Value → Option (List String)
  | [] => some []
  | .str s :: rest => (stringItems? rest).map (s :: ·)
  | _ => none

/-- The list of strings of a property; the inner `none` is the absent list. -/
def strings? (p : Properties) (key : String) : Option (Option (List String)) :=
  match p.get? key with
  | some (.strs xs) => some xs
  | some (.list items) => (stringItems? items).map some
  | _ => none

/-- The map held by a value, of either map shape; the inner `none` is the absent map. -/
def ofValue? : Value → Option (Option Properties)
  | .map m => some m
  | .props m => some m
  | _ => none

/-- The maps of a list value, if every item is a map. -/
def mapItems? : List Value → Option (List (Option Properties))
  | [] => some []
  | v :: rest => do
    let m ← ofValue? v
    let ms ← mapItems? rest
    pure (m :: ms)

/-- The list of maps of a property; an inner `none` is an absent map. -/
def maps? (p : Properties) (key : String) : Option (List (Option Properties)) :=
  match p.get? key with
  | some (.propsList ms) => some ms
  | some (.maps ms) => some ms
  | some (.list items) => mapItems? items
  | _ => none

/-- The map of a property; the inner `none` is the absent map. -/
def map? (p : Properties) (key : String) : Option (Option Properties) :=
  (p.get? key).bind ofValue?

end Properties

end MissionControl
