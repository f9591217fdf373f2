/-!
# Bus values

Properties and message bodies on the bus carry dynamically typed values: strings, truth
values, integers of ten types, doubles, byte strings, lists of strings, object paths, nested
lists and string-keyed maps, structures and variants. `Value` is that type; a map of values
keyed by property name is a `Properties`.

Channel filters compare values by `Value.satisfies`: integers compare by their mathematical
value whatever their width or signedness, a double equals only a double and by IEEE equality
(so not-a-number equals nothing and the two zeros are equal), a string only a string and a
truth value only a truth value. Every other pair is unequal, even two equal lists or two
absent values.

Integers are compared as a sign and a 64-bit magnitude (`Magnitude`): the signed types are
widened to 64-bit signed integers first, and the magnitude of a negative one is computed as
`-(v + 1) + 1`, which stays in range at the least value.
-/

namespace MissionControl

/-- The integer types of bus values, by width and signedness; `int` and `uint` are the
platform words (64 bits). -/
inductive IntType where
  | i8 | i16 | i32 | i64 | int | u8 | u16 | u32 | u64 | uint
  deriving BEq, DecidableEq, Repr, Inhabited

namespace IntType

/-- The tag that names the type in the value notation. -/
def tag : IntType → String
  | .i8 => "i8" | .i16 => "i16" | .i32 => "i32" | .i64 => "i64" | .int => "int"
  | .u8 => "u8" | .u16 => "u16" | .u32 => "u32" | .u64 => "u64" | .uint => "uint"

/-- Every integer type. -/
def all : List IntType := [.i8, .i16, .i32, .i64, .int, .u8, .u16, .u32, .u64, .uint]

/-- Whether the type holds negative numbers. -/
def signed : IntType → Bool
  | .i8 | .i16 | .i32 | .i64 | .int => true
  | _ => false

/-- The number of bits of the type. -/
def bits : IntType → Nat
  | .i8 | .u8 => 8
  | .i16 | .u16 => 16
  | .i32 | .u32 => 32
  | _ => 64

/-- The least value of the type. -/
def least (t : IntType) : Int := if t.signed then -(Nat.pow 2 (t.bits - 1) : Nat) else 0

/-- The greatest value of the type. -/
def greatest (t : IntType) : Int := if t.signed then (Nat.pow 2 (t.bits - 1) - 1 : Nat)
  else (Nat.pow 2 t.bits - 1 : Nat)

/-- Whether an integer is a value of the type. -/
def holds (t : IntType) (n : Int) : Bool := t.least ≤ n && n ≤ t.greatest

end IntType

/-- A dynamically typed bus value. -/
inductive Value where
  | nil
  | bool (value : Bool)
  | str (value : String)
  | int (kind : IntType) (value : Int)
  | float (value : Float)
  | bytes (data : List UInt8)
  /-- A list of strings, or the absent list. -/
  | strs (items : Option (List String))
  | path (value : String)
  | paths (items : List String)
  | list (items : List Value)
  /-- A string-keyed map, or the absent map. -/
  | map (entries : Option (List (String × Value)))
  /-- A property map, or the absent map. -/
  | props (entries : Option (List (String × Value)))
  /-- A list of maps, each of which may be absent. -/
  | maps (items : List (Option (List (String × Value))))
  /-- A list of property maps, each of which may be absent. -/
  | propsList (items : List (Option (List (String × Value))))
  /-- A structure to send: its fields travel as one structure. -/
  | struct (fields : List Value)
  /-- A value to send boxed in a variant. -/
  | boxed (inner : Value)
  /-- A variant read from the bus, with its content. -/
  | variant (inner : Value)
  | variants (items : List Value)
  deriving Inhabited

/-- Property values keyed by name; each name occurs once. -/
abbrev Properties := List (String × Value)

namespace Properties

/-- The value of a property. -/
def get? (p : Properties) (key : String) : Option Value :=
  (p.find? (·.1 == key)).map (·.2)

/-- The properties with `key` set to `v`, replacing an earlier value. -/
def set (p : Properties) (key : String) (v : Value) : Properties :=
  if p.any (·.1 == key) then p.map fun e => if e.1 == key then (key, v) else e
  else p ++ [(key, v)]

/-- The properties without `key`. -/
def erase (p : Properties) (key : String) : Properties := p.filter (·.1 != key)

end Properties

/-- An integer as filters compare it: a sign and a 64-bit magnitude. -/
structure Magnitude where
  neg : Bool := false
  mag : UInt64
  deriving Inhabited

namespace Magnitude

/-- Equal integers: both zero, whatever their signs, or the same sign and magnitude. -/
def equal (i o : Magnitude) : Bool :=
  (i.mag == 0 && o.mag == 0) || (i.neg == o.neg && i.mag == o.mag)

/-- A signed 64-bit integer; a negative one's magnitude is `-(v + 1)` plus one, so that the
negation cannot overflow. -/
def ofInt64 (v : Int64) : Magnitude :=
  if v < 0 then { neg := true, mag := (-(v + 1)).toUInt64 + 1 } else { mag := v.toUInt64 }

end Magnitude

namespace Value

/-- The integer a value holds: a signed type widened to a 64-bit signed integer, an unsigned
one to a 64-bit unsigned integer. Nothing for a value that is not an integer. -/
def asInt? : Value → Option Magnitude
  | .int kind n => some (if kind.signed then .ofInt64 (.ofInt n) else { mag := .ofInt n })
  | _ => none

/-- Whether a property value satisfies a filter value. The property value's type decides the
comparison: an integer wants an integer, a string a string, a truth value a truth value and a
double a double. -/
def satisfies (actual wanted : Value) : Bool :=
  match actual.asInt? with
  | some a =>
    match wanted.asInt? with
    | some b => a.equal b
    | none => false
  | none =>
    match actual, wanted with
    | .str a, .str b => a == b
    | .bool a, .bool b => a == b
    | .float a, .float b => a == b
    | _, _ => false

end Value

end MissionControl
