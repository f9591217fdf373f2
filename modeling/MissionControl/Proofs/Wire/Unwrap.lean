import Mathlib
import MissionControl.Wire.Value
import MissionControl.Bus.Properties
set_option autoImplicit false

/-!
# Unwrapped values are in normal form

The connection hands over what it read from the bus after `unwrap`: variants opened, object
paths and path lists turned into strings, and maps, lists of maps and bare lists unwrapped
inside. A value is in *normal form* (`isNormal`) when it holds no variant, object path or path
list at the top, and every item of a bare list and every value of a map, also of a map in a list
of maps, is again in normal form. A list of variants, a property map and the other values are
in normal form as they are: `unwrap` does not look inside them.

`unwrap` is a structural recursion, so it always terminates, and:

* what it returns is in normal form (`isNormal_unwrap`);
* it leaves a value in normal form as it is (`unwrap_of_isNormal`), so it is idempotent, and its
  fixed points are exactly the normal forms (`unwrap_eq_self_iff`);
* the typed getters of property maps read the unwrapped shapes the clients ask for: string lists
  and path lists as strings in order, maps, lists of maps, and strings, truth values and
  unsigned 32-bit integers inside variants (`unwrap_normal_form`).
-/

namespace MissionControl

namespace Wire

mutual
/-- Whether a value is in the normal form `unwrap` hands over. -/
def isNormal : Value → Bool
  | .variant _ | .path _ | .paths _ => false
  | .map (some es) => isNormalEntries es
  | .maps ms => isNormalMaps ms
  | .list items => isNormalAll items
  | _ => true

/-- Whether every value of a list is in normal form. -/
def isNormalAll : List Value → Bool
  | [] => true
  | v :: rest => isNormal v && isNormalAll rest

/-- Whether every value of a map is in normal form. -/
def isNormalEntries : List (String × Value) → Bool
  | [] => true
  | (_, v) :: rest => isNormal v && isNormalEntries rest

/-- Whether every value of every map of a list is in normal form. -/
def isNormalMaps : List (Option (List (String × Value))) → Bool
  | [] => true
  | none :: rest => isNormalMaps rest
  | some m :: rest => isNormalEntries m && isNormalMaps rest
end

mutual
/-- `unwrap` returns a value in normal form, whatever it is given. -/
theorem isNormal_unwrap : ∀ v : Value, isNormal (unwrap v) = true
  | .variant v => by rw [unwrap]; exact isNormal_unwrap v
  | .path _ | .paths _ => rfl
  | .map (some es) => by rw [unwrap, isNormal]; exact isNormalEntries_unwrapEntries es
  | .maps ms => by rw [unwrap, isNormal]; exact isNormalMaps_unwrapMaps ms
  | .list items => by rw [unwrap, isNormal]; exact isNormalAll_unwrapAll items
  | .nil | .bool _ | .str _ | .int _ _ | .float _ | .bytes _ | .strs _ | .map none | .props _
  | .propsList _ | .struct _ | .boxed _ | .variants _ => rfl

theorem isNormalAll_unwrapAll : ∀ items : List Value, isNormalAll (unwrapAll items) = true
  | [] => rfl
  | v :: rest => by
    rw [unwrapAll, isNormalAll, isNormal_unwrap v, isNormalAll_unwrapAll rest, Bool.and_self]

theorem isNormalEntries_unwrapEntries :
    ∀ es : List (String × Value), isNormalEntries (unwrapEntries es) = true
  | [] => rfl
  | (_, v) :: rest => by
    rw [unwrapEntries, isNormalEntries, isNormal_unwrap v, isNormalEntries_unwrapEntries rest,
      Bool.and_self]

theorem isNormalMaps_unwrapMaps :
    ∀ ms : List (Option (List (String × Value))), isNormalMaps (unwrapMaps ms) = true
  | [] => rfl
  | none :: rest => by rw [unwrapMaps, isNormalMaps]; exact isNormalMaps_unwrapMaps rest
  | some m :: rest => by
    rw [unwrapMaps, isNormalMaps, isNormalEntries_unwrapEntries m, isNormalMaps_unwrapMaps rest,
      Bool.and_self]
end

mutual
/-- `unwrap` leaves a value in normal form as it is. -/
theorem unwrap_of_isNormal : ∀ v : Value, isNormal v = true → unwrap v = v
  | .variant _, normal | .path _, normal | .paths _, normal => by cases normal
  | .map (some es), normal => by
    rw [isNormal] at normal
    rw [unwrap, unwrapEntries_of_isNormal es normal]
  | .maps ms, normal => by
    rw [isNormal] at normal
    rw [unwrap, unwrapMaps_of_isNormal ms normal]
  | .list items, normal => by
    rw [isNormal] at normal
    rw [unwrap, unwrapAll_of_isNormal items normal]
  | .nil, _ | .bool _, _ | .str _, _ | .int _ _, _ | .float _, _ | .bytes _, _ | .strs _, _
  | .map none, _ | .props _, _ | .propsList _, _ | .struct _, _ | .boxed _, _
  | .variants _, _ => rfl

theorem unwrapAll_of_isNormal :
    ∀ items : List Value, isNormalAll items = true → unwrapAll items = items
  | [], _ => rfl
  | v :: rest, normal => by
    rw [isNormalAll, Bool.and_eq_true] at normal
    rw [unwrapAll, unwrap_of_isNormal v normal.1, unwrapAll_of_isNormal rest normal.2]

theorem unwrapEntries_of_isNormal :
    ∀ es : List (String × Value), isNormalEntries es = true → unwrapEntries es = es
  | [], _ => rfl
  | (_, v) :: rest, normal => by
    rw [isNormalEntries, Bool.and_eq_true] at normal
    rw [unwrapEntries, unwrap_of_isNormal v normal.1, unwrapEntries_of_isNormal rest normal.2]

theorem unwrapMaps_of_isNormal :
    ∀ ms : List (Option (List (String × Value))), isNormalMaps ms = true → unwrapMaps ms = ms
  | [], _ => rfl
  | none :: rest, normal => by
    rw [isNormalMaps] at normal
    rw [unwrapMaps, unwrapMaps_of_isNormal rest normal]
  | some m :: rest, normal => by
    rw [isNormalMaps, Bool.and_eq_true] at normal
    rw [unwrapMaps, unwrapEntries_of_isNormal m normal.1, unwrapMaps_of_isNormal rest normal.2]
end

/-- A second `unwrap` changes nothing. -/
theorem unwrap_unwrap (v : Value) : unwrap (unwrap v) = unwrap v :=
  unwrap_of_isNormal _ (isNormal_unwrap v)

/-- The values `unwrap` leaves as they are are exactly those in normal form. -/
theorem unwrap_eq_self_iff (v : Value) : unwrap v = v ↔ isNormal v = true :=
  ⟨fun fixed => fixed ▸ isNormal_unwrap v, unwrap_of_isNormal v⟩

/-- What the connection hands over after a trip on the bus is in normal form. -/
theorem isNormal_delivered (v : Value) : isNormal (delivered v) = true :=
  isNormal_unwrap (received v)

/-! ## Reading unwrapped values -/

section Getters

variable {p : Properties} {key : String}

theorem strings?_of_unwrapped_strs {xs : List String}
    (found : p.get? key = some (unwrap (.strs (some xs)))) : p.strings? key = some (some xs) := by
  simp [Properties.strings?, found, unwrap]

/-- A path list is read as the strings of its paths, in order. -/
theorem strings?_of_unwrapped_paths {ps : List String}
    (found : p.get? key = some (unwrap (.paths ps))) : p.strings? key = some (some ps) := by
  simp [Properties.strings?, found, unwrap]

theorem map?_of_unwrapped_map {es : List (String × Value)}
    (found : p.get? key = some (unwrap (.map (some es)))) :
    p.map? key = some (some (unwrapEntries es)) := by
  simp [Properties.map?, found, unwrap, Properties.ofValue?]

theorem maps?_of_unwrapped_maps {ms : List (Option (List (String × Value)))}
    (found : p.get? key = some (unwrap (.maps ms))) : p.maps? key = some (unwrapMaps ms) := by
  simp [Properties.maps?, found, unwrap]

theorem string?_of_unwrapped_variant {s : String}
    (found : p.get? key = some (unwrap (.variant (.str s)))) : p.string? key = some s := by
  simp [Properties.string?, found, unwrap]

theorem bool?_of_unwrapped_variant {b : Bool}
    (found : p.get? key = some (unwrap (.variant (.bool b)))) : p.bool? key = some b := by
  simp [Properties.bool?, found, unwrap]

theorem uint32?_of_unwrapped_variant {n : Int}
    (found : p.get? key = some (unwrap (.variant (.int .u32 n)))) :
    p.uint32? key = some n.toNat := by
  simp [Properties.uint32?, found, unwrap]

end Getters

/-- `unwrap` terminates in normal form, is the identity on normal forms (hence idempotent), and
hands the getters of property maps the shapes the clients read: string lists and path lists (as
their strings, in order), maps of variants, lists of such maps, and strings, truth values and
unsigned 32-bit integers in variants. -/
theorem unwrap_normal_form :
    (∀ v, isNormal (unwrap v) = true) ∧ (∀ v, isNormal v = true → unwrap v = v) ∧
      (∀ v, unwrap (unwrap v) = unwrap v) ∧
      (∀ (p : Properties) key xs, p.get? key = some (unwrap (.strs (some xs))) →
        p.strings? key = some (some xs)) ∧
      (∀ (p : Properties) key ps, p.get? key = some (unwrap (.paths ps)) →
        p.strings? key = some (some ps)) ∧
      (∀ (p : Properties) key es, p.get? key = some (unwrap (.map (some es))) →
        p.map? key = some (some (unwrapEntries es))) ∧
      (∀ (p : Properties) key ms, p.get? key = some (unwrap (.maps ms)) →
        p.maps? key = some (unwrapMaps ms)) ∧
      (∀ (p : Properties) key s, p.get? key = some (unwrap (.variant (.str s))) →
        p.string? key = some s) ∧
      (∀ (p : Properties) key b, p.get? key = some (unwrap (.variant (.bool b))) →
        p.bool? key = some b) ∧
      (∀ (p : Properties) key n, p.get? key = some (unwrap (.variant (.int .u32 n))) →
        p.uint32? key = some n.toNat) :=
  ⟨isNormal_unwrap, unwrap_of_isNormal, unwrap_unwrap,
    fun _ _ _ => strings?_of_unwrapped_strs, fun _ _ _ => strings?_of_unwrapped_paths,
    fun _ _ _ => map?_of_unwrapped_map, fun _ _ _ => maps?_of_unwrapped_maps,
    fun _ _ _ => string?_of_unwrapped_variant, fun _ _ _ => bool?_of_unwrapped_variant,
    fun _ _ _ => uint32?_of_unwrapped_variant⟩

/-- A reply of a map of variants holding a path list, read back: it is in normal form and `unwrap`
keeps it, and its paths are read as strings. -/
theorem unwrapped_reply_reads_paths :
    let reply : Value := .map (some [("Interfaces", .variant (.paths ["/a", "/b"]))])
    let props : Properties := [("Interfaces", unwrap (.paths ["/a", "/b"]))]
    isNormal (unwrap reply) = true ∧ unwrap (unwrap reply) = unwrap reply ∧
      Properties.get? props "Interfaces" = some (unwrap (.paths ["/a", "/b"])) ∧
      Properties.strings? props "Interfaces" = some (some ["/a", "/b"]) :=
  have found : Properties.get? [("Interfaces", unwrap (.paths ["/a", "/b"]))] "Interfaces" =
      some (unwrap (.paths ["/a", "/b"])) := by simp [Properties.get?]
  ⟨unwrap_normal_form.1 _, unwrap_normal_form.2.1 _ (unwrap_normal_form.1 _), found,
    unwrap_normal_form.2.2.2.2.1 _ _ _ found⟩

end Wire

end MissionControl
