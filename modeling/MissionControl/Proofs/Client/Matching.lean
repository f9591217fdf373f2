import Mathlib
import MissionControl.Client.Filter
set_option autoImplicit false

/-!
# Matching channel properties against filters

A filter is a property map; it qualifies for a channel when each of its keys has a value equal
to the filter's value for it: the channel's property, or `true` for the requested key when the
channel is taken as requested. The score of a channel is the best `1 + keys` over the filters
that qualify, and `0` when none does (`matchFilters_is_best_qualifying_score`).

Equality here is the one of `Value.Equal`: integers of any of the ten integer types are equal
when their values are, whatever their widths and signedness; doubles by IEEE equality; strings
and truth values by equality; nothing else is equal to anything, not even two absent values or
two equal lists.

The comparison of integers is the interesting part. The code widens both integers to a sign
and a 64-bit magnitude (`Magnitude`); the magnitude of a negative 64-bit integer is computed as
`-(v + 1)` plus one, which avoids the overflow of `-v` at the least value. The lemmas below show
that this widening loses nothing for values in the ranges of their types (`Magnitude.Represents`),
so the comparison is equality of the mathematical values, the extremes included.
-/

namespace MissionControl

/-! ## Integers as a sign and a magnitude -/

namespace IntType

/-- A signed type's values lie in the range of 64-bit signed integers. -/
theorem range_of_signed {k : IntType} {n : Int} (signed : k.signed = true)
    (bounded : k.holds n = true) : -2 ^ 63 ≤ n ∧ n < 2 ^ 63 := by
  cases k <;> simp_all [holds, least, greatest, bits, IntType.signed] <;> omega

/-- An unsigned type's values lie in the range of 64-bit unsigned integers. -/
theorem range_of_unsigned {k : IntType} {n : Int} (unsigned : k.signed = false)
    (bounded : k.holds n = true) : 0 ≤ n ∧ n < 2 ^ 64 := by
  cases k <;> simp_all [holds, least, greatest, bits, IntType.signed] <;> omega

end IntType

namespace Magnitude

/-- `m` stands for the integer `n`: its sign says whether `n` is negative, and its magnitude is
the absolute value of `n`. -/
def Represents (m : Magnitude) (n : Int) : Prop :=
  m.neg = decide (n < 0) ∧ m.mag.toNat = n.natAbs

/-- Two magnitudes are equal exactly when the integers they stand for are: the test for two
zeros is what makes the two signs of zero one number. -/
theorem equal_iff {m o : Magnitude} {a b : Int} (hm : m.Represents a) (ho : o.Represents b) :
    m.equal o = true ↔ a = b := by
  obtain ⟨signA, sizeA⟩ := hm
  obtain ⟨signB, sizeB⟩ := ho
  simp only [equal, Bool.or_eq_true, Bool.and_eq_true, beq_iff_eq, ← UInt64.toNat_inj,
    UInt64.toNat_zero, signA, signB, sizeA, sizeB, decide_eq_decide]
  omega

/-- A non-negative 64-bit signed integer reads the same as an unsigned one. -/
theorem toNat_toUInt64 {x : Int64} (nonneg : 0 ≤ x.toInt) : x.toUInt64.toNat = x.toInt.toNat := by
  have cond := BitVec.toInt_eq_toNat_cond x.toBitVec
  have bound := x.toBitVec.isLt
  have same : x.toUInt64.toNat = x.toBitVec.toNat := (Int64.toNat_toBitVec x).symm
  change 0 ≤ x.toBitVec.toInt at nonneg
  change _ = x.toBitVec.toInt.toNat
  split at cond <;> omega

/-- The widening of a 64-bit signed integer stands for its value, also at the least value
`-2 ^ 63`, whose magnitude `2 ^ 63` has no signed 64-bit form. -/
theorem ofInt64_represents (v : Int64) : (ofInt64 v).Represents v.toInt := by
  have low := Int64.le_toInt v
  have high := Int64.toInt_lt v
  unfold ofInt64
  split
  case isTrue negative =>
    have below : v.toInt < 0 := Int64.lt_iff_toInt_lt.1 negative
    -- neither `v + 1` nor its negation leaves the range, so both are exact
    have succ : (v + 1).toInt = v.toInt + 1 := by
      rw [Int64.toInt_add]
      exact Int.bmod_eq_of_le (by simp; omega) (by simp; omega)
    have negated : (-(v + 1)).toInt = -(v.toInt + 1) := by
      rw [Int64.toInt_neg, succ]
      exact Int.bmod_eq_of_le (by simp; omega) (by simp; omega)
    have wide : (-(v + 1)).toUInt64.toNat = (-(v.toInt + 1)).toNat := by
      rw [toNat_toUInt64 (by omega), negated]
    refine ⟨by simp [below], ?_⟩
    rw [UInt64.toNat_add, wide]
    simp only [UInt64.toNat_one]
    omega
  case isFalse nonnegative =>
    have above : 0 ≤ v.toInt := by
      have := mt Int64.lt_iff_toInt_lt.2 nonnegative
      simp only [Int64.toInt_zero] at this
      omega
    refine ⟨by simp; omega, ?_⟩
    rw [toNat_toUInt64 above]
    omega

end Magnitude

namespace Value

/-- An integer of one of the ten types, in the range of its type, widens to a magnitude that
stands for it. -/
theorem asInt?_int {kind : IntType} {n : Int} (holds : kind.holds n = true) :
    ∃ m, (Value.int kind n).asInt? = some m ∧ m.Represents n := by
  cases signed : kind.signed
  case true =>
    obtain ⟨low, high⟩ := kind.range_of_signed signed holds
    refine ⟨.ofInt64 (.ofInt n), by simp [asInt?, signed], ?_⟩
    have exact : (Int64.ofInt n).toInt = n := by
      rw [Int64.toInt_ofInt]
      exact Int.bmod_eq_of_le (by simp [Int64.size]; omega) (by simp [Int64.size]; omega)
    simpa [exact] using Magnitude.ofInt64_represents (.ofInt n)
  case false =>
    obtain ⟨low, high⟩ := kind.range_of_unsigned signed holds
    refine ⟨{ mag := .ofInt n }, by simp [asInt?, signed], ?_⟩
    constructor
    · simp; omega
    · simp [UInt64.ofInt]
      omega

/-- Integers satisfy each other exactly when their values are equal, whatever their types. -/
theorem satisfies_int {k k' : IntType} {a b : Int} (ha : k.holds a = true)
    (hb : k'.holds b = true) : (Value.int k a).satisfies (.int k' b) = true ↔ a = b := by
  obtain ⟨m, widened, represents⟩ := asInt?_int ha
  obtain ⟨o, widened', represents'⟩ := asInt?_int hb
  simp only [satisfies, widened, widened']
  exact Magnitude.equal_iff represents represents'

example : (Value.int .i64 (-9223372036854775808)).satisfies (.int .int (-9223372036854775808)) =
    true := by decide

example : (Value.int .u64 18446744073709551615).satisfies (.int .i64 (-1)) = false := by decide

/-- The equality filters mean between a property value and a filter value: integers by their
values, doubles by IEEE equality, strings and truth values by equality, and nothing else. -/
def Equal : Value → Value → Prop
  | .int _ a, .int _ b => a = b
  | .float a, .float b => (a == b) = true
  | .str a, .str b => a = b
  | .bool a, .bool b => a = b
  | _, _ => False

/-- Whether an integer lies in the range of its type; every other value is as it should be.
A value of a program is always in range, since its type bounds it. -/
def inRange : Value → Bool
  | .int kind n => kind.holds n
  | _ => true

/-- On values in range, the comparison of filters is `Equal`. -/
theorem satisfies_iff_equal {a b : Value} (ha : a.inRange = true) (hb : b.inRange = true) :
    a.satisfies b = true ↔ a.Equal b := by
  cases a with
  | int k n =>
    cases b with
    | int k' m => exact satisfies_int ha hb
    | _ => simp [satisfies, asInt?, Equal]
  | _ => cases b <;> simp [satisfies, asInt?, Equal]

end Value

/-! ## Filters -/

namespace Client

/-- The value a filter's key is compared with: `true` for the requested key when the channel is
taken as requested, otherwise the channel's property, if it has one. -/
def comparedValue (props : Properties) (assumeRequested : Bool) (key : String) : Option Value :=
  if assumeRequested && key == requestedKey then some (.bool true) else props.get? key

/-- A filter qualifies when each of its keys has a compared value equal to the filter's. -/
def Qualifies (props : Properties) (assumeRequested : Bool) (filter : Properties) : Prop :=
  ∀ e ∈ filter, ∃ v, comparedValue props assumeRequested e.1 = some v ∧ v.Equal e.2

/-- A property's value is one of the map's values. -/
theorem mem_of_get? {props : Properties} {key : String} {v : Value} (found : props.get? key = some v) :
    ∃ e ∈ props, e.2 = v := by
  obtain ⟨e, hit, rfl⟩ := Option.map_eq_some_iff.1 found
  exact ⟨e, List.mem_of_find?_eq_some hit, rfl⟩

/-- Compared values of a map whose values are in range are in range. -/
theorem inRange_of_compared {props : Properties} {assumeRequested : Bool} {key : String}
    {v : Value} (ranged : ∀ e ∈ props, e.2.inRange = true)
    (compared : comparedValue props assumeRequested key = some v) : v.inRange = true := by
  unfold comparedValue at compared
  split at compared
  · cases compared
    rfl
  · obtain ⟨e, member, rfl⟩ := mem_of_get? compared
    exact ranged e member

/-- A filter's score, with each key's match read through its compared value. -/
theorem filterScore?_eq_if (props filter : Properties) (assumeRequested : Bool) :
    filterScore? props filter assumeRequested =
      if filter.all (fun e => (comparedValue props assumeRequested e.1).any (·.satisfies e.2))
      then some (filter.length + 1) else none := by
  simp only [filterScore?]
  congr 3
  funext e
  unfold comparedValue
  generalize (if (assumeRequested && e.1 == requestedKey) = true then some (Value.bool true)
    else props.get? e.1) = compared
  cases compared <;> rfl

/-- A key matches exactly when its compared value is `Equal` to the filter's. -/
theorem keyMatches_iff {props : Properties} {assumeRequested : Bool} {e : String × Value}
    (ranged : ∀ e ∈ props, e.2.inRange = true) (rangedWanted : e.2.inRange = true) :
    (comparedValue props assumeRequested e.1).any (·.satisfies e.2) = true ↔
      ∃ v, comparedValue props assumeRequested e.1 = some v ∧ v.Equal e.2 := by
  cases compared : comparedValue props assumeRequested e.1 with
  | none => simp
  | some v =>
    simp only [Option.any_some, Option.some.injEq, exists_eq_left']
    exact Value.satisfies_iff_equal (inRange_of_compared ranged compared) rangedWanted

/-- A filter of values in range scores `1 + keys` when it qualifies. -/
theorem filterScore?_of_qualifies {props filter : Properties} {assumeRequested : Bool}
    (ranged : ∀ e ∈ props, e.2.inRange = true) (rangedFilter : ∀ e ∈ filter, e.2.inRange = true)
    (qualifies : Qualifies props assumeRequested filter) :
    filterScore? props filter assumeRequested = some (filter.length + 1) := by
  have all : filter.all (fun e => (comparedValue props assumeRequested e.1).any (·.satisfies e.2)) =
      true := List.all_eq_true.2 fun e member =>
    (keyMatches_iff ranged (rangedFilter e member)).2 (qualifies e member)
  rw [filterScore?_eq_if, if_pos all]

/-- A filter of values in range that does not qualify has no score. -/
theorem filterScore?_of_not_qualifies {props filter : Properties} {assumeRequested : Bool}
    (ranged : ∀ e ∈ props, e.2.inRange = true) (rangedFilter : ∀ e ∈ filter, e.2.inRange = true)
    (fails : ¬ Qualifies props assumeRequested filter) :
    filterScore? props filter assumeRequested = none := by
  have notAll : filter.all (fun e => (comparedValue props assumeRequested e.1).any
      (·.satisfies e.2)) ≠ true := fun all => fails fun e member =>
    (keyMatches_iff ranged (rangedFilter e member)).1 (List.all_eq_true.1 all e member)
  rw [filterScore?_eq_if, if_neg notAll]

section Best

variable {props : Properties} {assumeRequested : Bool}

/-- The fold of `matchFilters` from any running best `start`: the result is at least `start` and
at least every qualifying score, and it is `start` or one of those scores. -/
theorem foldl_best (ranged : ∀ e ∈ props, e.2.inRange = true) :
    ∀ (filters : List Properties) (start : Nat), (∀ f ∈ filters, ∀ e ∈ f, e.2.inRange = true) →
      let best := filters.foldl (fun best f => match filterScore? props f assumeRequested with
        | some q => max best q
        | none => best) start
      start ≤ best ∧ (∀ f ∈ filters, Qualifies props assumeRequested f → f.length + 1 ≤ best) ∧
        (best = start ∨ ∃ f ∈ filters, Qualifies props assumeRequested f ∧ best = f.length + 1)
  | [], start, _ => by simp
  | f :: rest, start, rangedFilters => by
    have rangedRest : ∀ g ∈ rest, ∀ e ∈ g, e.2.inRange = true := fun g member =>
      rangedFilters g (List.mem_cons_of_mem f member)
    by_cases qualifies : Qualifies props assumeRequested f
    case pos =>
      -- the running best becomes `max start (1 + keys)` and the rest is folded from there
      obtain ⟨above, bounds, reached⟩ := foldl_best ranged rest (max start (f.length + 1)) rangedRest
      simp only [List.foldl_cons, filterScore?_of_qualifies ranged (rangedFilters f
        List.mem_cons_self) qualifies]
      refine ⟨le_trans (le_max_left _ _) above, ?_, ?_⟩
      · intro g member qualifiesG
        rcases List.mem_cons.1 member with rfl | later
        · exact le_trans (le_max_right _ _) above
        · exact bounds g later qualifiesG
      · rcases reached with same | ⟨g, member, qualifiesG, hit⟩
        · rcases max_choice start (f.length + 1) with first | second
          · exact .inl (same.trans first)
          · exact .inr ⟨f, List.mem_cons_self, qualifies, same.trans second⟩
        · exact .inr ⟨g, List.mem_cons_of_mem f member, qualifiesG, hit⟩
    case neg =>
      obtain ⟨above, bounds, reached⟩ := foldl_best ranged rest start rangedRest
      simp only [List.foldl_cons, filterScore?_of_not_qualifies ranged (rangedFilters f
        List.mem_cons_self) qualifies]
      refine ⟨above, ?_, ?_⟩
      · intro g member qualifiesG
        rcases List.mem_cons.1 member with rfl | later
        · exact absurd qualifiesG qualifies
        · exact bounds g later qualifiesG
      · rcases reached with same | ⟨g, member, qualifiesG, hit⟩
        · exact .inl same
        · exact .inr ⟨g, List.mem_cons_of_mem f member, qualifiesG, hit⟩

/-- A channel's score is the best `1 + keys` over the filters that qualify, and `0` when none
does. Values are those of a program: each integer in the range of its type. -/
theorem matchFilters_is_best_qualifying_score (filters : List Properties)
    (ranged : ∀ e ∈ props, e.2.inRange = true)
    (rangedFilters : ∀ f ∈ filters, ∀ e ∈ f, e.2.inRange = true) :
    (∀ f ∈ filters, Qualifies props assumeRequested f →
        f.length + 1 ≤ matchFilters props filters assumeRequested) ∧
      ((matchFilters props filters assumeRequested = 0 ∧
          ∀ f ∈ filters, ¬ Qualifies props assumeRequested f) ∨
        ∃ f ∈ filters, Qualifies props assumeRequested f ∧
          matchFilters props filters assumeRequested = f.length + 1) := by
  obtain ⟨-, bounds, reached⟩ := @foldl_best props assumeRequested ranged filters 0 rangedFilters
  refine ⟨bounds, ?_⟩
  rcases reached with none | some
  · -- a score of `0` leaves no room for a qualifying filter, whose score is at least `1`
    exact .inl ⟨none, fun f member qualifies => by
      have := bounds f member qualifies
      omega⟩
  · exact .inr some

/-- The best score among filters on the extreme integers: the least 64-bit signed integer and
the greatest 64-bit unsigned one, each compared with a value of another type. -/
theorem best_score_of_extreme_integers :
    let props : Properties :=
      [("n", .int .i64 (-9223372036854775808)), ("m", .int .u64 18446744073709551615)]
    let filters : List Properties :=
      [[("n", .int .int (-9223372036854775808))],
       [("n", .int .i64 (-9223372036854775808)), ("m", .int .uint 18446744073709551615)],
       [("m", .int .u8 255)]]
    (∀ e ∈ props, e.2.inRange = true) ∧ (∀ f ∈ filters, ∀ e ∈ f, e.2.inRange = true) ∧
      ((∀ f ∈ filters, Qualifies props false f → f.length + 1 ≤ matchFilters props filters false) ∧
        ((matchFilters props filters false = 0 ∧ ∀ f ∈ filters, ¬ Qualifies props false f) ∨
          ∃ f ∈ filters, Qualifies props false f ∧ matchFilters props filters false = f.length + 1)) :=
  have ranged := by decide
  have rangedFilters := by decide
  ⟨ranged, rangedFilters, matchFilters_is_best_qualifying_score _ ranged rangedFilters⟩

end Best

end Client

end MissionControl
