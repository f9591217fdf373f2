import Mathlib
import MissionControl.Client.Name

/-!
# The grammar of client names

A client name suffix is a byte string in the language `E('.'E)*`, where an element `E` is an
ASCII letter or `_` followed by ASCII letters, digits, `_` and `-` (`IsValidSuffix`). Its
elements are the dot-free pieces that joined by dots give it back (`Pieces`); these are what
splitting at every dot gives, leading, trailing and doubled dots making empty elements
(`pieces_iff`).

The check accepts exactly the suffixes of the language (`checkSuffix_eq_ok_iff`). It refuses an
empty suffix as such, and any other by the first element that is not one, with the reason
(`Faulty`): the element is empty (with its index), its first byte cannot start an element, or
else the first byte that cannot stand in one (`checkSuffix_eq_error_iff`). Every refusal reads as
an invalid client name.

Main statement: `client_name_grammar`.
-/

set_option autoImplicit false

namespace MissionControl

namespace Client

/-- A byte that may start an element: an ASCII letter or `_`. -/
def StartsElement (b : UInt8) : Prop := (65 ≤ b ∧ b ≤ 90) ∨ (97 ≤ b ∧ b ≤ 122) ∨ b = 95

/-- A byte that may stand in an element: one that may start it, an ASCII digit, or `-`. -/
def InElement (b : UInt8) : Prop := StartsElement b ∨ (48 ≤ b ∧ b ≤ 57) ∨ b = 45

instance : DecidablePred StartsElement := fun _ => inferInstanceAs (Decidable (_ ∨ _))

instance : DecidablePred InElement := fun _ => inferInstanceAs (Decidable (_ ∨ _))

/-- An element: a byte that may start one, then bytes that may stand in one. -/
def IsElement : List UInt8 → Prop
  | [] => False
  | b :: rest => StartsElement b ∧ ∀ c ∈ rest, InElement c

/-- The language `E('.'E)*` of client name suffixes. -/
def IsValidSuffix (suffix : List UInt8) : Prop :=
  ∃ es : List (List UInt8), es ≠ [] ∧ (∀ e ∈ es, IsElement e) ∧ suffix = [dot].intercalate es

/-- The elements of a suffix: dot-free pieces that, joined by dots, give it back. -/
def Pieces (suffix : List UInt8) (es : List (List UInt8)) : Prop :=
  es ≠ [] ∧ (∀ e ∈ es, dot ∉ e) ∧ suffix = [dot].intercalate es

/-- Why element `e`, at position `index` of `suffix`, is not one, as the error `err` says. -/
inductive Faulty (suffix : List UInt8) (index : Nat) : List UInt8 → NameError → Prop
  /-- The element is empty. -/
  | empty : Faulty suffix index [] (.emptyElement suffix index)
  /-- Its first byte cannot start an element. -/
  | badStart {b : UInt8} {rest : List UInt8} (start : ¬ StartsElement b) :
      Faulty suffix index (b :: rest) (.badStart (b :: rest))
  /-- It starts well, and `c` is its first byte that cannot stand in an element. -/
  | badByte {b c : UInt8} {rest pre post : List UInt8} (start : StartsElement b)
      (split : rest = pre ++ c :: post) (fine : ∀ x ∈ pre, InElement x) (bad : ¬ InElement c) :
      Faulty suffix index (b :: rest) (.badByte (b :: rest) c)

/-! ## Bytes -/

theorem startsElement_iff (b : UInt8) : (isLetterByte b || b = 95) = true ↔ StartsElement b := by
  simp only [isLetterByte, StartsElement, Bool.or_eq_true, Bool.and_eq_true, decide_eq_true_eq]
  tauto

theorem inElement_iff (b : UInt8) : isElementByte b = true ↔ InElement b := by
  simp only [isElementByte, InElement, Bool.or_eq_true, Bool.and_eq_true, decide_eq_true_eq,
    ← startsElement_iff]
  tauto

theorem inElement_of_startsElement {b : UInt8} (start : StartsElement b) : InElement b :=
  .inl start

/-- The dot stands in no element, so an element has none. -/
theorem dot_not_mem_of_isElement {e : List UInt8} (element : IsElement e) : dot ∉ e := by
  have outside : ¬ InElement dot := by decide
  match e, element with
  | b :: rest, ⟨start, fine⟩ =>
    intro mem
    rcases List.mem_cons.mp mem with first | later
    · exact outside (first ▸ inElement_of_startsElement start)
    · exact outside (fine dot later)

/-! ## One element -/

/-- The check of one element finds nothing wrong exactly with an element. -/
theorem checkElement_eq_none_iff (suffix : List UInt8) (index : Nat) (e : List UInt8) :
    checkElement suffix index e = none ↔ IsElement e := by
  cases e with
  | nil => simp [checkElement, IsElement]
  | cons b rest =>
    unfold checkElement
    by_cases start : StartsElement b
    · have first : (isLetterByte b || b = 95) = true := (startsElement_iff b).mpr start
      simp only [first, Bool.not_true, Bool.false_eq_true, if_false, Option.map_eq_none_iff,
        List.find?_eq_none, Bool.not_eq_true', IsElement, start, true_and]
      constructor
      · intro clean c mem
        have := clean c (List.mem_cons_of_mem _ mem)
        simpa [Bool.not_eq_false', inElement_iff] using this
      · intro fine c mem
        rcases List.mem_cons.mp mem with rfl | later
        · simpa [Bool.not_eq_false', inElement_iff] using inElement_of_startsElement start
        · simpa [Bool.not_eq_false', inElement_iff] using fine c later
    · have first : (isLetterByte b || b = 95) = false := by
        simpa [← startsElement_iff] using start
      simp [first, IsElement, start]

/-- The check of one element reports a fault exactly as `Faulty` describes it. -/
theorem checkElement_eq_some_iff (suffix : List UInt8) (index : Nat) (e : List UInt8)
    (err : NameError) :
    checkElement suffix index e = some err ↔ Faulty suffix index e err := by
  cases e with
  | nil =>
    simp only [checkElement, Option.some.injEq]
    constructor
    · rintro rfl
      exact .empty
    · rintro ⟨⟩
      rfl
  | cons b rest =>
    unfold checkElement
    by_cases start : StartsElement b
    · have first : (isLetterByte b || b = 95) = true := (startsElement_iff b).mpr start
      -- the first byte passes the scan too, so the first bad byte is in the rest
      have skip : (b :: rest).find? (fun c => !isElementByte c) =
          rest.find? (fun c => !isElementByte c) := by
        apply List.find?_cons_of_neg
        simpa [inElement_iff] using inElement_of_startsElement start
      simp only [first, Bool.not_true, Bool.false_eq_true, if_false, skip, Option.map_eq_some_iff,
        List.find?_eq_some_iff_append, Bool.not_not]
      constructor
      · rintro ⟨c, ⟨bad, pre, post, split, fine⟩, rfl⟩
        exact .badByte start split (fun x mem => (inElement_iff x).mp (fine x mem))
          (fun inside => by simp [(inElement_iff c).mpr inside] at bad)
      · intro faulty
        cases faulty with
        | badStart notStart => exact absurd start notStart
        | @badByte _ c _ pre post _ split fine bad =>
          refine ⟨c, ⟨?_, pre, post, split, fun x mem => (inElement_iff x).mpr (fine x mem)⟩, rfl⟩
          rw [Bool.not_eq_true']
          exact Bool.eq_false_iff.mpr fun inside => bad ((inElement_iff c).mp inside)
    · have first : (isLetterByte b || b = 95) = false := by
        simpa [← startsElement_iff] using start
      simp only [first, Bool.not_false, if_true, Option.some.injEq]
      constructor
      · rintro rfl
        exact .badStart start
      · intro faulty
        cases faulty with
        | badStart _ => rfl
        | badByte started => exact absurd started start

/-! ## The elements in order -/

/-- No element is at fault exactly when each is an element. -/
theorem checkElements_eq_none_iff (suffix : List UInt8) :
    ∀ (index : Nat) (es : List (List UInt8)),
      checkElements suffix index es = none ↔ ∀ e ∈ es, IsElement e := by
  intro index es
  induction es generalizing index with
  | nil => simp [checkElements]
  | cons e rest ih =>
    unfold checkElements
    cases fault : checkElement suffix index e with
    | none =>
      have element := (checkElement_eq_none_iff suffix index e).mp fault
      simp [ih, element]
    | some err =>
      have : ¬ IsElement e := by
        rw [← checkElement_eq_none_iff suffix index e, fault]
        simp
      simp [this]

/-- The fault reported is that of the first element that is not one. -/
theorem checkElements_eq_some_iff (suffix : List UInt8) (err : NameError) :
    ∀ (index : Nat) (es : List (List UInt8)),
      checkElements suffix index es = some err ↔
        ∃ pre e post, es = pre ++ e :: post ∧ (∀ x ∈ pre, IsElement x) ∧
          Faulty suffix (index + pre.length) e err := by
  intro index es
  induction es generalizing index with
  | nil => simp [checkElements]
  | cons e rest ih =>
    unfold checkElements
    cases fault : checkElement suffix index e with
    | none =>
      -- this element is fine: the fault, if any, is in the rest, one position further on
      have element := (checkElement_eq_none_iff suffix index e).mp fault
      simp only [ih (index + 1)]
      constructor
      · rintro ⟨pre, e', post, rfl, fine, faulty⟩
        refine ⟨e :: pre, e', post, rfl, ?_, ?_⟩
        · simpa [element] using fine
        · simpa [Nat.add_assoc, Nat.add_comm 1] using faulty
      · rintro ⟨pre, e', post, split, fine, faulty⟩
        cases pre with
        | nil =>
          simp only [List.nil_append, List.cons.injEq] at split
          obtain ⟨rfl, rfl⟩ := split
          rw [← checkElement_eq_some_iff] at faulty
          simp [fault] at faulty
        | cons x pre =>
          simp only [List.cons_append, List.cons.injEq] at split
          obtain ⟨rfl, rfl⟩ := split
          exact ⟨pre, e', post, rfl, fun y mem => fine y (List.mem_cons_of_mem _ mem),
            by simpa [Nat.add_assoc, Nat.add_comm 1] using faulty⟩
    | some err' =>
      -- this element is the first at fault
      have faulty := (checkElement_eq_some_iff suffix index e err').mp fault
      simp only [Option.some.injEq]
      constructor
      · rintro rfl
        exact ⟨[], e, rest, rfl, by simp, by simpa using faulty⟩
      · rintro ⟨pre, e', post, split, fine, faulty'⟩
        cases pre with
        | nil =>
          simp only [List.nil_append, List.cons.injEq] at split
          obtain ⟨rfl, rfl⟩ := split
          rw [← checkElement_eq_some_iff] at faulty'
          simpa [fault] using faulty'
        | cons x pre =>
          simp only [List.cons_append, List.cons.injEq] at split
          obtain ⟨rfl, rfl⟩ := split
          have element := fine _ List.mem_cons_self
          rw [← checkElement_eq_none_iff suffix index] at element
          simp [fault] at element

/-! ## Elements of a suffix -/

/-- No piece of a split holds the separator. -/
theorem sep_not_mem_of_mem_splitOn {α : Type} [BEq α] [LawfulBEq α] (a : α) (xs : List α) :
    ∀ x ∈ xs.splitOn a, a ∉ x := by
  induction xs with
  | nil => simp
  | cons hd tl ih =>
    rw [List.splitOn_cons_eq_if_modifyHead]
    split
    · rintro x (_ | ⟨_, later⟩)
      · simp
      · exact ih x later
    · rename_i other
      obtain ⟨y, ys, pieces⟩ := List.exists_cons_of_ne_nil (List.splitOn_ne_nil a tl)
      rw [pieces] at ih ⊢
      rintro x (_ | ⟨_, later⟩)
      · intro mem
        rcases List.mem_cons.mp mem with same | inside
        · exact other (by simp [same])
        · exact ih y List.mem_cons_self inside
      · exact ih x (List.mem_cons_of_mem _ later)

/-- The elements of a suffix are what splitting it at every dot gives. -/
theorem pieces_iff {suffix : List UInt8} {es : List (List UInt8)} :
    Pieces suffix es ↔ es = suffix.splitOn dot := by
  constructor
  · rintro ⟨nonempty, dotless, rfl⟩
    exact (List.splitOn_intercalate dot dotless nonempty).symm
  · rintro rfl
    exact ⟨List.splitOn_ne_nil dot suffix, sep_not_mem_of_mem_splitOn dot suffix,
      (List.intercalate_splitOn dot).symm⟩

/-- Elements joined by dots are the elements of what they make. -/
theorem pieces_of_elements {suffix : List UInt8} {es : List (List UInt8)} (nonempty : es ≠ [])
    (elements : ∀ e ∈ es, IsElement e) (joined : suffix = [dot].intercalate es) :
    Pieces suffix es :=
  ⟨nonempty, fun e mem => dot_not_mem_of_isElement (elements e mem), joined⟩

/-- A suffix of the language is not empty: its first element is not. -/
theorem ne_nil_of_isValidSuffix {suffix : List UInt8} (valid : IsValidSuffix suffix) :
    suffix ≠ [] := by
  rintro rfl
  obtain ⟨es, nonempty, elements, joined⟩ := valid
  have split := pieces_iff.mp (pieces_of_elements nonempty elements joined)
  have empty := elements [] (by simp [split])
  exact empty

/-! ## The check of a suffix -/

/-- The check accepts exactly the suffixes of the language. -/
theorem checkSuffix_eq_ok_iff (suffix : List UInt8) :
    checkSuffix suffix = .ok () ↔ IsValidSuffix suffix := by
  unfold checkSuffix
  by_cases empty : suffix = []
  · subst empty
    simp only [List.isEmpty_nil, if_true, reduceCtorEq, false_iff]
    exact fun valid => ne_nil_of_isValidSuffix valid rfl
  · simp only [List.isEmpty_iff, empty, if_false]
    have split : (checkElements suffix 0 (suffix.splitOn dot) = none) ↔ IsValidSuffix suffix := by
      rw [checkElements_eq_none_iff]
      constructor
      · intro elements
        exact ⟨_, List.splitOn_ne_nil dot suffix, elements, (List.intercalate_splitOn dot).symm⟩
      · rintro ⟨es, nonempty, elements, joined⟩
        rw [← pieces_iff.mp (pieces_of_elements nonempty elements joined)]
        exact elements
    rw [← split]
    cases checkElements suffix 0 (suffix.splitOn dot) <;> simp

/-- The check refuses an empty suffix as such, and any other by the first of its elements that
is not one, with the reason. -/
theorem checkSuffix_eq_error_iff (suffix : List UInt8) (err : NameError) :
    checkSuffix suffix = .error err ↔
      (suffix = [] ∧ err = .empty) ∨
        (suffix ≠ [] ∧ ∃ pre e post, Pieces suffix (pre ++ e :: post) ∧
          (∀ x ∈ pre, IsElement x) ∧ Faulty suffix pre.length e err) := by
  unfold checkSuffix
  by_cases empty : suffix = []
  · subst empty
    simp [eq_comm]
  · simp only [List.isEmpty_iff, empty, if_false, false_and, false_or, ne_eq, not_false_eq_true,
      true_and]
    have fault := checkElements_eq_some_iff suffix err 0 (suffix.splitOn dot)
    simp only [Nat.zero_add, @eq_comm _ (suffix.splitOn dot)] at fault
    simp only [pieces_iff]
    rw [← fault]
    cases checkElements suffix 0 (suffix.splitOn dot) <;> simp

/-- Every refusal reads as an invalid client name, followed by what is wrong with it. -/
theorem message_invalid_name :
    ∀ err : NameError, ∃ detail, err.message = invalidNameText ++ ": " ++ detail
  | .empty => ⟨"empty name", by simp [NameError.message, invalidNameText]⟩
  | .emptyElement s i => ⟨Text.quoteBytes s ++ " has an empty element at " ++ toString i,
      by simp [NameError.message, invalidNameText, ← String.append_assoc]⟩
  | .badStart e => ⟨"element " ++ Text.quoteBytes e ++ " must start with a letter or '_'",
      by simp [NameError.message, invalidNameText, ← String.append_assoc]⟩
  | .badByte e b => ⟨"element " ++ Text.quoteBytes e ++ " contains " ++
      Text.quoteChar (Char.ofNat b.toNat),
      by simp [NameError.message, invalidNameText, ← String.append_assoc]⟩

/-! ## The grammar -/

/-- The check of a client name suffix decides the language `E('.'E)*` byte by byte. An empty
suffix is refused as such; any other refused suffix is refused for the first of its elements, in
order, that is not one, with the reason and, for an empty element, its index. Every refusal reads
as an invalid client name. A name given as text is checked by its bytes (`checkName`). -/
theorem client_name_grammar (suffix : List UInt8) :
    (checkSuffix suffix = .ok () ↔ IsValidSuffix suffix) ∧
    (∀ err, checkSuffix suffix = .error err ↔
      (suffix = [] ∧ err = .empty) ∨
        (suffix ≠ [] ∧ ∃ pre e post, Pieces suffix (pre ++ e :: post) ∧
          (∀ x ∈ pre, IsElement x) ∧ Faulty suffix pre.length e err)) ∧
    (∀ err, checkSuffix suffix = .error err →
      ∃ detail, err.message = invalidNameText ++ ": " ++ detail) :=
  ⟨checkSuffix_eq_ok_iff suffix, checkSuffix_eq_error_iff suffix,
    fun err _ => message_invalid_name err⟩

end Client

end MissionControl
