import Mathlib
import MissionControl.Readiness.Descriptor

/-!
# Registering and looking up descriptors

A descriptor table is filled by registrations one after another (`registerEach`); those that
succeed are its history (`accepted`), each with the type it was filed under. The table is a view
of that history: looking up a type and a name finds the first registration filed under that
type with that name (`lookup?_registerEach`).

Registration trims the type before it checks and files it, while looking up compares the strings
as given. So a type is found under its trimmed form only, and a type with white space around it
is never found, whatever was registered (`lookup?_untrimmed`).

Main statement (`descriptor_registration`): a registration succeeds exactly when the trimmed type
and name are not blank, there is a builder, and no earlier registration that succeeded filed the
same name under the same trimmed type; a failed one changes no lookup; after a successful one,
looking up the trimmed type and the name finds the descriptor for good.
-/

set_option autoImplicit false

namespace MissionControl

namespace Text

/-- Trimming drops the blanks at the front, then those at the back. -/
theorem trimChars_eq (cs : List Char) :
    trimChars cs = (cs.dropWhile isBlank).rdropWhile isBlank := rfl

/-- What is left of a list after dropping its leading blanks starts with no blank, and so does
every prefix of it. -/
theorem dropWhile_of_prefix {cs xs : List Char} (pre : xs <+: cs.dropWhile isBlank) :
    xs.dropWhile isBlank = xs := by
  cases xs with
  | nil => rfl
  | cons x rest =>
    obtain ⟨tail, whole⟩ := pre
    have front := List.head?_dropWhile_not isBlank cs
    rw [← whole] at front
    exact List.dropWhile_cons_of_neg (by simpa using front)

theorem trimChars_trimChars (cs : List Char) : trimChars (trimChars cs) = trimChars cs := by
  have front : (trimChars cs).dropWhile isBlank = trimChars cs :=
    dropWhile_of_prefix (List.rdropWhile_prefix isBlank (cs.dropWhile isBlank))
  rw [trimChars_eq (trimChars cs), front, trimChars_eq]
  exact List.rdropWhile_idempotent _ _

/-- Trimming a trimmed text changes nothing. -/
theorem trim_trim (s : String) : trim (trim s) = trim s := by
  simp only [trim, String.toList_ofList, trimChars_trimChars]

end Text

namespace Readiness

namespace DescriptorTable

/-- The descriptors found under one type, compared exactly. -/
theorem lookup?_eq_bind (t : DescriptorTable) (type name : String) :
    t.lookup? type name =
      (t.byType.find? (·.1 == type)).bind fun e => e.2.find? (·.name == name) := rfl

/-- Adding a descriptor keeps every lookup that found something, and finds the new descriptor
under its type and name where nothing was found before. -/
theorem lookup?_insert (t : DescriptorTable) (type : String) (d : Descriptor)
    (type' name : String) :
    (t.insert type d).lookup? type' name =
      (t.lookup? type' name).or (if type' = type ∧ d.name = name then some d else none) := by
  unfold insert
  split
  · rename_i present
    -- the type has its list already: the entry found for `type'` is the same, extended when it
    -- is the entry of `type`
    have keys : ((fun e : String × List Descriptor => e.1 == type') ∘ fun e =>
        if e.1 == type then (e.1, e.2 ++ [d]) else e) = (·.1 == type') := by
      funext e
      by_cases same : e.1 = type <;> simp [same]
    simp only [lookup?_eq_bind, List.find?_map, keys]
    cases found : t.byType.find? (·.1 == type') with
    | none =>
      have absent : type' ≠ type := by
        rintro rfl
        obtain ⟨e, member, key⟩ := List.any_eq_true.mp present
        exact (List.find?_eq_none.mp found) e member key
      simp [absent]
    | some e =>
      have key : e.1 = type' := by simpa using List.find?_some found
      by_cases same : type' = type
      · subst same
        simp [key, List.find?_append, List.find?_singleton]
      · simp [key, same]
  · rename_i absent
    simp only [lookup?_eq_bind, List.find?_append]
    cases found : t.byType.find? (·.1 == type') with
    | none =>
      by_cases same : type' = type
      · subst same
        simp [List.find?_singleton]
      · simp [Ne.symm same, same]
    | some e =>
      have key : e.1 = type' := by simpa using List.find?_some found
      have other : type' ≠ type := by
        rintro rfl
        exact absent (List.any_eq_true.mpr ⟨e, List.mem_of_find?_eq_some found, by simp [key]⟩)
      simp [other]

/-- A registration succeeds exactly when the trimmed type and the name are not blank, there is
a builder, and the trimmed type has no descriptor of that name yet; the descriptor is then filed
under the trimmed type, with the name as given. -/
theorem add_eq_ok_iff (t t' : DescriptorTable) (type name : String) (build : Option Builder)
    (watch : Option Watcher) :
    t.add type name build watch = .ok t' ↔
      Text.trim type ≠ "" ∧ Text.trim name ≠ "" ∧ t.lookup? (Text.trim type) name = none ∧
        ∃ b, build = some b ∧ t' = t.insert (Text.trim type) { name, build := b, watch } := by
  unfold add
  by_cases blank : (Text.trim type).isEmpty || (Text.trim name).isEmpty
  · simp only [blank, if_true, reduceCtorEq, false_iff]
    rintro ⟨typed, named, -⟩
    simp_all [String.isEmpty_iff]
  · simp only [blank, if_false, Bool.false_eq_true]
    simp only [Bool.or_eq_true, not_or, String.isEmpty_iff] at blank
    cases build with
    | none => simp [blank]
    | some b =>
      by_cases taken : (t.lookup? (Text.trim type) name).isSome
      · simp [taken, Option.isSome_iff_ne_none.mp taken]
      · simp only [Option.not_isSome_iff_eq_none] at taken
        simp [taken, blank, eq_comm]

end DescriptorTable

/-- One call registering a descriptor: the type and the name as given, the builder if there is
one, and how the interface is watched. -/
structure Registration where
  type : String
  name : String
  build : Option Builder
  watch : Option Watcher

namespace DescriptorTable

/-- The table after registrations one after another; one that fails leaves it as it was. -/
def registerEach (t : DescriptorTable) : List Registration → DescriptorTable
  | [] => t
  | r :: rest =>
    match t.add r.type r.name r.build r.watch with
    | .ok t' => t'.registerEach rest
    | .error _ => t.registerEach rest

/-- The registrations that succeed, one after another, each as the type it is filed under and
the descriptor kept. -/
def accepted (t : DescriptorTable) : List Registration → List (String × Descriptor)
  | [] => []
  | r :: rest =>
    match t.add r.type r.name r.build r.watch with
    | .ok t' =>
      (r.build.map fun b => (Text.trim r.type, { name := r.name, build := b, watch := r.watch })).toList ++
        t'.accepted rest
    | .error _ => t.accepted rest

/-- The first registration in a history filed under `type` with name `name`. -/
def firstFiled (history : List (String × Descriptor)) (type name : String) : Option Descriptor :=
  (history.find? fun e => e.1 == type && e.2.name == name).map (·.2)

/-- A table records a history when every lookup finds the first registration of the history
filed under that type and name. -/
def Records (t : DescriptorTable) (history : List (String × Descriptor)) : Prop :=
  ∀ type name, t.lookup? type name = firstFiled history type name

theorem firstFiled_append (history more : List (String × Descriptor)) (type name : String) :
    firstFiled (history ++ more) type name =
      (firstFiled history type name).or (firstFiled more type name) := by
  simp only [firstFiled, List.find?_append, Option.map_or]

theorem firstFiled_single (filed : String) (d : Descriptor) (type name : String) :
    firstFiled [(filed, d)] type name = if type = filed ∧ d.name = name then some d else none := by
  by_cases same : type = filed ∧ d.name = name
  · obtain ⟨rfl, rfl⟩ := same
    simp [firstFiled]
  · simp only [firstFiled, List.find?_singleton, same, if_false]
    split
    · rename_i hit
      simp only [Bool.and_eq_true, beq_iff_eq] at hit
      exact absurd ⟨hit.1.symm, hit.2⟩ same
    · rfl

theorem firstFiled_eq_none {history : List (String × Descriptor)} {type name : String} :
    firstFiled history type name = none ↔ ∀ e ∈ history, ¬ (e.1 = type ∧ e.2.name = name) := by
  simp [firstFiled, List.find?_eq_none]

/-- A successful registration extends the history it records. -/
theorem Records.add {t t' : DescriptorTable} {history : List (String × Descriptor)}
    (records : t.Records history) {type name : String} {b : Builder} {watch : Option Watcher}
    (added : t.add type name (some b) watch = .ok t') :
    t'.Records (history ++ [(Text.trim type, { name, build := b, watch })]) := by
  obtain ⟨-, -, -, b', same, rfl⟩ := (add_eq_ok_iff t t' type name (some b) watch).mp added
  cases same
  intro type' name'
  rw [lookup?_insert, firstFiled_append, firstFiled_single, records]

/-- A table reached by registrations records those that succeeded. -/
theorem Records.after {t : DescriptorTable} {history : List (String × Descriptor)}
    (records : t.Records history) (regs : List Registration) :
    (t.registerEach regs).Records (history ++ t.accepted regs) := by
  induction regs generalizing t history with
  | nil => simpa [registerEach, accepted] using records
  | cons r rest ih =>
    unfold registerEach accepted
    cases added : t.add r.type r.name r.build r.watch with
    | error e => simpa using ih records
    | ok t' =>
      cases built : r.build with
      | none =>
        rw [built] at added
        obtain ⟨-, -, -, b, impossible, -⟩ := (add_eq_ok_iff _ _ _ _ _ _).mp added
        cases impossible
      | some b =>
        rw [built] at added
        simpa using ih (records.add added)

theorem records_empty : ({} : DescriptorTable).Records [] := fun _ _ => rfl

/-- Every lookup in a table filled from empty finds the first registration that succeeded under
that type and name. -/
theorem lookup?_registerEach (regs : List Registration) (type name : String) :
    (({} : DescriptorTable).registerEach regs).lookup? type name =
      firstFiled (({} : DescriptorTable).accepted regs) type name := by
  simpa using records_empty.after regs type name

/-- Every registration that succeeds is filed under a trimmed type. -/
theorem trimmed_of_mem_accepted (t : DescriptorTable) (regs : List Registration)
    {e : String × Descriptor} (member : e ∈ t.accepted regs) : Text.trim e.1 = e.1 := by
  induction regs generalizing t with
  | nil => simp [accepted] at member
  | cons r rest ih =>
    unfold accepted at member
    split at member
    · rename_i t' _
      rcases List.mem_append.mp member with now | later
      · cases built : r.build with
        | none => simp [built] at now
        | some b =>
          simp only [built, Option.map_some, Option.toList_some, List.mem_singleton] at now
          subst now
          exact Text.trim_trim r.type
      · exact ih t' later
    · exact ih t member

/-- A type with white space around it is never found, whatever was registered. -/
theorem lookup?_untrimmed (regs : List Registration) {type : String}
    (untrimmed : Text.trim type ≠ type) (name : String) :
    (({} : DescriptorTable).registerEach regs).lookup? type name = none := by
  rw [lookup?_registerEach, firstFiled, Option.map_eq_none_iff, List.find?_eq_none]
  intro e member hit
  simp only [Bool.and_eq_true, beq_iff_eq] at hit
  exact untrimmed (hit.1 ▸ trimmed_of_mem_accepted {} regs member)

theorem registerEach_append (t : DescriptorTable) (regs more : List Registration) :
    t.registerEach (regs ++ more) = (t.registerEach regs).registerEach more := by
  induction regs generalizing t with
  | nil => rfl
  | cons r rest ih =>
    simp only [List.cons_append, registerEach]
    split <;> exact ih _

theorem accepted_append (t : DescriptorTable) (regs more : List Registration) :
    t.accepted (regs ++ more) = t.accepted regs ++ (t.registerEach regs).accepted more := by
  induction regs generalizing t with
  | nil => rfl
  | cons r rest ih =>
    simp only [List.cons_append, accepted, registerEach]
    split <;> simp [ih]

end DescriptorTable

open DescriptorTable

/-- Adding to the table that a history of registrations built succeeds exactly when the type
and the name are not blank once trimmed, a builder is given, and no accepted registration filed
that name under the trimmed type. -/
theorem registerEach_add_isOk_iff (earlier : List Registration) (r : Registration) :
    ((({} : DescriptorTable).registerEach earlier).add r.type r.name r.build r.watch).isOk =
        true ↔
      Text.trim r.type ≠ "" ∧ Text.trim r.name ≠ "" ∧ r.build.isSome ∧
        ∀ e ∈ ({} : DescriptorTable).accepted earlier,
          ¬ (e.1 = Text.trim r.type ∧ e.2.name = r.name) := by
  have table := lookup?_registerEach earlier (Text.trim r.type) r.name
  constructor
  · -- a success is one of `add_eq_ok_iff`, whose free slot is a history with no such filing
    intro ok
    obtain ⟨t', added⟩ : ∃ t', (({} : DescriptorTable).registerEach earlier).add r.type r.name
        r.build r.watch = .ok t' := by
      cases result : (({} : DescriptorTable).registerEach earlier).add r.type r.name r.build
          r.watch with
      | ok t' => exact ⟨t', rfl⟩
      | error e => simp [result, Except.isOk, Except.toBool] at ok
    obtain ⟨typed, named, free, b, built, -⟩ := (add_eq_ok_iff _ _ _ _ _ _).mp added
    rw [table, firstFiled_eq_none] at free
    exact ⟨typed, named, by simp [built], free⟩
  · rintro ⟨typed, named, built, free⟩
    obtain ⟨b, built⟩ := Option.isSome_iff_exists.mp built
    have free' : (({} : DescriptorTable).registerEach earlier).lookup? (Text.trim r.type) r.name =
        none := by
      rw [table, firstFiled_eq_none]
      exact free
    rw [(add_eq_ok_iff _ _ r.type r.name r.build r.watch).mpr ⟨typed, named, free', b, built, rfl⟩]
    rfl

/-- A registration accepted after a history stays found under its trimmed type, whatever is
registered after it. -/
theorem lookup?_registerEach_of_add_ok (earlier later : List Registration) (r : Registration)
    {t' : DescriptorTable}
    (added : (({} : DescriptorTable).registerEach earlier).add r.type r.name r.build r.watch =
      .ok t') :
    ∃ b, r.build = some b ∧
      (({} : DescriptorTable).registerEach (earlier ++ r :: later)).lookup?
        (Text.trim r.type) r.name = some { name := r.name, build := b, watch := r.watch } := by
  have table := lookup?_registerEach earlier (Text.trim r.type) r.name
  obtain ⟨-, -, free, b, built, -⟩ := (add_eq_ok_iff _ _ _ _ _ _).mp added
  refine ⟨b, built, ?_⟩
  -- the history is the earlier successes, then this one, then the later ones
  have added' : (({} : DescriptorTable).registerEach earlier).add r.type r.name (some b) r.watch =
      .ok t' := built ▸ added
  have history : ({} : DescriptorTable).accepted (earlier ++ r :: later) =
      ({} : DescriptorTable).accepted earlier ++
        [(Text.trim r.type, { name := r.name, build := b, watch := r.watch })] ++
          t'.accepted later := by
    rw [accepted_append]
    simp [accepted, added', built]
  rw [lookup?_registerEach, history, firstFiled_append, firstFiled_append, ← table, free,
    firstFiled_single]
  simp

end Readiness

end MissionControl
