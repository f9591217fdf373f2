import Mathlib
import MissionControl.Proofs.Hub.Watches

/-!
# Which signals a rule selects

A signal's name encodes its interface and member, joined by a dot. Interface names contain dots
themselves, so the name is split at its last dot: the member is what follows it, and a name with
no dot is a member of no interface (`Signal.SplitsAt`, `Signal.splitName_eq_iff`). A rule then
selects a signal when each of its five fields is empty or agrees, the first argument only with a
body that starts with that very string (`MatchRule.selects_iff`).

A watch of ownership changes puts a rule for the daemon's `NameOwnerChanged` signal, narrowed to
one name when it has one, and hands on only signals whose body is exactly three strings
(`Bus.ownershipWatch_hears`). On the scripted bus, emitting a signal gives the subscriptions
their turns in the order they were made, and a watch notes what it hears only while it is live
(`Hub.deliverEach_watchTurn`, `Hub.emit_ownerWatches`).

Main statement: `Hub.signal_selection`.
-/

set_option autoImplicit false

namespace MissionControl

namespace Signal

/-- `name` splits into `iface` and `member` at its last dot, or, with no dot at all, into no
interface and the whole name as member. -/
def SplitsAt (name iface member : String) : Prop :=
  (name = iface ++ "." ++ member ∧ '.' ∉ member.toList) ∨
    ('.' ∉ name.toList ∧ iface = "" ∧ member = name)

/-- Splitting reads the name backwards up to its first dot from the end. -/
theorem splitName_eq (name : String) :
    splitName name =
      match name.toList.reverse.dropWhile (· != '.') with
      | [] => ("", name)
      | _ :: iface =>
        (String.ofList iface.reverse,
          String.ofList (name.toList.reverse.takeWhile (· != '.')).reverse) := by
  unfold splitName
  rw [List.span_eq_takeWhile_dropWhile]
  cases List.dropWhile (· != '.') name.toList.reverse <;> rfl

/-- A member with no dot is split off after the last dot. -/
theorem splitName_append {iface member : String} (dotless : '.' ∉ member.toList) :
    splitName (iface ++ "." ++ member) = (iface, member) := by
  have kept : ∀ c ∈ member.toList.reverse, (c != '.') = true := by
    intro c mem
    have : c ≠ '.' := fun same => dotless (same ▸ List.mem_reverse.mp mem)
    simpa using this
  have reversed : (iface ++ "." ++ member).toList.reverse =
      member.toList.reverse ++ '.' :: iface.toList.reverse := by
    simp
  rw [splitName_eq, reversed, List.dropWhile_append_of_pos kept, List.takeWhile_append_of_pos kept]
  simp [String.ofList_toList]

/-- A name with no dot is a member of no interface. -/
theorem splitName_of_dotless {name : String} (dotless : '.' ∉ name.toList) :
    splitName name = ("", name) := by
  have gone : name.toList.reverse.dropWhile (· != '.') = [] := by
    rw [List.dropWhile_eq_nil_iff]
    intro c mem
    have : c ≠ '.' := fun same => dotless (same ▸ List.mem_reverse.mp mem)
    simpa using this
  rw [splitName_eq, gone]

/-- What splitting gives is a split at the last dot. -/
theorem splitsAt_splitName (name : String) :
    SplitsAt name (splitName name).1 (splitName name).2 := by
  rw [splitName_eq]
  split
  · rename_i gone
    refine .inr ⟨fun mem => ?_, rfl, rfl⟩
    have := (List.dropWhile_eq_nil_iff.mp gone) '.' (List.mem_reverse.mpr mem)
    simp at this
  · rename_i c iface rest
    -- the first byte kept by `dropWhile` stops it, so it is the dot
    have stop := List.head?_dropWhile_not (· != '.') name.toList.reverse
    rw [rest] at stop
    have dot : c = '.' := by simpa using stop
    subst dot
    have whole := List.takeWhile_append_dropWhile (p := (· != '.')) (l := name.toList.reverse)
    rw [rest] at whole
    refine .inl ⟨?_, fun mem => ?_⟩
    · rw [← String.toList_inj]
      have := congrArg List.reverse whole
      simp only [List.reverse_reverse, List.reverse_append, List.reverse_cons] at this
      simp [this]
    · have := List.mem_takeWhile_imp (List.mem_reverse.mp (by simpa using mem))
      simp at this

/-- A name has one split at its last dot, and splitting finds it. -/
theorem splitName_eq_iff {name iface member : String} :
    splitName name = (iface, member) ↔ SplitsAt name iface member := by
  constructor
  · intro split
    have := splitsAt_splitName name
    rwa [split] at this
  · rintro (⟨rfl, dotless⟩ | ⟨dotless, rfl, rfl⟩)
    · exact splitName_append dotless
    · exact splitName_of_dotless dotless

end Signal

namespace MatchRule

/-- A rule selects a signal exactly when each field is empty or agrees: sender and path with the
signal's, interface and member with the split of its name, and the first argument with a body
that starts with that string. -/
theorem selects_iff (m : MatchRule) (sig : Signal) :
    m.selects sig = true ↔
      (m.sender = "" ∨ m.sender = sig.sender) ∧ (m.path = "" ∨ m.path = sig.path) ∧
        (m.interface = "" ∨ m.interface = (Signal.splitName sig.name).1) ∧
        (m.member = "" ∨ m.member = (Signal.splitName sig.name).2) ∧
        (m.arg0 = "" ∨ ∃ rest, sig.body = .str m.arg0 :: rest) := by
  unfold selects
  simp only [Bool.and_eq_true, Bool.or_eq_true, String.isEmpty_iff, beq_iff_eq, and_assoc]
  -- the first argument: only a body that starts with that very string
  cases body : sig.body with
  | nil => simp
  | cons v rest => cases v <;> simp

end MatchRule

namespace Bus

/-- A signal carries a change of owner exactly when its body is three strings. -/
theorem ownershipChange?_eq_some_iff {sig : Signal} {name old new : String} :
    ownershipChange? sig = some (name, old, new) ↔ sig.body = [.str name, .str old, .str new] := by
  constructor
  · intro change
    unfold ownershipChange? at change
    split at change
    · cases change
      assumption
    · cases change
  · intro body
    simp [ownershipChange?, body]

/-- A name splits into the daemon's interface and the ownership member only when it is exactly
their join. -/
theorem splitName_eq_ownership {name : String} :
    Signal.splitName name = (daemonInterface, nameOwnerChanged) ↔
      name = daemonInterface ++ "." ++ nameOwnerChanged := by
  have dotless : '.' ∉ nameOwnerChanged.toList := by decide
  have named : daemonInterface ≠ "" := by decide
  rw [Signal.splitName_eq_iff, Signal.SplitsAt]
  simp [dotless, named]

/-- A watch of ownership changes, of one name or (empty name) of all, hears a change exactly from
the daemon's `NameOwnerChanged` signal, sent by the daemon from its path, with a body of exactly
three strings, the first of which is the name watched when there is one. -/
theorem ownershipWatch_hears (watched : String) (sig : Signal) (name old new : String) :
    ((ownershipRule watched).selects sig = true ∧
        ownershipChange? sig = some (name, old, new)) ↔
      sig.sender = daemonName ∧ sig.path = daemonPath ∧
        sig.name = daemonInterface ++ "." ++ nameOwnerChanged ∧
        sig.body = [.str name, .str old, .str new] ∧ (watched = "" ∨ name = watched) := by
  have split : (daemonInterface = (Signal.splitName sig.name).1 ∧
      nameOwnerChanged = (Signal.splitName sig.name).2) ↔
        sig.name = daemonInterface ++ "." ++ nameOwnerChanged := by
    rw [← splitName_eq_ownership, Prod.ext_iff]
    constructor <;> rintro ⟨left, right⟩ <;> exact ⟨left.symm, right.symm⟩
  have sender : daemonName ≠ "" := by decide
  have path : daemonPath ≠ "" := by decide
  have iface : daemonInterface ≠ "" := by decide
  have member : nameOwnerChanged ≠ "" := by decide
  rw [MatchRule.selects_iff, ownershipChange?_eq_some_iff]
  simp only [ownershipRule, sender, path, iface, member, false_or]
  constructor
  · rintro ⟨⟨fromDaemon, atPath, inIface, isMember, first⟩, body⟩
    refine ⟨fromDaemon.symm, atPath.symm, split.mp ⟨inIface, isMember⟩, body, ?_⟩
    rcases first with all | ⟨rest, starts⟩
    · exact .inl all
    · rw [body] at starts
      simp only [List.cons.injEq, Value.str.injEq] at starts
      exact .inr starts.1
  · rintro ⟨fromDaemon, atPath, named, body, first⟩
    refine ⟨⟨fromDaemon.symm, atPath.symm, (split.mpr named).1, (split.mpr named).2, ?_⟩, body⟩
    rcases first with all | same
    · exact .inl all
    · exact .inr ⟨[.str old, .str new], by rw [body, same]⟩

end Bus

namespace Hub

/-- The note a recording watch of ownership changes takes for one change. -/
def ownerNote (label : Json) (name old new : String) : Note :=
  .raw (.obj [("noc", label), ("name", .str name), ("old", .str old), ("new", .str new)])

/-- What a listener notes when a signal reaches it, for the listeners that only note: a
recording watch of ownership changes notes the change the signal carries, if it carries one. -/
def listenerNotes (l : Listener) (sig : Signal) : List Note :=
  match l with
  | .tapOwner label => ((Bus.ownershipChange? sig).map fun c => ownerNote label c.1 c.2.1 c.2.2).toList
  | _ => []

/-- What a subscription notes when a signal is emitted: nothing unless it is live and its rule
selects the signal. -/
def heardBy (s : Bus.Subscription Listener) (sig : Signal) : List Note :=
  if s.live && s.rule.selects sig then listenerNotes s.listener sig else []

/-- A watch of ownership changes, while it is live, notes a change exactly when the signal is the
daemon's `NameOwnerChanged` signal with a body of three strings, the first of which is the name
watched when there is one. -/
theorem mem_heardBy_watch {s : Bus.Subscription Listener} {watched : String} {label : Json}
    (rule : s.rule = Bus.ownershipRule watched) (tap : s.listener = .tapOwner label)
    (sig : Signal) (name old new : String) :
    ownerNote label name old new ∈ heardBy s sig ↔
      s.live = true ∧ sig.sender = Bus.daemonName ∧ sig.path = Bus.daemonPath ∧
        sig.name = Bus.daemonInterface ++ "." ++ Bus.nameOwnerChanged ∧
        sig.body = [.str name, .str old, .str new] ∧ (watched = "" ∨ name = watched) := by
  have noted : ownerNote label name old new ∈ listenerNotes s.listener sig ↔
      Bus.ownershipChange? sig = some (name, old, new) := by
    rw [tap, listenerNotes]
    cases change : Bus.ownershipChange? sig with
    | none => simp
    | some c =>
      obtain ⟨name', old', new'⟩ := c
      simp [ownerNote, eq_comm]
  rw [← Bus.ownershipWatch_hears, ← rule, heardBy]
  by_cases picked : (s.live && s.rule.selects sig) = true
  · rw [if_pos picked, noted]
    simp only [Bool.and_eq_true] at picked
    simp [picked]
  · rw [if_neg picked]
    simp only [Bool.and_eq_true] at picked
    constructor
    · simp
    · rintro ⟨live, selects, -⟩
      exact absurd ⟨live, selects⟩ picked

/-- Every subscription of the bus is a recording watch of ownership changes. -/
def OwnerWatches (b : Bus.Scripted Route Listener) : Prop :=
  ∀ s ∈ b.subscriptions.toList, ∃ label, s.listener = .tapOwner label

/-- A recording watch, when a signal reaches it while it is live, notes what the signal carries
and leaves the rest to hear it. -/
theorem deliverEach_tap {m id : Nat} {rest : List Nat} {sig : Signal} {h : World} {label : Json}
    (live : h.bus.isLive id = true)
    (tap : (h.bus.subscriptions.getD (id - 1) default).listener = .tapOwner label) :
    (deliverEach (m + 1) (id :: rest) sig).run h =
      (deliverEach m rest sig).run
        { h with notes := h.notes ++ (listenerNotes (.tapOwner label) sig).toArray } := by
  simp only [deliverEach]
  simp only [bind, EStateM.bind, EStateM.run, get, getThe, MonadStateOf.get, EStateM.get, live,
    if_true, tap]
  unfold listenerNotes
  cases change : Bus.ownershipChange? sig with
  | none => simp
  | some c =>
    obtain ⟨name, old, new⟩ := c
    have pushed : ∀ x : Note, h.notes ++ [x].toArray = h.notes.push x := fun x => by simp
    simp only [Option.map_some, Option.toList_some, pushed]
    rfl

/-- A subscription whose turn comes after it ended is skipped. -/
theorem deliverEach_dead {m id : Nat} {rest : List Nat} {sig : Signal} {h : World}
    (dead : h.bus.isLive id = false) :
    (deliverEach (m + 1) (id :: rest) sig).run h = (deliverEach m rest sig).run h := by
  simp only [deliverEach]
  simp only [bind, EStateM.bind, EStateM.run, get, getThe, MonadStateOf.get, EStateM.get, dead]
  rfl

/-- When its turn in a delivery comes, a recording watch notes what it hears if it is still live,
and is skipped otherwise; the delivery then goes on. -/
theorem deliverEach_watchTurn {m id : Nat} {rest : List Nat} {sig : Signal} {h : World}
    {label : Json} (tap : (h.bus.subscriptions.getD (id - 1) default).listener = .tapOwner label) :
    (deliverEach (m + 1) (id :: rest) sig).run h =
      (deliverEach m rest sig).run (if h.bus.isLive id then
        { h with notes := h.notes ++ (listenerNotes (.tapOwner label) sig).toArray } else h) := by
  cases live : h.bus.isLive id with
  | true => exact deliverEach_tap live tap
  | false => exact deliverEach_dead live

/-- A signal delivered, on a bus of recording watches, to subscriptions that are live: each
notes what it hears, in turn. -/
theorem deliverEach_watches (sig : Signal) (chosen : List (Bus.Subscription Listener × Nat)) :
    ∀ (n : Nat) (h : World), OwnerWatches h.bus → chosen.length < n →
      (∀ e ∈ chosen, h.bus.subscriptions.getD (e.2 - 1) default = e.1 ∧ h.bus.isLive e.2 = true) →
      (deliverEach n (chosen.map (·.2)) sig).run h =
        .ok () { h with notes := h.notes ++
          (chosen.flatMap fun e => listenerNotes e.1.listener sig).toArray } := by
  induction chosen with
  | nil =>
    intro n h _ fuel _
    obtain ⟨m, rfl⟩ : ∃ m, n = m + 1 := ⟨n - 1, by simp at fuel; omega⟩
    simp [deliverEach]
  | cons e rest ih =>
    intro n h watches fuel inside
    obtain ⟨m, rfl⟩ : ∃ m, n = m + 1 := ⟨n - 1, by simp at fuel; omega⟩
    obtain ⟨entry, live⟩ := inside e List.mem_cons_self
    have member : e.1 ∈ h.bus.subscriptions.toList := by
      have bound := (h.bus.isLive_inside live).2
      have found : h.bus.subscriptions.getD (e.2 - 1) default = h.bus.subscriptions[e.2 - 1] := by
        simp [Array.getD_eq_getD_getElem?, bound]
      rw [← entry, found]
      exact Array.getElem_mem_toList bound
    obtain ⟨label, tap⟩ := watches e.1 member
    rw [List.map_cons, deliverEach_tap live (entry ▸ tap)]
    have next := ih m { h with notes := h.notes ++ (listenerNotes (.tapOwner label) sig).toArray }
      watches (by simpa using fuel) (fun e' mem => inside e' (List.mem_cons_of_mem _ mem))
    rw [next]
    simp [tap, Array.append_assoc]

/-- The subscriptions chosen for a signal, with their ids, in the order they were made. -/
theorem selecting_eq (b : Bus.Scripted Route Listener) (sig : Signal) :
    b.selecting sig =
      ((b.subscriptions.toList.zipIdx 1).filter fun e => e.1.live && e.1.rule.selects sig).map (·.2) :=
  rfl

theorem chosen_inside {b : Bus.Scripted Route Listener} {sig : Signal}
    {e : Bus.Subscription Listener × Nat}
    (chosen : e ∈ (b.subscriptions.toList.zipIdx 1).filter fun e => e.1.live && e.1.rule.selects sig) :
    b.subscriptions.getD (e.2 - 1) default = e.1 ∧ b.isLive e.2 = true := by
  obtain ⟨member, picked⟩ := List.mem_filter.mp chosen
  obtain ⟨s, id⟩ := e
  obtain ⟨after, found⟩ := List.mk_mem_zipIdx_iff_le_and_getElem?_sub.mp member
  rw [Array.getElem?_toList] at found
  have entry : b.subscriptions.getD (id - 1) default = s := by
    simp [Array.getD_eq_getD_getElem?, found]
  simp only [Bool.and_eq_true] at picked
  refine ⟨entry, ?_⟩
  rw [Bus.Scripted.isLive_eq, found]
  simp [picked.1]
  omega

theorem flatMap_filter_zipIdx {α β : Type} (l : List α) (k : Nat) (p : α → Bool) (f : α → List β) :
    ((l.zipIdx k).filter fun e => p e.1).flatMap (fun e => f e.1) =
      l.flatMap fun a => if p a then f a else [] := by
  induction l generalizing k with
  | nil => rfl
  | cons a rest ih =>
    by_cases picked : p a <;> simp [picked, ih]

/-- Emitting a signal on a bus of recording watches of ownership changes: each subscription, in
the order they were made, notes what it hears, once, if it is live and its rule selects the
signal. -/
theorem emit_ownerWatches {h : World} (watches : OwnerWatches h.bus) {k : Nat}
    (fuel : h.bus.subscriptions.size < k) (sig : Signal) :
    (emit (k + 1) sig).run h =
      .ok () { h with notes := h.notes ++
        (h.bus.subscriptions.toList.flatMap fun s => heardBy s sig).toArray } := by
  have chosenFuel : ((h.bus.subscriptions.toList.zipIdx 1).filter fun e =>
      e.1.live && e.1.rule.selects sig).length < k := by
    calc _ ≤ (h.bus.subscriptions.toList.zipIdx 1).length := List.length_filter_le _ _
      _ = h.bus.subscriptions.size := by simp
      _ < k := fuel
  simp only [emit]
  simp only [bind, EStateM.bind, EStateM.run, get, getThe, MonadStateOf.get, EStateM.get]
  rw [selecting_eq]
  have delivered := deliverEach_watches sig _ k h watches chosenFuel
    (fun _ chosen => chosen_inside chosen)
  simp only [EStateM.run] at delivered
  rw [delivered, flatMap_filter_zipIdx h.bus.subscriptions.toList 1
    (fun s => s.live && s.rule.selects sig) (fun s => listenerNotes s.listener sig)]
  rfl

/-- Which signals reach whom. A rule selects a signal exactly when each of its five fields is
empty or agrees, interface and member with the name split at its last dot; that split is the
only one, and an interface joined to a member with no dot splits back into the two. A watch of
ownership changes notes a change exactly from a live subscription and the daemon's
`NameOwnerChanged` signal whose body is three strings, the first the name watched when there is
one. When its turn in a delivery comes, such a watch notes what it hears only if it is still
live; and emitting a signal on a bus of such watches gives each its turn, in the order they were
made. -/
theorem signal_selection :
    (∀ (m : MatchRule) (sig : Signal), m.selects sig = true ↔
      (m.sender = "" ∨ m.sender = sig.sender) ∧ (m.path = "" ∨ m.path = sig.path) ∧
        (m.interface = "" ∨ m.interface = (Signal.splitName sig.name).1) ∧
        (m.member = "" ∨ m.member = (Signal.splitName sig.name).2) ∧
        (m.arg0 = "" ∨ ∃ rest, sig.body = .str m.arg0 :: rest)) ∧
    (∀ name iface member : String,
      Signal.splitName name = (iface, member) ↔ Signal.SplitsAt name iface member) ∧
    (∀ iface member : String, '.' ∉ member.toList →
      Signal.splitName (iface ++ "." ++ member) = (iface, member)) ∧
    (∀ (s : Bus.Subscription Listener) (watched : String) (label : Json) (sig : Signal)
        (name old new : String),
      s.rule = Bus.ownershipRule watched → s.listener = .tapOwner label →
      (ownerNote label name old new ∈ heardBy s sig ↔
        s.live = true ∧ sig.sender = Bus.daemonName ∧ sig.path = Bus.daemonPath ∧
          sig.name = Bus.daemonInterface ++ "." ++ Bus.nameOwnerChanged ∧
          sig.body = [.str name, .str old, .str new] ∧ (watched = "" ∨ name = watched))) ∧
    (∀ (h : World) (m id : Nat) (rest : List Nat) (sig : Signal) (label : Json),
      (h.bus.subscriptions.getD (id - 1) default).listener = .tapOwner label →
      (deliverEach (m + 1) (id :: rest) sig).run h =
        (deliverEach m rest sig).run (if h.bus.isLive id then
          { h with notes := h.notes ++ (listenerNotes (.tapOwner label) sig).toArray } else h)) ∧
    (∀ (h : World) (k : Nat) (sig : Signal), OwnerWatches h.bus → h.bus.subscriptions.size < k →
      (emit (k + 1) sig).run h =
        .ok () { h with notes := h.notes ++
          (h.bus.subscriptions.toList.flatMap fun s => heardBy s sig).toArray }) :=
  ⟨MatchRule.selects_iff, fun _ _ _ => Signal.splitName_eq_iff,
    fun _ _ dotless => Signal.splitName_append dotless,
    fun _ _ _ sig name old new rule tap => mem_heardBy_watch rule tap sig name old new,
    fun _ _ _ _ _ _ tap => deliverEach_watchTurn tap,
    fun _ _ sig watches fuel => emit_ownerWatches watches fuel sig⟩

end Hub

end MissionControl
