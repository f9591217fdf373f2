import Mathlib
import MissionControl.Event.Handlers

/-!
# Handler lists: histories and emissions

A handler list changes only through its three operations: connecting a handler, disconnecting
one by its id, and clearing. A *history* is a sequence of such changes, oldest first, and
`replay` applies it to a list.

The contract of a handler list, read off a history alone:

* the ids that connects return are consecutive from one past the last id given, so a list never
  gives the same id twice (`returned_replay`);
* the handlers connected after a history are those it connected and no later change of it
  removed, in connection order (`entries_replay`); a handler connected now stays connected
  exactly as long as no change removes it (`mem_replay_iff`);
* an emission calls, in turn, each handler connected when it began that is still connected at
  its turn (`emit_eq_emitConnected`). The list tests a handler's id, not the handler: the test is
  exact because ids are never reused, so a handler that is gone cannot be stood in for by a newer
  one with its id.

Handlers called by an emission may change the list and may emit again; all the emission law asks
of them is that they change the list only through its operations (`ChangesOnly`).
-/

set_option autoImplicit false

namespace MissionControl.HandlerList

variable {α : Type}

/-- A change made to a handler list through one of its operations. -/
inductive Change (α : Type) where
  | connect (handler : α)
  | disconnect (id : Nat)
  | clear

namespace Change

/-- Whether a change removes the handler of id `id`: its disconnect does, and so does a clear. -/
def removes (id : Nat) : Change α → Bool
  | .connect _ => false
  | .disconnect i => i == id
  | .clear => true

/-- The number of connects in a history. -/
def connects : List (Change α) → Nat
  | [] => 0
  | .connect _ :: cs => connects cs + 1
  | .disconnect _ :: cs => connects cs
  | .clear :: cs => connects cs

end Change

/-- The list after one change. -/
def apply (l : HandlerList α) : Change α → HandlerList α
  | .connect a => (l.connect a).1
  | .disconnect id => l.disconnect id
  | .clear => l.clear

/-- The list after a history of changes, oldest first. -/
def replay (l : HandlerList α) (cs : List (Change α)) : HandlerList α := cs.foldl apply l

/-- The ids the connects of a history return, in order. -/
def returned (l : HandlerList α) : List (Change α) → List Nat
  | [] => []
  | .connect a :: cs => (l.connect a).2 :: returned (l.connect a).1 cs
  | .disconnect id :: cs => returned (l.disconnect id) cs
  | .clear :: cs => returned l.clear cs

/-- The handlers a history connects, numbered from `next` in connection order, that no later
change of the history removes. -/
def survivors (next : Nat) : List (Change α) → List (Nat × α)
  | [] => []
  | .connect a :: cs =>
    (if cs.any (·.removes next) then [] else [(next, a)]) ++ survivors (next + 1) cs
  | .disconnect _ :: cs => survivors next cs
  | .clear :: cs => survivors next cs

/-- A list as its operations leave it: its ids increase in connection order and none is past
the last id given. -/
structure Valid (l : HandlerList α) : Prop where
  ordered : l.entries.Pairwise fun e e' => e.1 < e'.1
  bounded : ∀ e ∈ l.entries, e.1 ≤ l.lastId

@[simp] theorem replay_nil (l : HandlerList α) : l.replay [] = l := rfl

@[simp] theorem replay_cons (l : HandlerList α) (c : Change α) (cs : List (Change α)) :
    l.replay (c :: cs) = (l.apply c).replay cs := rfl

theorem replay_append (l : HandlerList α) (cs ds : List (Change α)) :
    l.replay (cs ++ ds) = (l.replay cs).replay ds :=
  List.foldl_append

/-! ## What a history leaves -/

theorem lastId_replay (l : HandlerList α) (cs : List (Change α)) :
    (l.replay cs).lastId = l.lastId + Change.connects cs := by
  induction cs generalizing l with
  | nil => rfl
  | cons c cs ih =>
    cases c with
    | connect a =>
      simp only [replay_cons, ih, Change.connects]
      simp only [apply, connect]
      omega
    | disconnect id => simp [ih, Change.connects, apply, disconnect]
    | clear => simp [ih, Change.connects, apply, clear]

/-- The ids returned by the connects of a history are the next ones, one after another. -/
theorem returned_replay (l : HandlerList α) (cs : List (Change α)) :
    l.returned cs = List.range' (l.lastId + 1) (Change.connects cs) := by
  induction cs generalizing l with
  | nil => rfl
  | cons c cs ih =>
    cases c with
    | connect a => simp [returned, ih, Change.connects, connect, List.range'_succ]
    | disconnect id => simp [returned, ih, Change.connects, disconnect]
    | clear => simp [returned, ih, Change.connects, clear]

/-- The handlers connected after a history: those connected before that no change removes,
then those the history connects that no later change removes. -/
theorem entries_replay (l : HandlerList α) (cs : List (Change α)) :
    (l.replay cs).entries =
      l.entries.filter (fun e => !cs.any (·.removes e.1)) ++ survivors (l.lastId + 1) cs := by
  induction cs generalizing l with
  | nil => simp [survivors]
  | cons c cs ih =>
    cases c with
    | connect a =>
      -- the new handler is the last before, and the first the rest of the history numbers
      simp only [replay_cons, ih, apply, connect, survivors, List.filter_append,
        List.any_cons, Change.removes, Bool.false_or, List.append_assoc]
      congr 2
      simp [List.filter_singleton]
    | disconnect id =>
      simp only [replay_cons, ih, apply, disconnect, survivors, List.filter_filter, List.any_cons,
        Change.removes]
      congr 2
      funext e
      rw [Bool.not_or, bne, Bool.beq_comm, Bool.and_comm]
    | clear => simp [ih, apply, clear, survivors, Change.removes]

theorem survivors_bounds (next : Nat) (cs : List (Change α)) :
    ∀ e ∈ survivors next cs, next ≤ e.1 ∧ e.1 < next + Change.connects cs := by
  induction cs generalizing next with
  | nil => simp [survivors]
  | cons c cs ih =>
    intro e member
    cases c with
    | connect a =>
      simp only [survivors, List.mem_append] at member
      rcases member with first | later
      · split at first
        · simp at first
        · simp only [List.mem_singleton] at first
          subst first
          simp [Change.connects]
      · have bounds := ih (next + 1) e later
        simp only [Change.connects]
        omega
    | disconnect id => simpa [survivors, Change.connects] using ih next e member
    | clear => simpa [survivors, Change.connects] using ih next e member

theorem survivors_ordered (next : Nat) (cs : List (Change α)) :
    (survivors next cs).Pairwise fun e e' => e.1 < e'.1 := by
  induction cs generalizing next with
  | nil => simp [survivors]
  | cons c cs ih =>
    cases c with
    | connect a =>
      simp only [survivors]
      refine List.pairwise_append.mpr ⟨?_, ih (next + 1), ?_⟩
      · split <;> simp
      · intro e first e' later
        have bounds := survivors_bounds (next + 1) cs e' later
        split at first
        · simp at first
        · simp only [List.mem_singleton] at first
          subst first
          omega
    | disconnect id => exact ih next
    | clear => exact ih next

/-! ## Lists as their operations leave them -/

theorem valid_empty : ({} : HandlerList α).Valid := ⟨List.Pairwise.nil, by simp⟩

theorem Valid.replay {l : HandlerList α} (valid : l.Valid) (cs : List (Change α)) :
    (l.replay cs).Valid := by
  constructor
  · rw [entries_replay]
    refine List.pairwise_append.mpr ⟨valid.ordered.filter _, survivors_ordered _ _, ?_⟩
    intro e before e' later
    have old := valid.bounded e (List.mem_of_mem_filter before)
    have new := survivors_bounds _ cs e' later
    omega
  · intro e member
    rw [entries_replay, List.mem_append] at member
    rw [lastId_replay]
    rcases member with before | later
    · have old := valid.bounded e (List.mem_of_mem_filter before)
      omega
    · have new := survivors_bounds _ cs e later
      omega

/-- Every list its operations can make from the empty one is valid. -/
theorem valid_reached (cs : List (Change α)) : (({} : HandlerList α).replay cs).Valid :=
  valid_empty.replay cs

/-- In a valid list a handler is known by its id. -/
theorem Valid.eq_of_id {l : HandlerList α} (valid : l.Valid) {e e' : Nat × α}
    (member : e ∈ l.entries) (member' : e' ∈ l.entries) (same : e.1 = e'.1) : e = e' := by
  have distinct : (l.entries.map (·.1)).Nodup :=
    (List.pairwise_map.mpr valid.ordered).imp fun below => Nat.ne_of_lt below
  exact List.inj_on_of_nodup_map distinct member member' same

/-- A handler connected now is connected after a history exactly when no change of the history
removes it. -/
theorem mem_replay_iff {l : HandlerList α} (valid : l.Valid) {e : Nat × α} (member : e ∈ l.entries)
    (cs : List (Change α)) : e ∈ (l.replay cs).entries ↔ ∀ c ∈ cs, c.removes e.1 = false := by
  rw [entries_replay, List.mem_append, List.mem_filter]
  have old := valid.bounded e member
  constructor
  · rintro (⟨-, kept⟩ | later)
    · simpa using kept
    · have new := survivors_bounds _ cs e later
      omega
  · intro kept
    exact Or.inl ⟨member, by simpa using kept⟩

/-- After any history, the list has a handler connected before it by that handler's id exactly
when it still has that very handler: no newer handler takes the id over. -/
theorem isConnected_replay_iff {l : HandlerList α} (valid : l.Valid) {e : Nat × α}
    (member : e ∈ l.entries) (cs : List (Change α)) :
    (l.replay cs).isConnected e.1 = true ↔ e ∈ (l.replay cs).entries := by
  constructor
  · intro connected
    obtain ⟨e', present, same⟩ := List.any_eq_true.mp connected
    have same : e'.1 = e.1 := by simpa using same
    have present' := present
    rw [entries_replay, List.mem_append] at present'
    rcases present' with before | later
    · -- an old handler with the id is the handler itself
      have equal := valid.eq_of_id (List.mem_of_mem_filter before) member same
      rw [← equal]
      exact present
    · have new := survivors_bounds _ cs e' later
      have old := valid.bounded e member
      omega
  · intro present
    exact List.any_eq_true.mpr ⟨e, present, by simp⟩

/-! ## Emissions -/

section Emission

variable {σ ε β : Type} (view : σ → HandlerList α)

/-- A computation changes the list `view` reads only through the list's operations: each of its
returns reaches a list that a history of changes makes of the one it started from. -/
def ChangesOnly {γ : Type} (x : EStateM ε σ γ) : Prop :=
  ∀ s b t, x.run s = .ok b t → ∃ cs, view t = (view s).replay cs

/-- The list `view` reads, as a computation. -/
def current : EStateM ε σ (HandlerList α) := do return view (← get)

@[simp] theorem run_current (t : σ) : (current view : EStateM ε σ _).run t = .ok (view t) t := rfl

/-- An emission that calls each handler of the list `l` it began with exactly when that very
handler is still connected at its turn. -/
def emitConnected [DecidableEq α] (l : HandlerList α) (call : Nat → α → β → EStateM ε σ Unit)
    (v : β) : EStateM ε σ Unit :=
  l.entries.forM fun e => do
    if e ∈ (view (← get)).entries then call e.1 e.2 v

variable [DecidableEq α] {view} (call : Nat → α → β → EStateM ε σ Unit) (v : β)

/-- The loop of an emission, from any turn on: testing ids and testing handlers call the same
handlers, as long as the list is the one it began with after some history. -/
theorem forM_connected_eq (changes : ∀ id a, ChangesOnly view (call id a v)) {l : HandlerList α}
    (valid : l.Valid) :
    ∀ (rest : List (Nat × α)), (∀ e ∈ rest, e ∈ l.entries) →
      ∀ (t : σ) (cs : List (Change α)), view t = l.replay cs →
      (rest.forM fun e => do if (← current view).isConnected e.1 then call e.1 e.2 v).run t =
        (rest.forM fun e => do if e ∈ (view (← get)).entries then call e.1 e.2 v).run t
  | [], _, _, _, _ => rfl
  | e :: rest, inside, t, cs, reached => by
    have turn : (view t).isConnected e.1 = true ↔ e ∈ (view t).entries := by
      rw [reached]
      exact isConnected_replay_iff valid (inside e List.mem_cons_self) cs
    have later : ∀ e' ∈ rest, e' ∈ l.entries := fun e' member => inside e' (List.mem_cons_of_mem _ member)
    simp only [List.forM_eq_forM, List.forM_cons, EStateM.run_bind, run_current]
    by_cases present : e ∈ (view t).entries
    · -- the handler is called, and the rest of the loop starts where its call ended
      simp only [turn.mpr present, present, if_true, EStateM.run_get]
      cases called : (call e.1 e.2 v).run t with
      | ok u t' =>
        obtain ⟨cs', moved⟩ := changes e.1 e.2 t u t' called
        have reached' : view t' = l.replay (cs ++ cs') := by rw [moved, reached, replay_append]
        exact forM_connected_eq changes valid rest later t' (cs ++ cs') reached'
      | error x t' => rfl
    · have disconnected : (view t).isConnected e.1 = false := by
        cases connected : (view t).isConnected e.1
        · rfl
        · exact absurd (turn.mp connected) present
      simp only [disconnected, present, Bool.false_eq_true, if_false, EStateM.run_get,
        EStateM.run_pure]
      exact forM_connected_eq changes valid rest later t cs reached

/-- An emission calls, in turn, exactly the handlers connected when it began that are still
connected at their turn, however the handlers it calls change the list.

Proof: along the emission the list is the starting one after the history the handlers made so
far, so testing a starting handler's id is testing the handler (`isConnected_replay_iff`). -/
theorem emit_eq_emitConnected (changes : ∀ id a, ChangesOnly view (call id a v)) (s : σ)
    (valid : (view s).Valid) :
    ((view s).emit (current view) call v).run s = (emitConnected view (view s) call v).run s :=
  forM_connected_eq call v changes valid (view s).entries (fun _ member => member) s [] rfl

end Emission

/-! ## The contract -/

/-- The contract of a handler list. Over every history of connects, disconnects and clears from
the empty list, the ids the connects return are all different, the size counts the handlers the
history connected that no later change removed, and the list reached is valid. A handler of a
valid list stays connected exactly as long as no change removes it. An emission from a valid list
calls, in connection order, each handler connected when it began that is still connected at its
turn, whatever the handlers it calls do to the list through its operations, emitting included. -/
theorem handler_list_contract [DecidableEq α] :
    (∀ cs : List (Change α), (({} : HandlerList α).returned cs).Nodup) ∧
    (∀ cs : List (Change α), (({} : HandlerList α).replay cs).size = (survivors 1 cs).length) ∧
    (∀ cs : List (Change α), (({} : HandlerList α).replay cs).Valid) ∧
    (∀ l : HandlerList α, l.Valid → ∀ e ∈ l.entries, ∀ cs : List (Change α),
      e ∈ (l.replay cs).entries ↔ ∀ c ∈ cs, c.removes e.1 = false) ∧
    (∀ {σ ε β : Type} (view : σ → HandlerList α) (call : Nat → α → β → EStateM ε σ Unit) (v : β),
      (∀ id a, ChangesOnly view (call id a v)) → ∀ s, (view s).Valid →
        ((view s).emit (current view) call v).run s = (emitConnected view (view s) call v).run s) := by
  refine ⟨fun cs => ?_, fun cs => ?_, valid_reached, fun l valid e member cs => ?_,
    fun view call v changes s valid => emit_eq_emitConnected call v changes s valid⟩
  · rw [returned_replay]
    exact List.nodup_range'
  · simp [size, entries_replay]
  · exact mem_replay_iff valid member cs

/-- Three handlers, each of which disconnects the one after it when called: the emission calls
the first and the third, and the second, disconnected by the first, is gone at its turn. -/
theorem emission_skips_a_disconnected_handler :
    let l := ({} : HandlerList Nat).replay [.connect 10, .connect 20, .connect 30]
    let call : Nat → Nat → Nat → EStateM String (HandlerList Nat) Unit :=
      fun id _ _ => modify (·.disconnect (id + 1))
    (∀ k a, ChangesOnly id (call k a 7)) ∧ l.Valid ∧
      (l.emit (current id) call 7).run l = (emitConnected id l call 7).run l ∧
      ((2, 20) ∈ l.entries ∧ ((2, 20) ∈ (l.replay [.disconnect 2]).entries ↔
        ∀ c ∈ [(Change.disconnect 2 : Change Nat)], c.removes (2, 20).1 = false)) := by
  intro l call
  have changes : ∀ k a, ChangesOnly id (call k a 7) := by
    intro k a s b t run
    exact ⟨[.disconnect (k + 1)], by simpa [call, apply] using run.symm⟩
  have valid : l.Valid := valid_reached _
  have member : (2, 20) ∈ l.entries := by decide
  exact ⟨changes, valid, handler_list_contract.2.2.2.2 id call 7 changes l valid, member,
    handler_list_contract.2.2.2.1 l valid (2, 20) member [.disconnect 2]⟩

end MissionControl.HandlerList
