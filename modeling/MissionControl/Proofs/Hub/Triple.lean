import Mathlib
import MissionControl.Hub.Run

/-!
# Reasoning about the hub's computations

A computation of the hub runs on a world and either returns, with the world it reached, or stops
with a fault. The properties proved about the interpreter speak of the computations that return:
`Triple pre x post` says that from every world satisfying `pre`, a return of `x` with value `a`
reaches a world satisfying `post a`, and `Keeps inv x` is the case where `inv` is carried from
the start to the end.

A sequence is taken apart one step at a time with `bind_ok`: a return of `x >>= f` is a return of
`x` followed by a return of `f` on its value. Reading the world returns it unchanged and a change
of the world returns at once with the changed world; the lemmas below say so for each accessor of
the world, so that later proofs never unfold them. Loops over lists keep an invariant when each
pass does, also when the invariant depends on how much of the list has been walked.
-/

set_option autoImplicit false

namespace MissionControl.Hub

/-- From every world satisfying `pre`, each return of `x` with value `a` reaches a world
satisfying `post a`. Faults are not constrained. -/
def Triple {α : Type} (pre : World → Prop) (x : HubM α) (post : α → World → Prop) : Prop :=
  ∀ ⦃h : World⦄ ⦃a : α⦄ ⦃h' : World⦄, pre h → x.run h = .ok a h' → post a h'

/-- `x` keeps `inv`: a return of `x` from a world satisfying `inv` reaches one satisfying it. -/
def Keeps {α : Type} (inv : World → Prop) (x : HubM α) : Prop := Triple inv x fun _ => inv

/-- A return of a sequence is a return of its first part followed by a return of the rest. -/
theorem bind_ok {α β : Type} {x : HubM α} {f : α → HubM β} {h h' : World} {b : β} :
    (x >>= f).run h = .ok b h' ↔ ∃ a h₁, x.run h = .ok a h₁ ∧ (f a).run h₁ = .ok b h' := by
  simp only [bind, EStateM.bind, EStateM.run]
  cases x h with
  | ok a h₁ =>
    constructor
    · intro rest
      exact ⟨a, h₁, rfl, rest⟩
    · rintro ⟨a', h₁', same, rest⟩
      cases same
      exact rest
  | error e h₁ => simp

/-- Once its first part has returned at once, a sequence goes on from what that part returned:
the form a return of a sequence takes once the run of a primitive computation is rewritten. -/
theorem exists_returned {α : Type} (a₀ : α) (h₀ : World) (P : α → World → Prop) :
    (∃ a h₁, (a₀ = a ∧ h₀ = h₁) ∧ P a h₁) ↔ P a₀ h₀ := by
  constructor
  · rintro ⟨a, h₁, ⟨rfl, rfl⟩, rest⟩
    exact rest
  · intro rest
    exact ⟨a₀, h₀, ⟨rfl, rfl⟩, rest⟩

/-- `exists_returned` for a first part that returns nothing. -/
theorem exists_returned_unit (h₀ : World) (P : Unit → World → Prop) :
    (∃ a h₁, (True ∧ h₀ = h₁) ∧ P a h₁) ↔ P () h₀ := by
  constructor
  · rintro ⟨⟨⟩, h₁, ⟨-, rfl⟩, rest⟩
    exact rest
  · intro rest
    exact ⟨(), h₀, ⟨trivial, rfl⟩, rest⟩

/-! ## Returns of the primitive computations -/

@[simp] theorem run_pure {α : Type} (a : α) (h : World) : (pure a : HubM α).run h = .ok a h := rfl

@[simp] theorem run_get (h : World) : (get : HubM World).run h = .ok h h := rfl

@[simp] theorem run_modify (g : World → World) (h : World) :
    (modify g : HubM Unit).run h = .ok () (g h) := rfl

@[simp] theorem run_modifyGet {α : Type} (g : World → α × World) (h : World) :
    (modifyGet g : HubM α).run h = .ok (g h).1 (g h).2 := rfl

@[simp] theorem run_throw {α : Type} (e : Fault) (h : World) :
    (throw e : HubM α).run h = .error e h := rfl

/-- A computation that returns at once leaves the world as it was. -/
theorem ok_pure {α : Type} {a b : α} {h h' : World} (run : (pure a : HubM α).run h = .ok b h') :
    h' = h := by
  simp only [run_pure, EStateM.Result.ok.injEq] at run
  exact run.2.symm

/-- A fault never returns. -/
theorem throw_not_ok {α : Type} {e : Fault} {h h' : World} {a : α} :
    ¬ (throw e : HubM α).run h = .ok a h' := by
  simp

@[simp] theorem run_waiter (w : Nat) (h : World) :
    (waiter w).run h = .ok (h.waiters.getD w default) h := rfl

@[simp] theorem run_owner (o : Nat) (h : World) :
    (owner o).run h = .ok (h.owners.getD o default) h := rfl

@[simp] theorem run_fetch (f : Nat) (h : World) :
    (fetch f).run h = .ok (h.fetches.getD f default) h := rfl

@[simp] theorem run_latch (m : Nat) (h : World) :
    (latch m).run h = .ok (h.latches.getD m default) h := rfl

@[simp] theorem run_client (c : Nat) (h : World) :
    (client c).run h = .ok (h.clients.getD c default) h := rfl

@[simp] theorem run_account (a : Nat) (h : World) :
    (account a).run h = .ok (h.accounts.getD a default) h := rfl

@[simp] theorem run_registry? (h : World) : registry?.run h = .ok h.registry h := rfl

@[simp] theorem run_ownerClosed (o : Option Nat) (h : World) :
    (ownerClosed o).run h = .ok (o.any fun o => (h.owners.getD o default).closed) h := by
  cases o <;> rfl

@[simp] theorem run_theRegistry (h : World) :
    theRegistry.run h = match h.registry with
      | some r => .ok r h
      | none => .error nilRegistry h := by
  simp only [theRegistry, bind, EStateM.bind, get, getThe, MonadStateOf.get, EStateM.get,
    EStateM.run]
  cases h.registry <;> rfl

@[simp] theorem run_subjectOf? (label : String) (h : World) :
    (subjectOf? label).run h = .ok (match h.plainLabels.lookup label with
      | some i => some (.plain i)
      | none => (h.accountLabels.lookup label).map .account) h := by
  simp only [subjectOf?, bind, EStateM.bind, get, getThe, MonadStateOf.get, EStateM.get,
    EStateM.run]
  cases h.plainLabels.lookup label <;> rfl

@[simp] theorem run_ownerOf? (label? : Option String) (h : World) :
    (ownerOf? label?).run h = .ok (match label? with
      | none => .ok none
      | some label => match h.ownerLabels.lookup label with
        | some o => .ok (some o)
        | none => .error (unknownLabel "owner" label)) h := by
  cases label? with
  | none => rfl
  | some label =>
    simp only [ownerOf?, bind, EStateM.bind, get, getThe, MonadStateOf.get, EStateM.get,
      EStateM.run]
    cases h.ownerLabels.lookup label <;> rfl

@[simp] theorem run_linkOpen (h : World) :
    linkOpen.run h = .ok (match h.link with
      | some k => !k.closed
      | none => false) h := by
  simp only [linkOpen, bind, EStateM.bind, get, getThe, MonadStateOf.get, EStateM.get, EStateM.run]
  cases h.link <;> rfl

@[simp] theorem run_daemonCall (member : String) (args : List Value) (h : World) :
    (daemonCall member args).run h = .ok () { h with daemon := (h.daemon.receive Bus.daemonName
      Bus.daemonPath Bus.daemonInterface member args).1 } := rfl

@[simp] theorem run_note (n : Note) (h : World) :
    (note n).run h = .ok () { h with notes := h.notes.push n } := rfl

@[simp] theorem run_modifyWaiter (w : Nat) (g : Waiter → Waiter) (h : World) :
    (modifyWaiter w g).run h = .ok () { h with waiters := h.waiters.modify w g } := rfl

@[simp] theorem run_modifyOwner (o : Nat) (g : Readiness.Owner → Readiness.Owner) (h : World) :
    (modifyOwner o g).run h = .ok () { h with owners := h.owners.modify o g } := rfl

@[simp] theorem run_modifyFetch (f : Nat) (g : Fetch → Fetch) (h : World) :
    (modifyFetch f g).run h = .ok () { h with fetches := h.fetches.modify f g } := rfl

@[simp] theorem run_modifyLatch (m : Nat) (g : Latch → Latch) (h : World) :
    (modifyLatch m g).run h = .ok () { h with latches := h.latches.modify m g } := rfl

@[simp] theorem run_modifyClient (c : Nat) (g : ClientObject → ClientObject) (h : World) :
    (modifyClient c g).run h = .ok () { h with clients := h.clients.modify c g } := rfl

@[simp] theorem run_modifyProxy (c : Nat) (g : Client.Proxy → Client.Proxy) (h : World) :
    (modifyProxy c g).run h =
      .ok () { h with clients := h.clients.modify c fun x => { x with proxy := g x.proxy } } := rfl

@[simp] theorem run_modifyAccount (a : Nat) (g : AccountObject → AccountObject) (h : World) :
    (modifyAccount a g).run h = .ok () { h with accounts := h.accounts.modify a g } := rfl

@[simp] theorem run_modifyRegistry (g : Registry → Registry) (h : World) :
    (modifyRegistry g).run h = .ok () { h with registry := h.registry.map g } := rfl

@[simp] theorem run_newWaiter (wt : Waiter) (h : World) :
    (newWaiter wt).run h = .ok h.waiters.size { h with waiters := h.waiters.push wt } := rfl

@[simp] theorem run_newOwner (h : World) :
    newOwner.run h = .ok h.owners.size { h with owners := h.owners.push {} } := rfl

@[simp] theorem run_newFetch (fs : Fetch) (h : World) :
    (newFetch fs).run h = .ok h.fetches.size { h with fetches := h.fetches.push fs } := rfl

@[simp] theorem run_newLatch (l : Latch) (h : World) :
    (newLatch l).run h = .ok h.latches.size { h with latches := h.latches.push l } := rfl

/-! ## Triples -/

theorem Triple.of_pure {α : Type} {pre : World → Prop} {a : α} : Triple pre (pure a) fun _ => pre := by
  intro h b h' holds run
  simp only [run_pure, EStateM.Result.ok.injEq] at run
  obtain ⟨-, rfl⟩ := run
  exact holds

theorem Triple.bind {α β : Type} {pre : World → Prop} {mid : α → World → Prop}
    {post : β → World → Prop} {x : HubM α} {f : α → HubM β} (first : Triple pre x mid)
    (rest : ∀ a, Triple (mid a) (f a) post) : Triple pre (x >>= f) post := by
  intro h b h' holds run
  obtain ⟨a, h₁, run₁, run₂⟩ := bind_ok.mp run
  exact rest a (first holds run₁) run₂

theorem Keeps.bind {α β : Type} {inv : World → Prop} {x : HubM α} {f : α → HubM β}
    (first : Keeps inv x) (rest : ∀ a, Keeps inv (f a)) : Keeps inv (x >>= f) :=
  Triple.bind first rest

theorem Triple.mono {α : Type} {pre pre' : World → Prop} {post post' : α → World → Prop}
    {x : HubM α} (run : Triple pre x post) (weaker : ∀ h, pre' h → pre h)
    (stronger : ∀ a h, post a h → post' a h) : Triple pre' x post' :=
  fun _ _ _ holds ran => stronger _ _ (run (weaker _ holds) ran)

/-- A loop over a list keeps an invariant that depends on the walked part of the list, when each
pass extends it by the element it handles. -/
theorem Triple.forIn_along {α : Type} (inv : List α → World → Prop)
    (body : α → PUnit → HubM (ForInStep PUnit)) :
    ∀ (walked rest : List α),
      (∀ before a after, rest = before ++ a :: after →
        Triple (inv (walked ++ before)) (body a ⟨⟩) fun step h =>
          step = .yield ⟨⟩ ∧ inv (walked ++ before ++ [a]) h) →
      Triple (inv walked) (forIn rest ⟨⟩ body) fun _ => inv (walked ++ rest)
  | walked, [], _ => by
    simpa using (Triple.of_pure : Triple (inv walked) (Pure.pure PUnit.unit) fun _ => inv walked)
  | walked, a :: rest, passes => by
    rw [List.forIn_cons]
    have first := passes [] a rest (by simp)
    simp only [List.append_nil] at first
    refine Triple.bind first ?_
    intro step h b h' ⟨yielded, holds⟩ run
    subst yielded
    have later := Triple.forIn_along inv body (walked ++ [a]) rest fun before b after split => by
      have moved := passes (a :: before) b after (by simp [split])
      simpa using moved
    have reached := later holds (by simpa using run)
    simpa using reached

/-- A loop over a list keeps an invariant that each pass keeps. -/
theorem Keeps.forIn {α : Type} {inv : World → Prop} (xs : List α)
    (body : α → PUnit → HubM (ForInStep PUnit))
    (pass : ∀ a, a ∈ xs → Triple inv (body a ⟨⟩) fun step h => step = .yield ⟨⟩ ∧ inv h) :
    Keeps inv (forIn xs ⟨⟩ body) := by
  have along := Triple.forIn_along (fun _ => inv) body [] xs fun before a after split =>
    pass a (by simp [split])
  simpa [Keeps] using along

end MissionControl.Hub
