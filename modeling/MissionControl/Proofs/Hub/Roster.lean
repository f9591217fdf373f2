import MissionControl.Proofs.Hub.Subscriptions
import MissionControl.Proofs.Hub.Membership

/-!
# The roster of a driven registry

The registry keeps its clients in two places: its entries, each a name and a client, and the
clients' proxies, which say whether the name can be activated, whether it has an owner and which
one. The roll (`World.roll`) reads the proxies of the entries, in order. For the roll to follow
what the registry hears, the two places have to agree, and the registry has to hear what it is
meant to hear:

* every entry's proxy has the entry's name, is not gone, and tells the registry when it goes;
* a registry has entries only once it has started, and only then asks for the names on the bus;
* the registry's own watch selects every change of ownership, and a client's watch the changes
  of its own name (`World.ruleFor`);
* the hub has no transport, so the registry's calls are answered on the bus itself.

These are the books of a *roster* (`World.Roster`). The work of the hub that changes neither the
roll nor what the books read of the registry, its clients and the bus keeps them (`World.SameView`,
a footprint). So does everything a client does once the registry has added it, fetches and waits
for its interfaces included: none of it changes the roll (`rolling`, an `Invariant` kept by every
operation of the interpreter).
-/

set_option autoImplicit false

namespace MissionControl.Hub

open Readiness

/-- What the roll and its books read of a registry: its prefix, whether it started and closed,
and the name and client of each entry. -/
def Registry.rollView (r : Registry) : String × Bool × Bool × List (String × Nat) :=
  (r.clientPrefix, r.started, r.closed, r.entries.map fun e => (e.name, e.client))

/-- What the roll and its books read of a client: its proxy as the roll records it, whether it
is gone, and whether the registry hears of it going. -/
def ClientObject.rollView (x : ClientObject) : Member × Option String × Bool :=
  (x.proxy.member, x.proxy.gone, x.goneLinked)

/-- The rule a watch of names selects with: the registry's selects every change of ownership,
a client's the changes of its own name. -/
def World.ruleFor (h : World) : Listener → MatchRule
  | .registry => Bus.ownershipRule ""
  | .client c => Bus.ownershipRule (h.clients.getD c default).proxy.name
  | _ => {}

/-- The books of registry `r`'s entries in world `h`, for client prefix `pre`: the registry
has entries only once started, each entry's name counts, and each entry's proxy has the entry's
name, is not gone and tells the registry when it goes. -/
structure Registry.Seated (pre : String) (r : Registry) (h : World) : Prop where
  clientPrefix : r.clientPrefix = pre
  unstarted : r.started = false → r.entries = []
  admitted : ∀ e ∈ r.entries, Roll.admits pre e.name = true
  named : ∀ e ∈ r.entries, (h.clients.getD e.client default).proxy.name = e.name
  present : ∀ e ∈ r.entries, (h.clients.getD e.client default).proxy.gone = none
  linked : ∀ e ∈ r.entries, (h.clients.getD e.client default).goneLinked = true

/-- The books of the roster of a registry with client prefix `pre`: its entries are seated,
there is no transport, every live watch selects with its listener's rule, and the names on the
bus are asked for only by a started registry. -/
structure World.Roster (pre : String) (h : World) : Prop where
  registry : ∃ r, h.registry = some r ∧ r.Seated pre h
  unlinked : h.link = none
  rules : ∀ id l, h.bus.Watching id l → (h.bus.subscriptions.getD (id - 1) default).rule = h.ruleFor l
  asked : ∀ i < h.bus.calls.size, (h.bus.calls.getD i default).route.asksNames = true →
    ∀ r, h.registry = some r → r.started = true

namespace World

/-- Two worlds alike in everything the roll and its books read, where the second runs no
session's steps if the first runs none. -/
structure SameView (h h' : World) : Prop where
  registry : h'.registry.map Registry.rollView = h.registry.map Registry.rollView
  clients : ∀ c, (h'.clients.getD c default).rollView = (h.clients.getD c default).rollView
  subscriptions : h'.bus.subscriptions = h.bus.subscriptions
  responders : h'.bus.responders = h.bus.responders
  callCount : h'.bus.calls.size = h.bus.calls.size
  routes : ∀ i, (h'.bus.calls.getD i default).route = (h.bus.calls.getD i default).route
  unlinked : h.link = none → h'.link = none
  unscripted : h.Unscripted → h'.Unscripted

theorem SameView.refl (h : World) : h.SameView h :=
  ⟨rfl, fun _ => rfl, rfl, rfl, rfl, fun _ => rfl, id, id⟩

theorem SameView.trans {h₁ h₂ h₃ : World} (first : h₁.SameView h₂) (second : h₂.SameView h₃) :
    h₁.SameView h₃ :=
  ⟨second.registry.trans first.registry, fun c => (second.clients c).trans (first.clients c),
    second.subscriptions.trans first.subscriptions, second.responders.trans first.responders,
    second.callCount.trans first.callCount, fun i => (second.routes i).trans (first.routes i),
    second.unlinked ∘ first.unlinked, second.unscripted ∘ first.unscripted⟩

/-- A world differing only in what the roll and its books do not read. -/
theorem SameView.of_same {h h' : World} (registry : h'.registry = h.registry) (bus : h'.bus = h.bus)
    (clients : h'.clients = h.clients) (link : h'.link = h.link) (waiters : h'.waiters = h.waiters)
    (latches : h'.latches = h.latches) : h.SameView h' :=
  ⟨by rw [registry], fun _ => by rw [clients], by rw [bus], by rw [bus], by rw [bus],
    fun _ => by rw [bus], fun unlinked => link.trans unlinked,
    fun unscripted => unscripted.of_same waiters latches⟩

theorem sameView_clients (h : World) (c : Nat) (g : ClientObject → ClientObject)
    (keeps : ∀ x, (g x).rollView = x.rollView) :
    h.SameView { h with clients := h.clients.modify c g } :=
  ⟨rfl, fun _ => getD_modify_of_keeps _ _ _ _ ClientObject.rollView keeps, rfl, rfl, rfl,
    fun _ => rfl, id, fun unscripted => ⟨unscripted.waiters, unscripted.latches⟩⟩

theorem sameView_setStatus (h : World) (s : Subject) (st : Status) :
    h.SameView (h.setStatus s st) := by
  cases s with
  | plain i => exact .of_same rfl rfl rfl rfl rfl rfl
  | account i => exact .of_same rfl rfl rfl rfl rfl rfl
  | client i => exact h.sameView_clients i _ fun _ => rfl

section Same

variable {h h' : World} (same : h.SameView h')
include same

theorem SameView.member (c : Nat) :
    (h'.clients.getD c default).proxy.member = (h.clients.getD c default).proxy.member :=
  congrArg Prod.fst (same.clients c)

theorem SameView.name (c : Nat) :
    (h'.clients.getD c default).proxy.name = (h.clients.getD c default).proxy.name :=
  congrArg Member.name (same.member c)

theorem SameView.gone (c : Nat) :
    (h'.clients.getD c default).proxy.gone = (h.clients.getD c default).proxy.gone :=
  congrArg (·.2.1) (same.clients c)

theorem SameView.goneLinked (c : Nat) :
    (h'.clients.getD c default).goneLinked = (h.clients.getD c default).goneLinked :=
  congrArg (·.2.2) (same.clients c)

theorem SameView.ruleFor : h'.ruleFor = h.ruleFor := by
  funext l
  cases l with
  | client c => simp only [World.ruleFor, same.name c]
  | _ => rfl

end Same

end World

/-- Every change of what the readiness broker keeps for itself keeps what the roll reads. -/
theorem sameView : Footprint World.SameView where
  refl := World.SameView.refl
  trans := World.SameView.trans
  waiter _ _ _ keeps := ⟨rfl, fun _ => rfl, rfl, rfl, rfl, fun _ => rfl, id, fun unscripted =>
    ⟨fun w' r reacts => unscripted.waiters w' r
      ((getD_modify_of_keeps _ _ _ _ Waiter.reaction keeps).symm.trans reacts),
      unscripted.latches⟩⟩
  owners _ _ := .of_same rfl rfl rfl rfl rfl rfl
  fetches _ _ := .of_same rfl rfl rfl rfl rfl rfl
  latch _ _ _ keeps := ⟨rfl, fun _ => rfl, rfl, rfl, rfl, fun _ => rfl, id, fun unscripted =>
    ⟨unscripted.waiters, fun m' =>
      (getD_modify_of_keeps _ _ _ _ Latch.finale keeps).symm ▸ unscripted.latches m'⟩⟩
  waiterLabels _ _ := .of_same rfl rfl rfl rfl rfl rfl
  note _ _ _ := .of_same rfl rfl rfl rfl rfl rfl
  status := World.sameView_setStatus
  daemon _ _ := .of_same rfl rfl rfl rfl rfl rfl
  post _ _ := ⟨rfl, fun _ => rfl, rfl, rfl, rfl, fun _ => rfl, fun unlinked => by simp [unlinked],
    fun unscripted => unscripted.of_same rfl rfl⟩

/-! ## What the view carries -/

theorem Registry.rollView_eq {r r' : Registry} (view : r'.rollView = r.rollView) :
    r'.clientPrefix = r.clientPrefix ∧ r'.started = r.started ∧ r'.closed = r.closed ∧
      r'.entries.map (fun e => (e.name, e.client)) = r.entries.map (fun e => (e.name, e.client)) := by
  simpa only [Registry.rollView, Prod.mk.injEq] using view

/-- The members of a registry read only the clients of its entries, and those only as the roll
records them. -/
theorem Registry.members_eq {r r' : Registry} {h h' : World}
    (clients : r'.entries.map (·.client) = r.entries.map (·.client))
    (members : ∀ c, (h'.clients.getD c default).proxy.member = (h.clients.getD c default).proxy.member) :
    r'.members h' = r.members h := by
  have through : ∀ (r : Registry) (h : World), r.members h =
      (r.entries.map (·.client)).map fun c => (h.clients.getD c default).proxy.member := by
    intro r h
    simp [Registry.members, List.map_map, Function.comp_def]
  rw [through, through, clients]
  exact List.map_congr_left fun c _ => members c

/-- Entries with the same names and clients have the same clients. -/
theorem clients_of_pairs {es es' : List RegistryEntry}
    (pairs : es'.map (fun e => (e.name, e.client)) = es.map (fun e => (e.name, e.client))) :
    es'.map (·.client) = es.map (·.client) := by
  simpa [List.map_map, Function.comp_def] using congrArg (List.map Prod.snd) pairs

/-- Each entry among ones with the same names and clients as others has the name and client of
one of those. -/
theorem exists_of_pairs {es es' : List RegistryEntry}
    (pairs : es'.map (fun e => (e.name, e.client)) = es.map (fun e => (e.name, e.client)))
    {e' : RegistryEntry} (member : e' ∈ es') : ∃ e ∈ es, e.name = e'.name ∧ e.client = e'.client := by
  have paired : (e'.name, e'.client) ∈ es.map fun e => (e.name, e.client) :=
    pairs ▸ List.mem_map_of_mem member
  obtain ⟨e, inside, same⟩ := List.mem_map.mp paired
  simp only [Prod.mk.injEq] at same
  exact ⟨e, inside, same⟩

/-- Worlds alike in what the roll reads are in the same roll. -/
theorem World.SameView.roll {h h' : World} (same : h.SameView h') : h'.roll = h.roll := by
  unfold World.roll
  have view := same.registry
  cases present : h.registry with
  | none =>
    rw [present, Option.map_none] at view
    rw [Option.map_eq_none_iff.mp view]
  | some r =>
    rw [present, Option.map_some] at view
    obtain ⟨r', present', view'⟩ := Option.map_eq_some_iff.mp view
    obtain ⟨-, started, closed, pairs⟩ := Registry.rollView_eq view'
    rw [present']
    simp only [started, closed, Registry.members_eq (clients_of_pairs pairs) same.member]

theorem Registry.Seated.transfer {pre : String} {r r' : Registry} {h h' : World}
    (seated : r.Seated pre h) (same : h.SameView h') (view : r'.rollView = r.rollView) :
    r'.Seated pre h' := by
  obtain ⟨clientPrefix, started, -, pairs⟩ := Registry.rollView_eq view
  refine ⟨clientPrefix.trans seated.clientPrefix, fun fresh => ?_, fun e' member => ?_,
    fun e' member => ?_, fun e' member => ?_, fun e' member => ?_⟩
  · rw [seated.unstarted (started ▸ fresh), List.map_nil] at pairs
    exact List.map_eq_nil_iff.mp pairs
  all_goals obtain ⟨e, inside, named, client⟩ := exists_of_pairs pairs member
  · rw [← named]
    exact seated.admitted e inside
  · rw [same.name, ← client, ← named]
    exact seated.named e inside
  · rw [same.gone, ← client]
    exact seated.present e inside
  · rw [same.goneLinked, ← client]
    exact seated.linked e inside

theorem Registry.Seated.of_clients {pre : String} {r : Registry} {h h' : World}
    (seated : r.Seated pre h) (clients : h'.clients = h.clients) : r.Seated pre h' := by
  refine ⟨seated.clientPrefix, seated.unstarted, seated.admitted, fun e member => ?_,
    fun e member => ?_, fun e member => ?_⟩ <;> rw [clients]
  · exact seated.named e member
  · exact seated.present e member
  · exact seated.linked e member

/-- What keeps what the roll reads keeps the books of the roster. -/
theorem World.Roster.transfer {pre : String} {h h' : World} (roster : h.Roster pre)
    (same : h.SameView h') : h'.Roster pre := by
  obtain ⟨r, present, seated⟩ := roster.registry
  have view := same.registry
  rw [present, Option.map_some] at view
  obtain ⟨r', present', view'⟩ := Option.map_eq_some_iff.mp view
  have watching : h'.bus.Watching = h.bus.Watching := h.bus.watching_of_subscriptions same.subscriptions
  refine ⟨⟨r', present', seated.transfer same view'⟩, same.unlinked roster.unlinked,
    fun id l watches => ?_, fun i inside asks r₁ present₁ => ?_⟩
  · rw [watching] at watches
    rw [same.subscriptions, same.ruleFor]
    exact roster.rules id l watches
  · rw [present', Option.some.injEq] at present₁
    subst present₁
    rw [(Registry.rollView_eq view').2.1]
    exact roster.asked i (same.callCount ▸ inside) (same.routes i ▸ asks) r present

/-- A change of a client that keeps its name keeps the books, if, for a client of an entry, it
also keeps whether the client is gone and whether it tells the registry so. -/
theorem World.Roster.modifyClient {pre : String} {h : World} (roster : h.Roster pre) (c : Nat)
    (g : ClientObject → ClientObject) (named : ∀ x, (g x).proxy.name = x.proxy.name)
    (seated : ∀ r, h.registry = some r → c ∈ r.entries.map (·.client) →
      ∀ x, (g x).proxy.gone = x.proxy.gone ∧ (g x).goneLinked = x.goneLinked) :
    World.Roster pre { h with clients := h.clients.modify c g } := by
  have name : ∀ c', ((h.clients.modify c g).getD c' default).proxy.name =
      (h.clients.getD c' default).proxy.name :=
    fun c' => getD_modify_of_keeps _ _ _ _ (fun x : ClientObject => x.proxy.name) named
  have rules : World.ruleFor { h with clients := h.clients.modify c g } = h.ruleFor := by
    funext l
    cases l with
    | client c' => simp only [World.ruleFor, name c']
    | _ => rfl
  obtain ⟨r, present, seated'⟩ := roster.registry
  -- an entry's client is the one changed, keeping what the books read, or another one
  have kept : ∀ e ∈ r.entries,
      ((h.clients.modify c g).getD e.client default).proxy.gone = (h.clients.getD e.client default).proxy.gone ∧
      ((h.clients.modify c g).getD e.client default).goneLinked = (h.clients.getD e.client default).goneLinked := by
    intro e member
    rw [getD_modify]
    split
    · rename_i changed
      exact seated r present (by rw [changed.1]; exact List.mem_map_of_mem member) _
    · exact ⟨rfl, rfl⟩
  exact ⟨⟨r, present, seated'.clientPrefix, seated'.unstarted, seated'.admitted,
    fun e member => (name e.client).trans (seated'.named e member),
    fun e member => (kept e member).1.trans (seated'.present e member),
    fun e member => (kept e member).2.trans (seated'.linked e member)⟩, roster.unlinked,
    fun id l watches => rules ▸ roster.rules id l watches, roster.asked⟩

/-- A change of a proxy that keeps its name and whether it is gone keeps the books. -/
theorem World.Roster.modifyProxy {pre : String} {h : World} (roster : h.Roster pre) (c : Nat)
    (g : Client.Proxy → Client.Proxy) (named : ∀ p, (g p).name = p.name)
    (gone : ∀ p, (g p).gone = p.gone) :
    World.Roster pre { h with clients := h.clients.modify c fun x => { x with proxy := g x.proxy } } :=
  roster.modifyClient c _ (fun x => named x.proxy) fun _ _ _ x => ⟨gone x.proxy, rfl⟩

/-! ## Work that keeps the view -/

theorem keepsView_modifyProxy (c : Nat) (g : Client.Proxy → Client.Proxy)
    (member : ∀ p, (g p).member = p.member) (gone : ∀ p, (g p).gone = p.gone) :
    Stays World.SameView (modifyProxy c g) :=
  Stays.of_modify fun h => h.sameView_clients c _ fun x => by
    simp only [ClientObject.rollView, member, gone]

theorem keepsView_modifyRegistry (g : Registry → Registry) (keeps : ∀ x, (g x).rollView = x.rollView) :
    Stays World.SameView (modifyRegistry g) := by
  refine Stays.of_modify fun h => ⟨?_, fun _ => rfl, rfl, rfl, rfl, fun _ => rfl, id,
    fun unscripted => unscripted.of_same rfl rfl⟩
  rw [Option.map_map]
  exact congrArg (Option.map · h.registry) (funext keeps)

theorem keepsView_note (n : Note) : Stays World.SameView (note n) :=
  Stays.of_modify fun _ => .of_same rfl rfl rfl rfl rfl rfl

theorem keepsView_modifyAccount (a : Nat) (g : AccountObject → AccountObject) :
    Stays World.SameView (modifyAccount a g) :=
  Stays.of_modify fun _ => .of_same rfl rfl rfl rfl rfl rfl

theorem keepsView_theRegistry : Stays World.SameView theRegistry := by
  intro h r h' run
  rw [run_theRegistry] at run
  split at run
  · rw [EStateM.Result.ok.injEq] at run
    rw [← run.2]
    exact .refl h
  · cases run

theorem keepsView_releaseStartupLock : Stays World.SameView releaseStartupLock := by
  unfold releaseStartupLock
  refine sameView.bind (sameView.of_read fun h => ⟨_, run_registry? h⟩) fun r? => ?_
  split
  · split
    · exact sameView.pure _
    · split
      · exact sameView.bind (keepsView_note _) fun _ => sameView.pure _
      · refine sameView.bind (keepsView_modifyRegistry _ fun _ => rfl) fun _ => ?_
        split
        · exact sameView.pure _
        · refine sameView.bind (keepsView_modifyRegistry _ fun _ => rfl) fun _ => ?_
          split
          · exact keepsView_note _
          · exact sameView.pure _
  · exact sameView.pure _

theorem keepsView_registryClientReady (c : Nat) : Stays World.SameView (registryClientReady c) := by
  unfold registryClientReady
  refine sameView.bind (sameView.of_read fun h => ⟨_, run_registry? h⟩) fun r? => ?_
  split
  · split
    · split
      · refine sameView.bind (keepsView_modifyRegistry _ fun x => ?_) fun _ => keepsView_releaseStartupLock
        simp only [Registry.rollView]
        rw [map_clear_keeps (fun y => (y.name, y.client)) fun _ => rfl]
      · exact sameView.pure _
    · exact sameView.pure _
  · exact sameView.pure _

theorem keepsView_becomeReady (c : Nat) : Stays World.SameView (becomeReady c) := by
  unfold becomeReady
  refine sameView.bind (sameView.of_read fun h => ⟨_, run_client c h⟩) fun cl => ?_
  split
  · exact sameView.pure _
  · refine sameView.bind (keepsView_modifyProxy _ _ (fun _ => rfl) fun _ => rfl) fun _ => ?_
    split
    · exact keepsView_registryClientReady c
    · exact sameView.pure _

theorem keepsView_build (s : Subject) (d : Descriptor) (props : Option Properties) :
    Stays World.SameView (build s d props) := by
  unfold build
  -- a note, a proxy or an account changed, or the wrong kind of object
  split
  · exact sameView.bind sameView.stays_get fun _ => keepsView_note _
  · exact keepsView_modifyProxy _ _ (fun _ => rfl) fun _ => rfl
  · exact keepsView_modifyProxy _ _ (fun _ => rfl) fun _ => rfl
  · exact keepsView_modifyProxy _ _ (fun _ => rfl) fun _ => rfl
  · exact keepsView_modifyProxy _ _ (fun _ => rfl) fun _ => rfl
  · exact keepsView_modifyAccount _ _
  · exact keepsView_modifyAccount _ _
  · exact Stays.of_throw _
  · exact Stays.of_throw _
  · exact Stays.of_throw _

theorem keepsView_absorbResult (fs : Fetch) (result : Except String (Option Properties)) :
    Stays World.SameView (absorbResult fs result) := by
  cases result with
  | ok props => exact keepsView_build _ _ _
  | error e => exact sameView.bind sameView.stays_get fun _ => keepsView_note _

theorem keepsView_applyAccountChange (a : Nat) (body : List Value) :
    Stays World.SameView (applyAccountChange a body) := by
  unfold applyAccountChange
  split
  · exact keepsView_modifyAccount _ _
  · exact sameView.pure _

namespace World

theorem sameView_markAnswered (h : World) (i : Nat) :
    h.SameView { h with bus := h.bus.markAnswered i } :=
  ⟨rfl, fun _ => rfl, rfl, rfl, Array.size_modify .., fun _ =>
    getD_modify_of_keeps _ _ _ _ Bus.Call.route fun _ => rfl, id, fun unscripted => unscripted.of_same rfl rfl⟩

theorem sameView_newWaiter (h : World) {wt : Waiter}
    (unscripted : ∀ r, wt.reaction = some r → r.isScript = false) :
    h.SameView { h with waiters := h.waiters.push wt } := by
  refine ⟨rfl, fun _ => rfl, rfl, rfl, rfl, fun _ => rfl, id, fun old => ⟨fun w' r reacts => ?_, old.latches⟩⟩
  rw [getD_push] at reacts
  split at reacts
  · exact unscripted r reacts
  · exact old.waiters w' r reacts

theorem sameView_newLatch (h : World) {l : Latch} (unscripted : l.finale.isScript = false) :
    h.SameView { h with latches := h.latches.push l } := by
  refine ⟨rfl, fun _ => rfl, rfl, rfl, rfl, fun _ => rfl, id, fun old => ⟨old.waiters, fun m' => ?_⟩⟩
  rw [getD_push]
  split
  · exact unscripted
  · exact old.latches m'

end World

/-! ## The bus of a roster -/

/-- A subscription recorded after those of a bus keeps their rules. -/
theorem rule_subscribe {κ : Type} [Inhabited κ] (b : Bus.Scripted Route κ) (rule : MatchRule) (l : κ)
    {id : Nat} (inside : id - 1 < b.subscriptions.size) :
    ((b.subscribe rule l).1.subscriptions.getD (id - 1) default).rule =
      (b.subscriptions.getD (id - 1) default).rule := by
  simp only [Bus.Scripted.subscribe]
  rw [getD_push, if_neg (Nat.ne_of_lt inside)]

/-- A subscription that the bus records selects with its listener's rule: the books stay. -/
theorem World.Roster.subscribe {pre : String} {h h' : World} {rule : MatchRule} {l : Listener}
    {id : Nat} (roster : h.Roster pre) (ruled : rule = h.ruleFor l)
    (run : (Hub.subscribe rule l).run h = .ok id h') : h'.Roster pre := by
  obtain ⟨-, d, rfl⟩ := subscribe_run run
  obtain ⟨r, present, seated⟩ := roster.registry
  refine ⟨⟨r, present, seated.of_clients rfl⟩, roster.unlinked, fun id' l' watches => ?_, roster.asked⟩
  rcases (h.bus.watching_subscribe rule l).mp watches with old | ⟨rfl, rfl⟩
  · rw [rule_subscribe _ _ _ (by have := (h.bus.isLive_inside old.1).2; omega)]
    exact roster.rules id' l' old
  · simp only [Bus.Scripted.subscribe, Nat.add_sub_cancel]
    rw [getD_push, if_pos rfl]
    exact ruled

/-- Ending a subscription ends it on the bus, if it is live, and tells the transport; nothing
else changes. -/
theorem unsubscribe_world {id : Nat} {h h' : World} (run : (Hub.unsubscribe id).run h = .ok () h') :
    h' = h ∨ h.bus.isLive id = true ∧ ∃ d, h' = { h with bus := h.bus.unsubscribe id, daemon := d } := by
  unfold Hub.unsubscribe at run
  simp only [bind_ok, run_get, EStateM.Result.ok.injEq, exists_returned] at run
  split at run
  · exact .inl (ok_pure run)
  · obtain ⟨⟨⟩, h₁, ended, rest⟩ := bind_ok.mp run
    simp only [run_modify, EStateM.Result.ok.injEq] at ended
    obtain ⟨-, rfl⟩ := ended
    rename_i unended
    refine .inr ⟨by simpa using unended, ?_⟩
    obtain ⟨linked, h₂, opened, rest⟩ := bind_ok.mp rest
    rw [linkOpen_run opened] at rest
    split at rest
    · simp only [run_daemonCall, EStateM.Result.ok.injEq] at rest
      exact ⟨_, rest.2.symm⟩
    · rw [ok_pure rest]
      exact ⟨h.daemon, rfl⟩

/-- Ending a subscription keeps the books. -/
theorem World.Roster.unsubscribe {pre : String} {h h' : World} {id : Nat} (roster : h.Roster pre)
    (run : (Hub.unsubscribe id).run h = .ok () h') : h'.Roster pre := by
  rcases unsubscribe_world run with rfl | ⟨live, d, rfl⟩
  · exact roster
  · obtain ⟨r, present, seated⟩ := roster.registry
    refine ⟨⟨r, present, seated.of_clients rfl⟩, roster.unlinked, fun id' l watches => ?_, roster.asked⟩
    rw [h.bus.watching_unsubscribe live] at watches
    simp only [Bus.Scripted.unsubscribe]
    rw [getD_modify_of_keeps _ _ _ (fun s => { s with live := false }) Bus.Subscription.rule
      fun _ => rfl]
    exact roster.rules id' l watches.1

/-- A call recorded on the bus keeps the books, if a started registry asks for any names it lists. -/
theorem World.Roster.record {pre : String} {h : World} (roster : h.Roster pre)
    (dest path method : String) (args : List Value) {route : Route}
    (asked : route.asksNames = true → ∀ r, h.registry = some r → r.started = true) :
    World.Roster pre { h with bus := (h.bus.record dest path method args route).1 } := by
  obtain ⟨r₀, present₀, seated⟩ := roster.registry
  refine ⟨⟨r₀, present₀, seated.of_clients rfl⟩, roster.unlinked, roster.rules,
    fun i inside asks r present => ?_⟩
  simp only [Bus.Scripted.record, Array.size_push] at inside asks
  rw [getD_push] at asks
  split at asks
  · exact asked asks r present
  · exact roster.asked i (by omega) asks r present

/-! ## Clients forgotten -/

/-- The world with the registry forgetting the entry named `name`. -/
def World.forgetting (name : String) (h : World) : World :=
  { h with registry := h.registry.map fun x => { x with entries := x.entries.filter (·.name != name) } }

/-- Client `c` is the client of no entry of the registry. -/
def World.Unlisted (c : Nat) (h : World) : Prop :=
  ∀ r, h.registry = some r → c ∉ r.entries.map (·.client)

theorem Registry.rollView_forget (r : Registry) (name : String) :
    ({ r with entries := r.entries.filter (·.name != name) } : Registry).rollView =
      (r.rollView.1, r.rollView.2.1, r.rollView.2.2.1, r.rollView.2.2.2.filter (·.1 != name)) := by
  simp only [Registry.rollView, List.filter_map]
  rfl

theorem World.SameView.forgetting {h h' : World} (same : h.SameView h') (name : String) :
    (h.forgetting name).SameView (h'.forgetting name) := by
  refine { same with
    registry := ?_
    unscripted := fun unscripted => (same.unscripted (unscripted.of_same rfl rfl)).of_same rfl rfl }
  simp only [World.forgetting, Option.map_map, Function.comp_def, Registry.rollView_forget]
  have view := congrArg (Option.map fun v : String × Bool × Bool × List (String × Nat) =>
    (v.1, v.2.1, v.2.2.1, v.2.2.2.filter (·.1 != name))) same.registry
  simpa only [Option.map_map, Function.comp_def] using view

theorem World.SameView.unlisted {h h' : World} {c : Nat} (same : h.SameView h') (unlisted : h.Unlisted c) :
    h'.Unlisted c := by
  intro r' present'
  have view := same.registry
  rw [present', Option.map_some] at view
  obtain ⟨r, present, view'⟩ := Option.map_eq_some_iff.mp view.symm
  rw [clients_of_pairs (Registry.rollView_eq view'.symm).2.2.2]
  exact unlisted r present

/-! ## A roll that stays -/

/-- The frames of operations under which the roll cannot change: fan-outs, waiters firing
alone, clients just added, and clients waiting for their interfaces. -/
def Frame.keepsRoll : Frame → Bool
  | .fanOut .. | .alone _ | .enrolling _ | .waiting (.client _) _ _ => true
  | _ => false

/-- Asking for what a call whose reply lists no names asks for ends no reading of names. -/
theorem Frame.onCall_of_calm {route : Route} (calm : route.asksNames = false) (S : List Frame) :
    Frame.onCall route S = S := by
  cases route <;> first | rfl | cases calm

/-- World `h` is in roll `R` with the books of its roster, with the operations of `S` under way,
none of which changes the roll; only names are watched, no waiter or latch runs a session's
steps, and the bus answers with responders `rs`. -/
structure World.Keeping (pre : String) (R : Roll) (rs : List (String × Bus.Responder))
    (S : List Frame) (h : World) : Prop where
  frames : ∀ F ∈ S, F.keepsRoll = true
  roll : h.roll = R
  roster : h.Roster pre
  only : NamesOnly h.bus
  unscripted : h.Unscripted
  responders : h.bus.responders = rs

namespace World.Keeping

variable {pre : String} {R : Roll} {rs : List (String × Bus.Responder)} {S : List Frame} {h : World}

theorem transfer {h' : World} (keeping : h.Keeping pre R rs S) (same : h.SameView h') :
    h'.Keeping pre R rs S :=
  ⟨keeping.frames, same.roll.trans keeping.roll, keeping.roster.transfer same,
    keeping.only.of_subscriptions same.subscriptions, same.unscripted keeping.unscripted,
    same.responders.trans keeping.responders⟩

/-- What keeps what the roll reads keeps the roll. -/
theorem keeps {α : Type} {x : HubM α} (stays : Stays World.SameView x) :
    Keeps (World.Keeping pre R rs S) x :=
  stays.keeps fun _ _ same keeping => keeping.transfer same

theorem pop {F : Frame} (keeping : h.Keeping pre R rs (F :: S)) : h.Keeping pre R rs S :=
  { keeping with frames := fun G member => keeping.frames G (List.mem_cons_of_mem F member) }

theorem push {F : Frame} (keeping : h.Keeping pre R rs S) (keeps : F.keepsRoll = true) :
    h.Keeping pre R rs (F :: S) :=
  { keeping with
    frames := fun G member => (List.mem_cons.mp member).elim (fun same => same ▸ keeps)
      (keeping.frames G) }

/-- No operation that changes the roll is under way. -/
theorem not_changing {F : Frame} (keeping : h.Keeping pre R rs (F :: S)) (changes : F.keepsRoll = false) :
    False := by
  rw [keeping.frames F List.mem_cons_self] at changes
  cases changes

theorem onReply (keeping : h.Keeping pre R rs S) {route : Route} (calm : route.asksNames = false) :
    h.Keeping pre R rs (Frame.onReply route S) := by
  cases route with
  | fetch f => exact keeping.push rfl
  | names => cases calm
  | activatableNames => cases calm
  | _ => exact keeping

theorem record (keeping : h.Keeping pre R rs S) (dest path method : String) (args : List Value)
    {route : Route} (calm : route.asksNames = false) :
    World.Keeping pre R rs S { h with bus := (h.bus.record dest path method args route).1 } :=
  ⟨keeping.frames, keeping.roll,
    keeping.roster.record dest path method args fun asks => absurd (calm ▸ asks) Bool.false_ne_true,
    keeping.only, keeping.unscripted.of_same rfl rfl, keeping.responders⟩

theorem newWaiter {wt : Waiter} (unscripted : ∀ r, wt.reaction = some r → r.isScript = false) :
    Keeps (World.Keeping pre R rs S) (Hub.newWaiter wt) := by
  intro h w h' keeping run
  simp only [run_newWaiter, EStateM.Result.ok.injEq] at run
  obtain ⟨-, rfl⟩ := run
  exact keeping.transfer (h.sameView_newWaiter unscripted)

theorem newLatch {l : Latch} (unscripted : l.finale.isScript = false) :
    Keeps (World.Keeping pre R rs S) (Hub.newLatch l) := by
  intro h m h' keeping run
  simp only [run_newLatch, EStateM.Result.ok.injEq] at run
  obtain ⟨-, rfl⟩ := run
  exact keeping.transfer (h.sameView_newLatch unscripted)

/-- A client subscribes to the changes of owner of its own name. -/
theorem subscribe {c id : Nat} {h' : World} (keeping : h.Keeping pre R rs S)
    (run : (Hub.subscribe (Bus.ownershipRule (h.clients.getD c default).proxy.name) (.client c)).run h =
      .ok id h') : h'.Keeping pre R rs S := by
  have roster := keeping.roster.subscribe (l := .client c) rfl run
  obtain ⟨-, d, rfl⟩ := subscribe_run run
  exact ⟨keeping.frames, keeping.roll, roster, keeping.only.subscribe _ rfl,
    keeping.unscripted.of_same rfl rfl, keeping.responders⟩

/-- Ending a subscription keeps the roll and its books. -/
theorem unsubscribe {id : Nat} {h' : World} (keeping : h.Keeping pre R rs S)
    (run : (Hub.unsubscribe id).run h = .ok () h') : h'.Keeping pre R rs S := by
  have roster := keeping.roster.unsubscribe run
  rcases unsubscribe_world run with rfl | ⟨-, d, rfl⟩
  · exact keeping
  · exact ⟨keeping.frames, keeping.roll, roster, keeping.only.unsubscribe id,
      keeping.unscripted.of_same rfl rfl, keeping.responders⟩

/-- A change of a client of no entry that keeps its name keeps the roll and its books. -/
theorem modifyClient {c : Nat} (keeping : h.Keeping pre R rs S) (g : ClientObject → ClientObject)
    (named : ∀ x, (g x).proxy.name = x.proxy.name) (unlisted : h.Unlisted c) :
    World.Keeping pre R rs S { h with clients := h.clients.modify c g } := by
  refine ⟨keeping.frames, ?_, keeping.roster.modifyClient c g named fun r present inside =>
    absurd inside (unlisted r present), keeping.only, keeping.unscripted.of_same rfl rfl,
    keeping.responders⟩
  obtain ⟨r, present, -⟩ := keeping.roster.registry
  have present' : World.registry { h with clients := h.clients.modify c g } = some r := present
  have members : r.members { h with clients := h.clients.modify c g } = r.members h := by
    unfold Registry.members
    refine List.map_congr_left fun e member => ?_
    rw [getD_modify, if_neg fun both => unlisted r present (by rw [both.1]; exact List.mem_map_of_mem member)]
  rw [World.roll_of_registry present', members, ← World.roll_of_registry present]
  exact keeping.roll

/-- Forgetting the entry of a name forgets its member. -/
theorem forget (keeping : h.Keeping pre R rs S) (name : String) :
    (h.forgetting name).Keeping pre { R with members := R.members.filter (·.name != name) } rs S := by
  obtain ⟨r, present, seated⟩ := keeping.roster.registry
  have present' : (h.forgetting name).registry =
      some { r with entries := r.entries.filter (·.name != name) } := by
    simp [World.forgetting, present]
  have kept : ∀ e ∈ r.entries.filter (·.name != name), e ∈ r.entries := fun e member =>
    (List.mem_filter.mp member).1
  refine ⟨keeping.frames, ?_, ⟨⟨_, present', seated.clientPrefix,
    fun fresh => by simp [seated.unstarted fresh], fun e member => seated.admitted e (kept e member),
    fun e member => seated.named e (kept e member), fun e member => seated.present e (kept e member),
    fun e member => seated.linked e (kept e member)⟩, keeping.roster.unlinked, keeping.roster.rules,
    fun i inside asks r' present'' => ?_⟩, keeping.only, keeping.unscripted.of_same rfl rfl,
    keeping.responders⟩
  · -- the members of the entries kept are those of other names
    have named : ∀ e ∈ r.entries,
        ((h.clients.getD e.client default).proxy.member.name != name) = (e.name != name) :=
      fun e member => by rw [← seated.named e member]; rfl
    rw [World.roll_of_registry present', ← keeping.roll, World.roll_of_registry present]
    simp only [Registry.members, List.filter_map]
    exact congrArg _ (congrArg _ (List.filter_congr fun e member => (named e member).symm))
  · rw [present', Option.some.injEq] at present''
    rw [← present'']
    exact keeping.roster.asked i inside asks r present

/-- A client of no entry disposed of: its watch ends, its owner closes, its fetches are
forgotten, and the roll and its books stay. -/
theorem disposeClient {c : Nat} {h' : World} (keeping : h.Keeping pre R rs S) (unlisted : h.Unlisted c)
    (run : (Hub.disposeClient c).run h = .ok () h') : h'.Keeping pre R rs S := by
  -- after its watch, nothing the roll reads changes but client `c` itself
  have tail : ∀ o, Keeps (fun h => h.Keeping pre R rs S ∧ h.Unlisted c) (do
      closeOwner o
      disposeFetches (.client c)
      Hub.modifyClient c fun x => { x with readyLinked := false, goneLinked := false } : HubM Unit) := by
    intro o h₁ u h₄ ⟨kept₁, unlisted₁⟩ rest
    obtain ⟨⟨⟩, h₂, closed, rest⟩ := bind_ok.mp rest
    obtain ⟨⟨⟩, h₃, disposed, unlinked⟩ := bind_ok.mp rest
    have same : h₁.SameView h₃ := (sameView.stays_closeOwner o h₁ () h₂ closed).trans
      (sameView.stays_disposeFetches _ h₂ () h₃ disposed)
    simp only [run_modifyClient, EStateM.Result.ok.injEq] at unlinked
    obtain ⟨-, rfl⟩ := unlinked
    exact ⟨(kept₁.transfer same).modifyClient (fun x => { x with readyLinked := false, goneLinked := false })
      (fun _ => rfl) (same.unlisted unlisted₁), same.unlisted unlisted₁⟩
  unfold Hub.disposeClient at run
  simp only [bind_ok, run_client, EStateM.Result.ok.injEq, exists_returned] at run
  split at run
  · obtain ⟨⟨⟩, h₁, unsubscribed, rest⟩ := bind_ok.mp run
    obtain ⟨⟨⟩, h₂, unset, rest⟩ := bind_ok.mp rest
    simp only [run_modifyClient, EStateM.Result.ok.injEq] at unset
    obtain ⟨-, rfl⟩ := unset
    have unlisted₁ : h₁.Unlisted c := by
      rcases unsubscribe_world unsubscribed with rfl | ⟨-, d, rfl⟩ <;> exact unlisted
    exact (tail _ ⟨(keeping.unsubscribe unsubscribed).modifyClient (fun x => { x with nameWatch := none })
      (fun _ => rfl) unlisted₁, unlisted₁⟩ rest).1
  · exact (tail _ ⟨keeping, unlisted⟩ run).1

end World.Keeping

/-- A watch of an interface of a client only notes that it began. -/
theorem keeping_watch {pre : String} {R : Roll} {rs : List (String × Bus.Responder)} {S : List Frame}
    (c : Nat) (iface : String) (k : Watcher) : Keeps (World.Keeping pre R rs S) (watch (.client c) iface k) := by
  cases k with
  | record => exact World.Keeping.keeps (sameView.bind sameView.stays_get fun _ => keepsView_note _)
  | account => exact World.Keeping.keeps (Stays.of_throw _)

/-- A client just added starts: it watches the changes of owner of its name. -/
theorem keeping_openClient {pre : String} {R : Roll} {rs : List (String × Bus.Responder)}
    {S : List Frame} {c : Nat} {name : String} :
    Triple (fun h => h.Keeping pre R rs (.enrolling c :: S) ∧
        (h.clients.getD c default).proxy.name = name) (openClient c name)
      fun _ => World.Keeping pre R rs S := by
  rintro h ⟨⟩ h' ⟨keeping, named⟩ run
  unfold openClient at run
  obtain ⟨⟨⟩, h₁, started, run⟩ := bind_ok.mp run
  obtain ⟨id, h₂, subscribed, watched⟩ := bind_ok.mp run
  have same₁ := keepsView_modifyProxy c (fun p => { p with started := true }) (fun _ => rfl)
    (fun _ => rfl) h () h₁ started
  have kept₁ := keeping.pop.transfer same₁
  rw [← named, ← same₁.name c] at subscribed
  have kept₂ := kept₁.subscribe subscribed
  simp only [run_modifyClient, EStateM.Result.ok.injEq] at watched
  obtain ⟨-, rfl⟩ := watched
  exact kept₂.transfer (h₂.sameView_clients c _ fun _ => rfl)

/-- The roll stays `R` while a client of the registry does its own work: it starts, its
interfaces are fetched and waited for, it becomes ready. No session's steps run, no step drives
the registry, the registry hears of no name and no listing of names is asked for or read, so
nothing changes the roll or the books of the roster; the bus keeps its responders `rs`. -/
def rolling (pre : String) (R : Roll) (rs : List (String × Bus.Responder)) : Invariant where
  Holds := World.Keeping pre R rs
  Ready _ _ _ := True
  Reacts _ r _ := r.isScript = false
  Calls _ route _ := route.asksNames = false
  Makes _ wt _ := ∀ r, wt.reaction = some r → r.isScript = false
  Waits _ s _ := ∃ c, s = .client c
  Performs _ := False
  Heeds _ := False
  Replies _ route _ := route.asksNames = false
  Sights _ := False
  note S n _ := World.Keeping.keeps (keepsView_note n)
  react S w r h keeping _ _ _ reaction := keeping.unscripted.waiters w r reaction
  fired _ _ _ _ _ _ _ _ reacts := by cases reacts
  scripted _ _ _ _ _ _ reacts := by cases reacts
  finale _ m _ _ _ h keeping _ finale := by
    have unscripted := keeping.unscripted.latches m
    rw [finale] at unscripted
    cases unscripted
  tick S m e c := (World.Keeping.keeps (sameView.stays_modifyLatch m
      (fun x => { x with firstError := e, toFire := c }) fun _ => rfl)).mono
    (fun _ pre => pre.1) fun _ _ kept => kept
  becomeReady S c := World.Keeping.keeps (keepsView_becomeReady c)
  newWaiter S wt := fun h w h' pre run => World.Keeping.newWaiter pre.2 pre.1 run
  sessionWaiter _ _ _ _ _ _ _ _ performs := performs.elim
  latchWaiter _ _ _ _ _ _ r reaction := by
    cases reaction
    rfl
  clientWaiter _ _ _ _ _ r reaction := by
    cases reaction
    rfl
  waitLabelled _ _ _ _ performs := performs.elim
  waitClient S c l o finale := by
    intro h m h' pre run
    exact (World.Keeping.newLatch (by rw [finale]; rfl) pre.1 run).push rfl
  endWait S s m o h keeping := keeping.pop
  sessionSubject _ _ _ _ performs := performs.elim
  accountSubject _ _ _ _ performs := performs.elim
  clientSubject S c h _ _ := ⟨c, rfl⟩
  waitingSubject S s m o h keeping := by
    have waits := keeping.frames _ List.mem_cons_self
    cases s with
    | client c => exact ⟨c, rfl⟩
    | _ => cases waits
  label S l w := World.Keeping.keeps (sameView.stays_label l w)
  alone S w h keeping _ := ⟨keeping.push rfl, trivial⟩
  finishAlone S w := fun h u h' keeping run =>
    World.Keeping.keeps (sameView.stays_finish w) keeping.pop run
  refuse S w := (World.Keeping.keeps (sameView.stays_cancelWaiter w)).mono
    (fun _ pre => pre.1) fun _ _ kept => kept
  join S s d w f o _ := (World.Keeping.keeps (sameView.stays_attach f w o)).mono
    (fun _ pre => pre.1) fun _ _ kept => kept
  start S s d w o _ := (World.Keeping.keeps (sameView.stays_openFetch s d w o)).mono
    (fun _ pre => pre.1) fun _ _ kept => ⟨kept, rfl⟩
  watch S s iface k h waits := by
    obtain ⟨c, rfl⟩ := waits
    exact keeping_watch c iface k
  record S dest path method args route h keeping calm := by
    rw [Frame.onCall_of_calm calm]
    exact keeping.record dest path method args calm
  inline S dest path method args route h _ calm := calm
  replied S route h heeds := (heeds.elim id id).elim
  transmit S i dest path method args :=
    World.Keeping.keeps (sameView.stays_transmit i dest path method args)
  answer S i h keeping _ _ calm := (keeping.transfer (h.sameView_markAnswered i)).onReply calm
  naming S h calm := by cases calm
  listing S h calm := by cases calm
  signalled S heeds := heeds.elim id id
  avatar S a p := World.Keeping.keeps (keepsView_modifyAccount a _)
  avatarCall S a h _ _ := rfl
  skipDisposed S f h keeping _ := keeping.pop
  absorb S f fs result := (World.Keeping.keeps (keepsView_absorbResult fs result)).mono
    (fun _ pre => pre.1) fun _ _ kept => kept
  startFiring S f := World.Keeping.keeps (sameView.stays_modifyFetch f _)
  advance S f i w h keeping _ := ⟨keeping.pop.push rfl, trivial⟩
  settle S f j err := fun h u h' pre run =>
    World.Keeping.keeps (sameView.stays_settleFetch f err) pre.1.pop run
  ownerChanged S c name new sights := sights.elim
  accountChange S a body := (World.Keeping.keeps (keepsView_applyAccountChange a body)).mono
    (fun _ pre => pre.1) fun _ _ kept => kept
  unsubscribe S label drops h keeping listens := by
    obtain ⟨id, live, heard⟩ := listens
    have names := keeping.only.watching ⟨live, heard⟩
    cases names
  openRegistry S r sights := sights.elim
  listCall S h sights _ := sights.elim
  abandonNaming S h keeping _ := (keeping.not_changing rfl).elim
  abandonListing S h keeping _ := (keeping.not_changing rfl).elim
  release S := fun h _ _ keeping _ => (keeping.not_changing rfl).elim
  sighted S h r sights := sights.elim
  registered S h keeping := (keeping.not_changing rfl).elim
  markActivatable S c := fun h _ _ keeping _ => (keeping.not_changing rfl).elim
  markActive S c u := fun h _ _ keeping _ => (keeping.not_changing rfl).elim
  enroll S r name u act := fun h _ _ pre _ => (pre.1.not_changing rfl).elim
  openClient S c name := fun h u h' pre run => keeping_openClient ⟨pre.1, pre.2.2.2⟩ run
  plain S step driven := (driven.elim id fun heeds => heeds.1).elim

/-! ## The roster at the start -/

/-- A registry before it starts, without entries, on a bus without subscriptions or calls and
without a transport, keeps the books of its roster. -/
theorem World.roster_fresh {h : World} {r : Registry} (present : h.registry = some r)
    (entries : r.entries = []) (unlinked : h.link = none) (subscriptions : h.bus.subscriptions = #[])
    (calls : h.bus.calls = #[]) : h.Roster r.clientPrefix := by
  refine ⟨⟨r, present, rfl, fun _ => entries, ?_, ?_, ?_, ?_⟩, unlinked, fun id l watching => ?_,
    fun i inside => ?_⟩
  all_goals try (intro e member; rw [entries] at member; cases member)
  · have inside := (h.bus.isLive_inside watching.1).2
    rw [subscriptions] at inside
    exact absurd inside (Nat.not_lt_zero _)
  · rw [calls] at inside
    exact absurd inside (Nat.not_lt_zero _)

/-- A registry session starts with the books of its roster, for the registry's prefix. -/
theorem roster_initial {j : Json} {h : World} (start : initial "registry" j = .ok h) :
    ∃ r, h.registry = some r ∧ h.Roster r.clientPrefix := by
  unfold initial at start
  rw [if_neg (by decide), if_pos (by decide)] at start
  simp only [bind, Except.bind] at start
  split at start
  · cases start
  · split at start
    · cases start
    · cases start
      exact ⟨_, rfl, World.roster_fresh rfl rfl rfl rfl rfl⟩

end MissionControl.Hub
