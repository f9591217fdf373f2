import MissionControl.Proofs.Hub.Roster

/-!
# What the registry's operations do to its roll

Each operation by which the registry hears of names changes its roll as the roll machine says
(`Roll.step`), from a world *driving* the registry (`World.Driving`): the books of its watches and
of its roster hold, and its roll is known.

* A sighting (`register`) sights the name: a known client is marked activatable or active, a new
  one is added with a fresh proxy, which then starts.
* A listing reply sights every name it lists; the reply listing the owned names asks at once for
  the activatable ones, which a responder answers on the spot.
* A change of owner reaches the registry's own watch, where a name's first owner is a sighting,
  and the watch of the client of that name, which follows the new owner or, losing it, leaves the
  roll unless it can be activated.
* Closing empties the roll for good.

What a client does once added, fetching and waiting for its interfaces, leaves the roll as it
was (`rolling`); the books of the watches come from `watches`.
-/

set_option autoImplicit false

namespace MissionControl.Hub

open Readiness

/-- A world between the operations of a driven registry with client prefix `pre`: the books of
its watches and of its roster hold, its roll is `R`, and the bus answers with responders `rs`. -/
structure World.Driving (pre : String) (R : Roll) (rs : List (String × Bus.Responder)) (h : World) :
    Prop where
  watches : h.Watches false []
  roster : h.Roster pre
  roll : h.roll = R
  responders : h.bus.responders = rs

namespace World.Driving

variable {pre : String} {R : Roll} {rs : List (String × Bus.Responder)} {h : World}

/-- The registry of a driven world, with its books and its roll. -/
theorem registry (driving : h.Driving pre R rs) :
    ∃ r, h.registry = some r ∧ r.Seated pre h ∧ r.Watched [] h ∧
      R = { started := r.started, closed := r.closed, members := r.members h } := by
  obtain ⟨r, present, seated⟩ := driving.roster.registry
  obtain ⟨r', present', watched⟩ := driving.watches.registry
  rw [present, Option.some.injEq] at present'
  subst present'
  exact ⟨r, present, seated, watched, driving.roll.symm.trans (World.roll_of_registry present)⟩

theorem keeping (driving : h.Driving pre R rs) : h.Keeping pre R rs [] :=
  ⟨fun _ member => absurd member List.not_mem_nil, driving.roll, driving.roster,
    driving.watches.only, driving.watches.unscripted, driving.responders⟩

theorem of_keeping {S : List Frame} (keeping : h.Keeping pre R rs S) (watches : h.Watches false []) :
    h.Driving pre R rs :=
  ⟨watches, keeping.roster, keeping.roll, keeping.responders⟩

theorem transfer {h' : World} (driving : h.Driving pre R rs) (same : h.SameView h')
    (watching : h.SameWatches h') : h'.Driving pre R rs :=
  of_keeping (driving.keeping.transfer same) (driving.watches.transfer watching)

/-- The registry of an open roll is open. -/
theorem opens (driving : h.Driving pre R rs) (opened : R.isOpen = true) :
    ∀ r, h.registry = some r → r.closed = false := by
  intro r present
  obtain ⟨r', present', -, -, rfl⟩ := driving.registry
  rw [present, Option.some.injEq] at present'
  subst present'
  exact (by simpa [Roll.isOpen] using opened : r.started = true ∧ r.closed = false).2

end World.Driving

/-! ## Members of the roll -/

/-- Changing the proxy of one entry's client by a change that keeps its name changes that
entry's member and no other, when the entries have distinct names and clients, each a client of
the world named as its entry. -/
theorem Registry.members_modifyProxy {r : Registry} {h : World} {e : RegistryEntry}
    (entry : e ∈ r.entries) (names : (r.entries.map (·.name)).Nodup)
    (clients : (r.entries.map (·.client)).Nodup) (inside : e.client < h.clients.size)
    (named : ∀ e ∈ r.entries, (h.clients.getD e.client default).proxy.name = e.name)
    (g : Client.Proxy → Client.Proxy) (f : Member → Member) (through : ∀ p, (g p).member = f p.member) :
    r.members { h with clients := h.clients.modify e.client fun x => { x with proxy := g x.proxy } } =
      Roll.update e.name f (r.members h) := by
  simp only [Registry.members, Roll.update, List.map_map]
  refine List.map_congr_left fun e' member => ?_
  have named' : ((h.clients.getD e'.client default).proxy.member).name = e'.name := named e' member
  simp only [Function.comp_apply, getD_modify]
  by_cases same : e.client = e'.client
  · -- the entry changed is the one of that client
    have equal : e' = e := List.inj_on_of_nodup_map clients member entry same.symm
    subst equal
    rw [if_pos ⟨rfl, inside⟩, if_pos (by rw [named']; exact beq_self_eq_true _)]
    exact through _
  · have apart : e'.name ≠ e.name := fun named'' =>
      same (congrArg RegistryEntry.client (List.inj_on_of_nodup_map names entry member named''.symm))
    rw [if_neg fun both => same both.1, if_neg (by rw [named']; simpa using apart)]

/-- No entry has the name: the roll does not know it. -/
theorem Registry.knows_members_of_find {r : Registry} {h : World} {name : String}
    (unknown : r.entries.find? (·.name == name) = none)
    (named : ∀ e ∈ r.entries, (h.clients.getD e.client default).proxy.name = e.name) :
    Roll.knows (r.members h) name = false := by
  rw [Bool.eq_false_iff]
  intro known
  obtain ⟨m, member, rfl⟩ := List.mem_map.mp (Roll.knows_iff.mp known)
  obtain ⟨e, entry, rfl⟩ := List.mem_map.mp member
  have same : (h.clients.getD e.client default).proxy.member.name = e.name := named e entry
  exact List.find?_eq_none.mp unknown e entry (by rw [same]; exact beq_self_eq_true _)

/-- The member of a name on the roll is the one of the client of its entry, when the entries have
distinct names, each that of its client. -/
theorem Registry.member_named {r : Registry} {h : World} {e : RegistryEntry} (entry : e ∈ r.entries)
    (names : (r.entries.map (·.name)).Nodup)
    (named : ∀ e ∈ r.entries, (h.clients.getD e.client default).proxy.name = e.name) :
    ∀ m ∈ r.members h, m.name = e.name → m = (h.clients.getD e.client default).proxy.member := by
  intro m member same
  obtain ⟨e', entry', rfl⟩ := List.mem_map.mp member
  have own : e'.name = e.name := (named e' entry').symm.trans same
  rw [List.inj_on_of_nodup_map names entry' entry own]

theorem Registry.knows_members {r : Registry} {h : World} {e : RegistryEntry} (entry : e ∈ r.entries)
    (named : ∀ e ∈ r.entries, (h.clients.getD e.client default).proxy.name = e.name) :
    Roll.knows (r.members h) e.name = true :=
  Roll.knows_iff.mpr (List.mem_map.mpr ⟨_, List.mem_map.mpr ⟨e, entry, rfl⟩, named e entry⟩)

/-! ## Sightings -/

/-- Adding client `c`, the next one, for a name: it gets a fresh proxy that tells the registry
when it goes, and the registry an entry for it; the bus, the transport, the waiters and the
latches stay as they were. -/
theorem enroll_view {r : Registry} {name u : String} {act : Bool} {h h' : World} {c : Nat}
    (present : h.registry = some r) (run : (enroll r name u act).run h = .ok c h') :
    c = h.clients.size ∧ h'.clients.size = h.clients.size + 1 ∧
      (∀ c' < h.clients.size, h'.clients.getD c' default = h.clients.getD c' default) ∧
      (h'.clients.getD c default).proxy = Client.Proxy.create name u act ∧
      (h'.clients.getD c default).goneLinked = true ∧
      h'.registry = some { r with
        entries := r.entries ++ [{ name, client := c, lockHeld := !r.startedUp }],
        startupLock := if !r.startedUp then r.startupLock + 1 else r.startupLock } ∧
      h'.bus = h.bus ∧ h'.link = h.link ∧ h'.waiters = h.waiters ∧ h'.latches = h.latches := by
  simp only [enroll, bind_ok, run_newOwner, run_modifyGet, run_modifyRegistry, run_modifyClient,
    EStateM.Result.ok.injEq, exists_returned, exists_returned_unit] at run
  -- the world before the client is announced, if the session listens
  obtain ⟨h₁, announced, rfl, same⟩ : ∃ h₁ : World, (h₁ = h' ∨ ∃ n, h' = { h₁ with notes := h₁.notes.push n }) ∧
      c = h.clients.size ∧ h₁ = { h with
        owners := h.owners.push {},
        clients := (h.clients.push { proxy := Client.Proxy.create name u act, owner := h.owners.size }).modify
          h.clients.size fun x => { x with readyLinked := true, goneLinked := true },
        registry := h.registry.map fun x => { x with
          entries := x.entries ++ [{ name, client := h.clients.size, lockHeld := !r.startedUp }],
          startupLock := if !r.startedUp then x.startupLock + 1 else x.startupLock } } := by
    split at run
    · simp only [bind_ok, run_note, run_pure, EStateM.Result.ok.injEq, exists_returned_unit] at run
      exact ⟨_, .inr ⟨_, run.2.symm⟩, run.1.symm, rfl⟩
    · simp only [run_pure, EStateM.Result.ok.injEq] at run
      exact ⟨_, .inl run.2, run.1.symm, rfl⟩
  have facts : ∀ h₂ : World, h₂.clients = h₁.clients → h₂.registry = h₁.registry → h₂.bus = h₁.bus →
      h₂.link = h₁.link → h₂.waiters = h₁.waiters → h₂.latches = h₁.latches →
      h₂.clients.size = h.clients.size + 1 ∧
      (∀ c' < h.clients.size, h₂.clients.getD c' default = h.clients.getD c' default) ∧
      (h₂.clients.getD h.clients.size default).proxy = Client.Proxy.create name u act ∧
      (h₂.clients.getD h.clients.size default).goneLinked = true ∧
      h₂.registry = some { r with
        entries := r.entries ++ [{ name, client := h.clients.size, lockHeld := !r.startedUp }],
        startupLock := if !r.startedUp then r.startupLock + 1 else r.startupLock } ∧
      h₂.bus = h.bus ∧ h₂.link = h.link ∧ h₂.waiters = h.waiters ∧ h₂.latches = h.latches := by
    intro h₂ clients registry bus link waiters latches
    subst same
    refine ⟨by simp [clients], fun c' below => ?_, ?_, ?_, by simp [registry, present], bus, link,
      waiters, latches⟩
    · rw [clients, getD_modify, if_neg fun both => Nat.ne_of_gt below both.1, getD_push,
        if_neg (Nat.ne_of_lt below)]
    · rw [clients, getD_modify, if_pos ⟨rfl, by simp⟩, getD_push, if_pos rfl]
    · rw [clients, getD_modify, if_pos ⟨rfl, by simp⟩]
  refine ⟨rfl, ?_⟩
  rcases announced with rfl | ⟨n, rfl⟩
  · exact facts h₁ rfl rfl rfl rfl rfl rfl
  · exact facts _ rfl rfl rfl rfl rfl rfl

variable {pre : String} {R : Roll} {rs : List (String × Bus.Responder)}

/-- A name that counts, not yet on the roll of an open registry, sighted: a new client is added,
whose member is the fresh one, and the books stay. -/
theorem enroll_driving {r : Registry} {name u : String} {act : Bool} {h h₁ : World} {c : Nat}
    (driving : h.Driving pre R rs) (present : h.registry = some r) (started : r.started = true)
    (admitted : Roll.admits pre name = true)
    (run : (enroll r name u act).run h = .ok c h₁) :
    c < h₁.clients.size ∧ (h₁.clients.getD c default).proxy.started = false ∧
      h₁.Keeping pre { R with members := R.members ++ [Member.fresh name u act] } rs [.enrolling c] := by
  obtain ⟨rfl, size, old, proxy, linked, present₁, bus, link, waiters, latches⟩ := enroll_view present run
  obtain ⟨r', present', seated, watched, rfl⟩ := driving.registry
  rw [present, Option.some.injEq] at present'
  subst present'
  -- the clients of the entries, and every client watched, are older than the new one
  have older : ∀ e ∈ r.entries, h₁.clients.getD e.client default = h.clients.getD e.client default :=
    fun e member => old _ (watched.inside _ (List.mem_map_of_mem member))
  have rules : ∀ id l, h₁.bus.Watching id l →
      (h₁.bus.subscriptions.getD (id - 1) default).rule = h₁.ruleFor l := by
    intro id l watching
    rw [bus] at watching ⊢
    rw [driving.roster.rules id l watching]
    cases l with
    | client c' =>
      simp only [World.ruleFor, old c' (watched.inside c' (watched.entriesOnly id c' watching).1)]
    | _ => rfl
  have seated₁ : Registry.Seated pre { r with
      entries := r.entries ++ [{ name, client := h.clients.size, lockHeld := !r.startedUp }],
      startupLock := if !r.startedUp then r.startupLock + 1 else r.startupLock } h₁ := by
    -- the old entries keep their clients; the new one has the fresh proxy
    refine ⟨seated.clientPrefix, fun unstarted => by simp_all, fun e member => ?_, fun e member => ?_,
      fun e member => ?_, fun e member => ?_⟩
    · rcases List.mem_append.mp member with member | added
      · exact seated.admitted e member
      · rw [List.mem_singleton.mp added]
        exact admitted
    · rcases List.mem_append.mp member with member | added
      · rw [older e member]
        exact seated.named e member
      · rw [List.mem_singleton.mp added, proxy]
        rfl
    · rcases List.mem_append.mp member with member | added
      · rw [older e member]
        exact seated.present e member
      · rw [List.mem_singleton.mp added, proxy]
        rfl
    · rcases List.mem_append.mp member with member | added
      · rw [older e member]
        exact seated.linked e member
      · rw [List.mem_singleton.mp added]
        exact linked
  have members : Registry.members { r with
      entries := r.entries ++ [{ name, client := h.clients.size, lockHeld := !r.startedUp }],
      startupLock := if !r.startedUp then r.startupLock + 1 else r.startupLock } h₁ =
        r.members h ++ [Member.fresh name u act] := by
    simp only [Registry.members, List.map_append, List.map_cons, List.map_nil, proxy,
      Client.Proxy.member_create]
    exact congrArg (· ++ _) (List.map_congr_left fun e member => by rw [older e member])
  refine ⟨size ▸ Nat.lt_succ_self _, by rw [proxy]; rfl, fun F member => by rw [List.mem_singleton.mp member]; rfl, ?_,
    ⟨⟨_, present₁, seated₁⟩, link ▸ driving.roster.unlinked, rules, ?_⟩, bus ▸ driving.watches.only,
    driving.watches.unscripted.of_same waiters latches, bus ▸ driving.responders⟩
  · rw [World.roll_of_registry present₁, members]
  · intro i inside asks r₁ present'
    rw [present₁, Option.some.injEq] at present'
    rw [← present']
    exact started

/-- A name on the roll sighted again: its client's proxy changes by `g`, which keeps its name
and whether it is gone and changes its member by `f`. -/
theorem resight_driving {r : Registry} {e : RegistryEntry} {h : World} (driving : h.Driving pre R rs)
    (present : h.registry = some r) (entry : e ∈ r.entries) (g : Client.Proxy → Client.Proxy)
    (f : Member → Member) (through : ∀ p, (g p).member = f p.member) (named : ∀ p, (g p).name = p.name)
    (gone : ∀ p, (g p).gone = p.gone)
    (watches : World.Watches false []
      { h with clients := h.clients.modify e.client fun x => { x with proxy := g x.proxy } }) :
    World.Driving pre { R with members := Roll.update e.name f R.members } rs
      { h with clients := h.clients.modify e.client fun x => { x with proxy := g x.proxy } } := by
  obtain ⟨r', present', seated, watched, rfl⟩ := driving.registry
  rw [present, Option.some.injEq] at present'
  subst present'
  refine ⟨watches, driving.roster.modifyProxy e.client g named gone, ?_, driving.responders⟩
  have present' : World.registry
      { h with clients := h.clients.modify e.client fun x => { x with proxy := g x.proxy } } = some r :=
    present
  rw [World.roll_of_registry present', Registry.members_modifyProxy entry watched.names watched.clients
    (watched.inside _ (List.mem_map_of_mem entry)) seated.named g f through]

/-- A sighting by an open registry sights the name on its roll. -/
theorem register_roll (n : Nat) (name u : String) (act : Bool) :
    Triple (fun h => h.Driving pre R rs ∧ R.isOpen = true) (register n name u act)
      fun _ => World.Driving pre { R with members := Roll.sight (Roll.admits pre) name u act R.members } rs := by
  rintro h ⟨⟩ h' ⟨driving, opened⟩ run
  have watches : h'.Watches false [] :=
    (((Hub.watches false).kept n).register [] name u act
      (driving.watches.register (driving.opens opened)) run).pop rfl
  obtain ⟨r, present, seated, watched, rfl⟩ := driving.registry
  have started : r.started = true :=
    (by simpa [Roll.isOpen] using opened : r.started = true ∧ r.closed = false).1
  cases n with
  | zero => simp [register] at run
  | succ m =>
  simp only [register, bind_ok, run_registry?, present, EStateM.Result.ok.injEq, exists_returned] at run
  split at run
  · -- a name without the prefix does not count
    rename_i foreign
    have refused : Roll.admits pre name = false := by
      rw [← seated.clientPrefix]
      simp only [Roll.admits, Bool.and_eq_false_iff]
      exact .inl (by simpa using foreign)
    rw [ok_pure run, Roll.sight_of_not_admits refused]
    exact driving
  · rename_i prefixed
    split at run
    · -- nor does a name that is not a valid client name after it
      rename_i e checked
      have refused : Roll.admits pre name = false := by
        rw [← seated.clientPrefix]
        simp only [Roll.admits, checked, Except.isOk, Except.toBool, Bool.and_false]
      rw [Roll.sight_of_not_admits refused]
      exact World.Driving.of_keeping (driving.keeping.transfer (keepsView_note _ h () h' run)) watches
    · rename_i checked
      have admitted : Roll.admits pre name = true := by
        rw [← seated.clientPrefix]
        simp only [Roll.admits, checked, Except.isOk, Except.toBool, Bool.and_true]
        simpa using prefixed
      split at run
      · -- a name on the roll: its client is marked activatable, or active with the owner
        rename_i e found
        have entry : e ∈ r.entries := List.mem_of_find?_eq_some found
        have named : e.name = name := by simpa using List.find?_some found
        rw [Roll.sight_of_knows admitted (named ▸ Registry.knows_members entry seated.named), ← named]
        cases act with
        | true =>
          simp only [↓reduceIte, run_modifyProxy, EStateM.Result.ok.injEq] at run
          rw [← run.2] at watches ⊢
          exact resight_driving driving present entry (fun p => { p with activatable := true })
            (·.resight u true) (fun _ => rfl) (fun _ => rfl) (fun _ => rfl) watches
        | false =>
          simp only [Bool.false_eq_true, ↓reduceIte, run_modifyProxy, EStateM.Result.ok.injEq] at run
          rw [← run.2] at watches ⊢
          exact resight_driving driving present entry (·.setActive u) (·.resight u false)
            (fun _ => rfl) (fun _ => rfl) (fun _ => rfl) watches
      · -- a new name: a client is added for it, and starts
        rename_i unknown
        simp only [bind_ok] at run
        obtain ⟨c, h₁, enrolled, begun⟩ := run
        obtain ⟨inside, idle, keeping⟩ := enroll_driving driving present started admitted enrolled
        rw [Roll.sight_of_not_knows admitted (Registry.knows_members_of_find unknown seated.named)]
        exact World.Driving.of_keeping
          (((rolling pre _ rs).kept m).startClient [] c ⟨keeping, inside, idle⟩ begun) watches

/-- Sightings of several names by an open registry, one after another. -/
theorem registerEach_roll (n : Nat) (names : List String) (u : String) (act : Bool) :
    Triple (fun h => h.Driving pre R rs ∧ R.isOpen = true) (registerEach n names u act)
      fun _ => World.Driving pre
        { R with members := names.foldl (fun ms name => Roll.sight (Roll.admits pre) name u act ms) R.members }
        rs := by
  induction names generalizing R n with
  | nil =>
    rintro h ⟨⟩ h' ⟨driving, -⟩ run
    cases n with
    | zero => simp [registerEach] at run
    | succ m =>
      simp only [registerEach] at run
      rw [ok_pure run]
      exact driving
  | cons name rest ih =>
    rintro h ⟨⟩ h' ⟨driving, opened⟩ run
    cases n with
    | zero => simp [registerEach] at run
    | succ m =>
      simp only [registerEach, bind_ok] at run
      obtain ⟨⟨⟩, h₁, registered, more⟩ := run
      exact ih m ⟨register_roll m name u act ⟨driving, opened⟩ registered, opened⟩ more

/-! ## Changes of owner that the registry's watch hears -/

/-- The registry's own watch hears that a name changed owner: while the registry is open, a
name gaining its first owner is sighted with it, and nothing else changes. -/
theorem registryOwnerChanged_roll {n : Nat} {name old new : String} {h h' : World}
    (driving : h.Driving pre R rs) (opened : R.isOpen = true)
    (run : (registryOwnerChanged n name old new).run h = .ok () h') :
    h'.Driving pre { R with members := Roll.firstOwner (Roll.admits pre) name old new R.members } rs ∧
      ((old.isEmpty && !new.isEmpty) = false → h' = h) := by
  cases n with
  | zero => simp [registryOwnerChanged] at run
  | succ m =>
  obtain ⟨r, present, -, -, rfl⟩ := driving.registry
  have open' : r.closed = false := driving.opens opened r present
  simp only [registryOwnerChanged, bind_ok, run_registry?, EStateM.Result.ok.injEq,
    exists_returned] at run
  rw [present] at run
  simp only [open', Bool.false_eq_true, ↓reduceIte] at run
  split at run
  · rename_i first
    refine ⟨?_, fun later => by rw [first] at later; cases later⟩
    rw [Roll.firstOwner, if_pos first]
    exact register_roll m name new false ⟨driving, opened⟩ run
  · rename_i later
    have later : (old.isEmpty && !new.isEmpty) = false := by simpa using later
    rw [ok_pure run, Roll.firstOwner_of_not_first later]
    exact ⟨driving, fun _ => rfl⟩

/-- A closed registry's own watch hears nothing. -/
theorem registryOwnerChanged_of_closed {n : Nat} {name old new : String} {h h' : World} {r : Registry}
    (present : h.registry = some r) (closed : r.closed = true)
    (run : (registryOwnerChanged n name old new).run h = .ok () h') : h' = h := by
  cases n with
  | zero => simp [registryOwnerChanged] at run
  | succ m =>
  simp only [registryOwnerChanged, bind_ok, run_registry?, EStateM.Result.ok.injEq,
    exists_returned] at run
  rw [present] at run
  simp only [closed, ↓reduceIte] at run
  exact ok_pure run

/-! ## Clients gone, and changes of owner that a client's watch hears -/

/-- The entry found by name among entries with the names and clients of others has the name and
client of the one found among those. -/
theorem find?_of_pairs {es es' : List RegistryEntry}
    (pairs : es'.map (fun e => (e.name, e.client)) = es.map (fun e => (e.name, e.client))) (name : String) :
    (es'.find? (·.name == name)).map (fun e => (e.name, e.client)) =
      (es.find? (·.name == name)).map (fun e => (e.name, e.client)) := by
  have through : ∀ l : List RegistryEntry, (l.find? (·.name == name)).map (fun e => (e.name, e.client)) =
      (l.map fun e => (e.name, e.client)).find? (·.1 == name) := fun l => by
    rw [List.find?_map]
    rfl
  rw [through, through, pairs]

/-- The registry forgets the entry of a name, whose client `c` is the client of no other entry,
from a world that has the roll `R` once it forgets the name: it then has the roll `R`. -/
theorem registryForget_roll {name : String} {c : Nat} {h h' : World}
    (keeping : (h.forgetting name).Keeping pre R rs []) (unlisted : (h.forgetting name).Unlisted c)
    (found : ∃ r e, h.registry = some r ∧ r.entries.find? (·.name == name) = some e ∧ e.client = c)
    (run : (registryForget name).run h = .ok () h') : h'.Keeping pre R rs [] := by
  obtain ⟨r, e, present, found, rfl⟩ := found
  unfold registryForget at run
  simp only [bind_ok, run_registry?, EStateM.Result.ok.injEq, exists_returned] at run
  rw [present] at run
  simp only [found, bind_ok, run_modifyClient, run_modifyRegistry, EStateM.Result.ok.injEq,
    exists_returned_unit] at run
  obtain ⟨⟨⟩, h₁, disposed, rest⟩ := run
  have kept : h₁.Keeping pre R rs [] :=
    (keeping.modifyClient (fun x => { x with readyLinked := false, goneLinked := false }) (fun _ => rfl)
      unlisted).disposeClient unlisted disposed
  split at rest
  · exact kept.transfer (keepsView_releaseStartupLock h₁ () h' rest)
  · rw [ok_pure rest]
    exact kept

/-- The client of an entry goes, for some reason: it tells the registry, which forgets it, and the
roll loses the member of its name. -/
theorem invalidateClient_roll {r : Registry} {e : RegistryEntry} {h h' : World} (reason : String)
    (keeping : h.Keeping pre R rs []) (present : h.registry = some r) (entry : e ∈ r.entries)
    (names : (r.entries.map (·.name)).Nodup) (clients : (r.entries.map (·.client)).Nodup)
    (run : (invalidateClient e.client reason).run h = .ok () h') :
    h'.Keeping pre { R with members := R.members.filter (·.name != e.name) } rs [] := by
  obtain ⟨r', present', seated⟩ := keeping.roster.registry
  rw [present, Option.some.injEq] at present'
  subst present'
  -- once the name is forgotten, no entry has the client
  have unlisted : (h.forgetting e.name).Unlisted e.client := by
    intro r' forgotten listed
    simp only [World.forgetting, present, Option.map_some, Option.some.injEq] at forgotten
    subst forgotten
    obtain ⟨e', kept, same⟩ := List.mem_map.mp listed
    obtain ⟨inside, other⟩ := List.mem_filter.mp kept
    rw [List.inj_on_of_nodup_map clients inside entry same] at other
    simp at other
  have found : r.entries.find? (·.name == e.name) = some e := by
    have some : (r.entries.find? (·.name == e.name)).isSome := List.find?_isSome.mpr ⟨e, entry, by simp⟩
    obtain ⟨e', found⟩ := Option.isSome_iff_exists.mp some
    have named : e'.name = e.name := by simpa using List.find?_some found
    rw [found, List.inj_on_of_nodup_map names (List.mem_of_find?_eq_some found) entry named]
  unfold invalidateClient at run
  simp only [bind_ok, run_client, EStateM.Result.ok.injEq, exists_returned, seated.present e entry,
    Option.isSome_none, Bool.false_eq_true, ↓reduceIte, run_modifyProxy, exists_returned_unit] at run
  obtain ⟨⟨⟩, h₂, closed, rest⟩ := run
  -- the client is marked gone, and its owner closes
  have same : World.SameView
      { h with clients := h.clients.modify e.client fun x => { x with proxy := { x.proxy with gone := some reason } } }
      h₂ := sameView.stays_closeOwner _ _ () h₂ closed
  have kept : (h₂.forgetting e.name).Keeping pre { R with members := R.members.filter (·.name != e.name) } rs [] :=
    ((keeping.forget e.name).modifyClient (fun x => { x with proxy := { x.proxy with gone := some reason } })
      (fun _ => rfl) unlisted).transfer (same.forgetting e.name)
  -- it still tells the registry, which still has its entry
  have linked : (h₂.clients.getD e.client default).goneLinked = true := by
    rw [same.goneLinked, getD_modify_of_keeps _ _ _
      (fun x => { x with proxy := { x.proxy with gone := some reason } }) ClientObject.goneLinked
      fun _ => rfl]
    exact seated.linked e entry
  rw [linked, if_pos rfl, seated.named e entry] at rest
  have view := same.registry
  rw [present, Option.map_some] at view
  obtain ⟨r₂, present₂, view₂⟩ := Option.map_eq_some_iff.mp view
  have found₂ := find?_of_pairs (Registry.rollView_eq view₂).2.2.2 e.name
  rw [found, Option.map_some] at found₂
  obtain ⟨e₂, found₂, paired⟩ := Option.map_eq_some_iff.mp found₂
  simp only [Prod.mk.injEq] at paired
  exact registryForget_roll kept ((same.forgetting e.name).unlisted unlisted) ⟨r₂, e₂, present₂, found₂, paired.2⟩ rest

/-- A client hears that a name changed owner. Unless the name is its own nothing changes;
otherwise the roll changes owner: the member follows a new owner or, losing its owner, stays
without one if its name can be activated, and leaves the roll if not. -/
theorem clientOwnerChanged_roll {c id : Nat} {name new : String} {h h' : World}
    (driving : h.Driving pre R rs) (watching : h.bus.Watching id (.client c))
    (run : (clientOwnerChanged c name new).run h = .ok () h') :
    (name ≠ (h.clients.getD c default).proxy.name ∧ h' = h) ∨
      (name = (h.clients.getD c default).proxy.name ∧
        h'.Driving pre { R with members := Roll.changeOwner name new R.members } rs) := by
  have watches : h'.Watches false [] := watches_clientOwnerChanged rfl c name new driving.watches run
  obtain ⟨r, present, seated, watched, rfl⟩ := driving.registry
  obtain ⟨e, entry, rfl⟩ := List.mem_map.mp (watched.entriesOnly id c watching).1
  unfold clientOwnerChanged at run
  simp only [bind_ok, run_client, EStateM.Result.ok.injEq, exists_returned] at run
  split at run
  · rename_i other
    exact .inl ⟨by simpa using other, ok_pure run⟩
  · rename_i own
    have named : name = e.name := (by simpa using own : name = _).trans (seated.named e entry)
    refine .inr ⟨by simpa using own, ?_⟩
    rw [named]
    split at run
    · -- the member follows its new owner
      rename_i owned
      simp only [bind_ok, run_modifyProxy, run_pure, EStateM.Result.ok.injEq, exists_returned_unit] at run
      rw [← run.2] at watches ⊢
      rw [Roll.changeOwner_of_owned (by simpa using owned)]
      exact resight_driving driving present entry (·.setActive new) (·.activate new) (fun _ => rfl)
        (fun _ => rfl) (fun _ => rfl) watches
    · rename_i unowned
      have unowned : new.isEmpty = true := by simpa using unowned
      obtain ⟨⟨⟩, h₁, cleared, rest⟩ := bind_ok.mp run
      have watches₁ : h₁.Watches false [] :=
        World.Watches.keeps (stays_modifyProxy _ _) driving.watches cleared
      simp only [run_modifyProxy, EStateM.Result.ok.injEq] at cleared
      obtain ⟨-, rfl⟩ := cleared
      have driving₁ := resight_driving driving present entry
        (fun p => { p with active := false, uniqueName := "" }) Member.deactivate (fun _ => rfl)
        (fun _ => rfl) (fun _ => rfl) watches₁
      -- the member of the name is the client's, which tells whether it can be activated
      have own : ∀ m ∈ r.members h, m.name = e.name →
          m.activatable = (h.clients.getD e.client default).proxy.activatable := fun m member same => by
        rw [Registry.member_named entry watched.names seated.named m member same]
        rfl
      split at rest
      · -- a name that can be activated stays, without an owner
        rename_i activatable
        rw [ok_pure rest, Roll.changeOwner_of_kept unowned fun m member same =>
          (own m member same).trans activatable]
        exact driving₁
      · -- the others leave with their client
        rename_i fixed
        have lost := invalidateClient_roll _ driving₁.keeping present entry watched.names watched.clients rest
        rw [Roll.changeOwner_of_lost unowned fun m member same =>
          (own m member same).trans (by simpa using fixed)]
        rw [Roll.filter_update _ Member.deactivate_name] at lost
        exact World.Driving.of_keeping lost watches

/-! ## Closing -/

/-- Two worlds with the same registry and the same calls and responders on the bus, where the
second has no transport if the first has none: what closing the registry leaves alone. -/
structure World.SameCalls (h h' : World) : Prop where
  registry : h'.registry = h.registry
  responders : h'.bus.responders = h.bus.responders
  calls : h'.bus.calls = h.bus.calls
  unlinked : h.link = none → h'.link = none

theorem World.SameCalls.of_same {h h' : World} (registry : h'.registry = h.registry) (bus : h'.bus = h.bus)
    (link : h'.link = h.link) : h.SameCalls h' :=
  ⟨registry, by rw [bus], by rw [bus], fun unlinked => link.trans unlinked⟩

theorem sameCalls : Footprint World.SameCalls where
  refl _ := .of_same rfl rfl rfl
  trans first second := ⟨second.registry.trans first.registry, second.responders.trans first.responders,
    second.calls.trans first.calls, second.unlinked ∘ first.unlinked⟩
  waiter _ _ _ _ := .of_same rfl rfl rfl
  owners _ _ := .of_same rfl rfl rfl
  fetches _ _ := .of_same rfl rfl rfl
  latch _ _ _ _ := .of_same rfl rfl rfl
  waiterLabels _ _ := .of_same rfl rfl rfl
  note _ _ _ := .of_same rfl rfl rfl
  status _ s _ := by cases s <;> exact .of_same rfl rfl rfl
  daemon _ _ := .of_same rfl rfl rfl
  post _ _ := ⟨rfl, rfl, rfl, fun unlinked => by simp [unlinked]⟩

theorem sameCalls_modifyClient (c : Nat) (g : ClientObject → ClientObject) :
    Stays World.SameCalls (modifyClient c g) :=
  Stays.of_modify fun _ => .of_same rfl rfl rfl

theorem sameCalls_unsubscribe (id : Nat) : Stays World.SameCalls (unsubscribe id) := by
  intro h u h' run
  rcases unsubscribe_world run with rfl | ⟨-, d, rfl⟩
  · exact sameCalls.refl _
  · exact ⟨rfl, rfl, rfl, fun unlinked => unlinked⟩

theorem sameCalls_disposeClient (c : Nat) : Stays World.SameCalls (disposeClient c) := by
  intro h u h' run
  have tail : Stays World.SameCalls (do
      closeOwner (h.clients.getD c default).owner
      disposeFetches (.client c)
      modifyClient c fun x => { x with readyLinked := false, goneLinked := false } : HubM Unit) :=
    sameCalls.bind (sameCalls.stays_closeOwner _) fun _ =>
      sameCalls.bind (sameCalls.stays_disposeFetches _) fun _ => sameCalls_modifyClient c _
  unfold disposeClient at run
  simp only [bind_ok, run_client, EStateM.Result.ok.injEq, exists_returned] at run
  split at run
  · obtain ⟨⟨⟩, h₁, unsubscribed, rest⟩ := bind_ok.mp run
    obtain ⟨⟨⟩, h₂, unset, rest⟩ := bind_ok.mp rest
    exact sameCalls.trans (sameCalls.trans (sameCalls_unsubscribe _ _ () h₁ unsubscribed)
      (sameCalls_modifyClient c _ _ () h₂ unset)) (tail _ () h' rest)
  · exact tail _ () h' run

/-- Closing the registry empties its roll for good. -/
theorem closeRegistry_roll {h h' : World} (driving : h.Driving pre R rs)
    (run : closeRegistry.run h = .ok () h') :
    h'.Driving pre { R with closed := true, members := [] } rs := by
  have watches : h'.Watches false [] := watches_closeRegistry driving.watches run
  obtain ⟨r, present, seated, watched, rfl⟩ := driving.registry
  unfold closeRegistry at run
  simp only [bind_ok, run_registry?, present, EStateM.Result.ok.injEq, exists_returned] at run
  split at run
  · -- a closed registry has no members left
    rename_i closed
    rw [ok_pure run]
    have empty : r.members h = [] := by simp [Registry.members, watched.closed closed]
    rw [show ({ started := r.started, closed := true } : Roll) =
      { started := r.started, closed := r.closed, members := r.members h } by rw [closed, empty]]
    exact driving
  · obtain ⟨⟨⟩, h₁, marked, run⟩ := bind_ok.mp run
    simp only [run_modifyRegistry, EStateM.Result.ok.injEq] at marked
    obtain ⟨-, rfl⟩ := marked
    -- disposing of the clients leaves the registry, marked closed, and the calls
    have finish : ∀ h₂ : World, World.SameCalls
        { h with registry := h.registry.map fun x => { x with closed := true, nameWatch := none } } h₂ →
        (do
          forIn r.entries PUnit.unit fun e _ => do
            modifyClient e.client fun x => { x with readyLinked := false, goneLinked := false }
            disposeClient e.client
            pure (ForInStep.yield PUnit.unit)
          modifyRegistry fun x => { x with entries := [], listening := false } : HubM Unit).run h₂ =
          .ok () h' →
        h'.Driving pre { started := r.started, closed := true } rs := by
      intro h₂ ended rest
      obtain ⟨⟨⟩, h₃, looped, cleared⟩ := bind_ok.mp rest
      have same := sameCalls.trans ended (sameCalls.forIn (fun e => sameCalls.bind
        (sameCalls_modifyClient _ _) fun _ => sameCalls.bind (sameCalls_disposeClient _) fun _ =>
          sameCalls.pure _) _ () h₃ looped)
      simp only [run_modifyRegistry, EStateM.Result.ok.injEq] at cleared
      obtain ⟨-, rfl⟩ := cleared
      have present' : World.registry { h₃ with registry := h₃.registry.map fun x =>
          { x with entries := [], listening := false } } =
          some { r with closed := true, nameWatch := none, entries := [], listening := false } := by
        simp [same.registry, present]
      obtain ⟨r'', present'', watched'⟩ := watches.registry
      rw [present', Option.some.injEq] at present''
      subst present''
      -- nothing is watched any more
      have unwatched : ∀ id l, ¬ h₃.bus.Watching id l := by
        intro id l watching
        rcases Listener.watchesNames_eq_true (watches.only.watching watching) with rfl | ⟨c, rfl⟩
        · cases watched'.ownOnly id watching
        · exact List.not_mem_nil (watched'.entriesOnly id c watching).1
      refine ⟨watches, ⟨⟨_, present', seated.clientPrefix, fun _ => rfl,
        fun e member => absurd member List.not_mem_nil, fun e member => absurd member List.not_mem_nil,
        fun e member => absurd member List.not_mem_nil, fun e member => absurd member List.not_mem_nil⟩,
        same.unlinked driving.roster.unlinked, fun id l watching => absurd watching (unwatched id l),
        fun i inside asks r₁ present₁ => ?_⟩, ?_, same.responders.trans driving.responders⟩
      · rw [present', Option.some.injEq] at present₁
        subst present₁
        exact driving.roster.asked i (same.calls ▸ inside) (same.calls ▸ asks) r present
      · rw [World.roll_of_registry present']
        rfl
    split at run
    · obtain ⟨⟨⟩, h₂, ended, rest⟩ := bind_ok.mp run
      exact finish h₂ (sameCalls_unsubscribe _ _ () h₂ ended) rest
    · exact finish _ (sameCalls.refl _) run

end MissionControl.Hub
