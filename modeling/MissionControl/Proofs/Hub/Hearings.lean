import MissionControl.Proofs.Hub.Listings

/-!
# The roll follows what the registry hears

A session drives its registry from outside: it starts and closes it, answers its calls, gives the
bus responders and signals changes of owner. Each such step makes the registry hear something
(`stepHearings`): its start, the listings its calls are answered with (on the spot, when a
responder is set), the changes of owner signalled, and its close.

A signal reaches the watches that select it when it is emitted, one after another. The
registry's watch of every name sights a name gaining its first owner, and the watch of a client's
own name follows its owner. The two may hear the signal in either order, and the roll ends up the
same: each change, done first, leaves the other with nothing more to do
(`Roll.changeOwner_firstOwner`, `Roll.firstOwner_of_knows`).

Main statement: in every session of a registry, over every run of steps that drive it, the
registry's clients in order, each as its proxy knows it, are the roll that the abstract machine
reaches on what the registry heard (`membership_refines_roll`).
-/

set_option autoImplicit false

namespace MissionControl.Bus

/-- A signal goes to the live subscriptions whose rules select it. -/
theorem Scripted.mem_selecting {b : Scripted Hub.Route Hub.Listener} {sig : Signal} {id : Nat} :
    id ∈ b.selecting sig ↔
      b.isLive id = true ∧ (b.subscriptions.getD (id - 1) default).rule.selects sig = true := by
  unfold Scripted.selecting
  simp only [List.mem_map, List.mem_filter, Bool.and_eq_true, Prod.exists,
    List.mk_mem_zipIdx_iff_le_and_getElem?_sub, exists_eq_right, Array.getElem?_toList]
  unfold Scripted.isLive
  cases found : b.subscriptions[id - 1]? with
  | none => simp
  | some s =>
    have entry : b.subscriptions.getD (id - 1) default = s := by
      simp [Array.getD_eq_getD_getElem?, found]
    simp [entry, Nat.one_le_iff_ne_zero, and_assoc]

theorem splitName_ownership :
    Signal.splitName (daemonInterface ++ "." ++ nameOwnerChanged) = (daemonInterface, nameOwnerChanged) := by
  decide

theorem ownershipChange?_eq_some {sig : Signal} {name old new : String}
    (change : ownershipChange? sig = some (name, old, new)) :
    sig.body = [.str name, .str old, .str new] := by
  unfold ownershipChange? at change
  split at change
  · cases change
    assumption
  · cases change

/-- The watch of one name selects only what the watch of every name selects. -/
theorem selects_of_ownershipRule {name : String} {sig : Signal}
    (selects : (ownershipRule name).selects sig = true) : (ownershipRule "").selects sig = true := by
  simp_all [MatchRule.selects, ownershipRule]

/-- The watch of a name selects the changes of owner of that name that the watch of every name
selects. -/
theorem ownershipRule_selects {sig : Signal} {name old new : String}
    (change : ownershipChange? sig = some (name, old, new))
    (selects : (ownershipRule "").selects sig = true) : (ownershipRule name).selects sig = true := by
  have body := ownershipChange?_eq_some change
  simp_all [MatchRule.selects, ownershipRule]

theorem ownershipSignal_selected (name old new : String) :
    (ownershipRule "").selects (ownershipSignal name old new) = true := by
  simp [MatchRule.selects, ownershipRule, ownershipSignal, splitName_ownership]

end MissionControl.Bus

namespace MissionControl.Hub

/-- What a signal is heard as: a change of owner, when it is one that the watch of every name
selects. -/
def signalHearings (sig : Signal) : List Hearing :=
  match Bus.ownershipChange? sig with
  | some (name, old, new) => if (Bus.ownershipRule "").selects sig then [.ownerChanged name old new] else []
  | none => []

theorem signalHearings_ownershipSignal (name old new : String) :
    signalHearings (Bus.ownershipSignal name old new) = [.ownerChanged name old new] := by
  have change : Bus.ownershipChange? (Bus.ownershipSignal name old new) = some (name, old, new) := rfl
  simp [signalHearings, change, Bus.ownershipSignal_selected]

/-! ## The watches of a driven registry -/

namespace World.Driving

variable {pre : String} {R : Roll} {rs : List (String × Bus.Responder)} {h : World}

/-- A client whose name is watched is on the roll, which is open. -/
theorem client_watched {id c : Nat} (driving : h.Driving pre R rs)
    (watching : h.bus.Watching id (.client c)) :
    R.isOpen = true ∧ Roll.knows R.members (h.clients.getD c default).proxy.name = true := by
  obtain ⟨r, present, seated, watched, rfl⟩ := driving.registry
  obtain ⟨e, entry, rfl⟩ := List.mem_map.mp (watched.entriesOnly id c watching).1
  have started : r.started = true := by
    cases begun : r.started
    · simp [seated.unstarted begun] at entry
    · rfl
  have unclosed : r.closed = false := by
    cases shut : r.closed
    · rfl
    · simp [watched.closed shut] at entry
  refine ⟨Roll.isOpen_iff.mpr ⟨started, unclosed⟩, ?_⟩
  rw [seated.named e entry]
  exact Registry.knows_members entry seated.named

/-- The registry's watch of every name is live only once it has started. -/
theorem started_of_watched {id : Nat} (driving : h.Driving pre R rs)
    (watching : h.bus.Watching id .registry) : R.started = true := by
  obtain ⟨r, present, seated, watched, rfl⟩ := driving.registry
  cases begun : r.started
  · have own := watched.ownOnly id watching
    rw [watched.unstarted begun] at own
    cases own
  · rfl

/-- An open registry watches every name. -/
theorem registry_watched (driving : h.Driving pre R rs) (opened : R.isOpen = true) :
    ∃ id, h.bus.Watching id .registry := by
  obtain ⟨r, present, seated, watched, rfl⟩ := driving.registry
  obtain ⟨started, unclosed⟩ := Roll.isOpen_iff.mp opened
  obtain ⟨id, own⟩ := Option.isSome_iff_exists.mp (watched.watching started unclosed)
  exact ⟨id, watched.own id own⟩

/-- The name of every member of the roll is watched for its client. -/
theorem known_watched {name : String} (driving : h.Driving pre R rs)
    (known : Roll.knows R.members name = true) :
    ∃ id c, h.bus.Watching id (.client c) ∧ (h.clients.getD c default).proxy.name = name := by
  obtain ⟨r, present, seated, watched, rfl⟩ := driving.registry
  obtain ⟨m, member, rfl⟩ := List.mem_map.mp (Roll.knows_iff.mp known)
  obtain ⟨e, entry, rfl⟩ := List.mem_map.mp member
  have seat : e.client ∈ r.entries.map (·.client) := List.mem_map.mpr ⟨e, entry, rfl⟩
  obtain ⟨id, watch⟩ := Option.isSome_iff_exists.mp (watched.started e.client seat List.not_mem_nil)
  exact ⟨id, e.client, watched.entries e.client seat id watch, rfl⟩

/-- A name on the roll counts. -/
theorem admitted {name : String} (driving : h.Driving pre R rs)
    (known : Roll.knows R.members name = true) : Roll.admits pre name = true := by
  obtain ⟨r, present, seated, watched, rfl⟩ := driving.registry
  obtain ⟨m, member, rfl⟩ := List.mem_map.mp (Roll.knows_iff.mp known)
  obtain ⟨e, entry, rfl⟩ := List.mem_map.mp member
  rw [show (h.clients.getD e.client default).proxy.member.name = e.name from seated.named e entry]
  exact seated.admitted e entry

/-- A watch selects a signal as its listener's rule does. -/
theorem selected {id : Nat} {l : Listener} {sig : Signal} (driving : h.Driving pre R rs)
    (watching : h.bus.Watching id l) (selects : (h.ruleFor l).selects sig = true) :
    id ∈ h.bus.selecting sig :=
  Bus.Scripted.mem_selecting.mpr ⟨watching.1, by rw [driving.roster.rules id l watching]; exact selects⟩

/-- A signal that reaches a watch is selected by its listener's rule. -/
theorem selects {id : Nat} {l : Listener} {sig : Signal} (driving : h.Driving pre R rs)
    (watching : h.bus.Watching id l) (reached : id ∈ h.bus.selecting sig) :
    (h.ruleFor l).selects sig = true := by
  rw [← driving.roster.rules id l watching]
  exact (Bus.Scripted.mem_selecting.mp reached).2

/-- A responder set on the bus changes nothing the roll reads. -/
theorem respond (driving : h.Driving pre R rs) (dest method : String) (resp : Bus.Responder) :
    World.Driving pre R (h.bus.respond dest method resp).responders
      { h with bus := h.bus.respond dest method resp } := by
  obtain ⟨r, present, seated⟩ := driving.roster.registry
  exact ⟨driving.watches.transfer (.of_same rfl rfl rfl rfl rfl),
    ⟨⟨r, present, seated.of_clients rfl⟩, driving.roster.unlinked, driving.roster.rules,
      driving.roster.asked⟩, driving.roll, rfl⟩

end World.Driving

/-- A watch still to hear a signal is among the rest once the one before it is another. -/
theorem mem_of_watching {b : Bus.Scripted Route Listener} {x id : Nat} {rest : List Nat} {l : Listener}
    (watching : b.Watching x l) (member : x ∈ id :: rest) (apart : ¬ b.Watching id l) : x ∈ rest := by
  rcases List.mem_cons.mp member with same | later
  · subst same
    exact absurd watching apart
  · exact later

theorem not_watching_of_dead {b : Bus.Scripted Route Listener} {id : Nat} {l : Listener}
    (dead : b.isLive id = false) : ¬ b.Watching id l := fun watching => by
  rw [watching.1] at dead
  cases dead

/-- One subscription has one listener. -/
theorem not_watching_of_listener {b : Bus.Scripted Route Listener} {id : Nat} {l l' : Listener}
    (watching : b.Watching id l) (other : l ≠ l') : ¬ b.Watching id l' := fun watching' =>
  other (watching.2.symm.trans watching'.2)

/-! ## A signal delivered -/

/-- A signal delivered, one watch after another, to the subscriptions chosen when it was
emitted, on a bus where only names are watched: what holds of the ids still to hear it holds once
all have, if it survives a watch no longer live, a signal that is no change of owner, and each
watch hearing the change. -/
theorem deliverEach_along {sig : Signal} (P : List Nat → World → Prop)
    (only : ∀ ids h, P ids h → NamesOnly h.bus)
    (passed : ∀ id rest h, P (id :: rest) h → h.bus.isLive id = false → P rest h)
    (unchanged : ∀ id rest h, P (id :: rest) h → Bus.ownershipChange? sig = none → P rest h)
    (registry : ∀ m id rest name old new h h', P (id :: rest) h → h.bus.Watching id .registry →
      Bus.ownershipChange? sig = some (name, old, new) →
      (registryOwnerChanged m name old new).run h = .ok () h' → P rest h')
    (client : ∀ id rest c name old new h h', P (id :: rest) h → h.bus.Watching id (.client c) →
      Bus.ownershipChange? sig = some (name, old, new) →
      (clientOwnerChanged c name new).run h = .ok () h' → P rest h') :
    ∀ n ids, Triple (P ids) (deliverEach n ids sig) fun _ => P [] := by
  intro n ids
  induction ids generalizing n with
  | nil =>
    intro h u h' holds run
    cases n with
    | zero => simp [deliverEach] at run
    | succ m =>
      simp only [deliverEach] at run
      rw [ok_pure run]
      exact holds
  | cons id rest ih =>
    intro h u h' holds run
    cases n with
    | zero => simp [deliverEach] at run
    | succ m =>
    simp only [deliverEach, bind_ok, run_get, EStateM.Result.ok.injEq, exists_returned] at run
    split at run
    · rename_i live
      -- a live subscription watches names: it is the registry's or a client's
      have names := only _ h holds (id - 1) (h.bus.isLive_inside live).2
      split at run
      · rename_i heard
        split at run
        · rename_i name old new change
          obtain ⟨⟨⟩, h₁, changed, more⟩ := bind_ok.mp run
          exact ih m (registry m id rest name old new h h₁ holds ⟨live, heard⟩ change changed) more
        · rename_i other
          exact ih m (unchanged id rest h holds other) run
      · rename_i c heard
        split at run
        · rename_i name old new change
          obtain ⟨⟨⟩, h₁, changed, more⟩ := bind_ok.mp run
          exact ih m (client id rest c name old new h h₁ holds ⟨live, heard⟩ change changed) more
        · rename_i other
          exact ih m (unchanged id rest h holds other) run
      all_goals
        rename_i heard
        rw [heard] at names
        simp [Listener.watchesNames] at names
    · rename_i dead
      exact ih m (passed id rest h holds (Bool.eq_false_iff.mpr dead)) run

/-- A change of owner delivered: each watch hears that change. -/
theorem deliverEach_change {sig : Signal} {name old new : String}
    (change : Bus.ownershipChange? sig = some (name, old, new)) (P : List Nat → World → Prop)
    (only : ∀ ids h, P ids h → NamesOnly h.bus)
    (passed : ∀ id rest h, P (id :: rest) h → h.bus.isLive id = false → P rest h)
    (registry : ∀ m id rest h h', P (id :: rest) h → h.bus.Watching id .registry →
      (registryOwnerChanged m name old new).run h = .ok () h' → P rest h')
    (client : ∀ id rest c h h', P (id :: rest) h → h.bus.Watching id (.client c) →
      (clientOwnerChanged c name new).run h = .ok () h' → P rest h') :
    ∀ n ids, Triple (P ids) (deliverEach n ids sig) fun _ => P [] := by
  refine deliverEach_along P only passed (fun _ _ _ _ other => ?_) ?_ ?_
  · rw [change] at other
    cases other
  · intro m id rest name' old' new' h h' holds watching change' changed
    obtain ⟨rfl, rfl, rfl⟩ : name = name' ∧ old = old' ∧ new = new' := by simpa [change] using change'
    exact registry m id rest h h' holds watching changed
  · intro id rest c name' old' new' h h' holds watching change' changed
    obtain ⟨rfl, rfl, rfl⟩ : name = name' ∧ old = old' ∧ new = new' := by simpa [change] using change'
    exact client id rest c h h' holds watching changed

section Delivered

variable {pre : String} {R : Roll} {rs : List (String × Bus.Responder)}

/-- A signal that no watch of names hears as a change of owner changes nothing. -/
theorem deliverEach_quiet {n : Nat} {sig : Signal} {h h' : World} (driving : h.Driving pre R rs)
    (quiet : ∀ name old new, Bus.ownershipChange? sig = some (name, old, new) →
      (Bus.ownershipRule "").selects sig = false)
    (run : (deliverEach n (h.bus.selecting sig) sig).run h = .ok () h') : h' = h := by
  -- the world stays as it was, and every id still to hear the signal was chosen for it
  have later : ∀ (id : Nat) (rest : List Nat) (h₁ : World),
      h₁ = h ∧ (∀ x ∈ id :: rest, x ∈ h.bus.selecting sig) →
      h₁ = h ∧ ∀ x ∈ rest, x ∈ h.bus.selecting sig := fun id _ _ holds =>
    ⟨holds.1, fun x member => holds.2 x (List.mem_cons_of_mem id member)⟩
  have only : ∀ (ids : List Nat) (h₁ : World), h₁ = h ∧ (∀ x ∈ ids, x ∈ h.bus.selecting sig) →
      NamesOnly h₁.bus := by
    rintro ids h₁ ⟨rfl, -⟩
    exact driving.watches.only
  have registry : ∀ (m id : Nat) (rest : List Nat) (name old new : String) (h₁ h₂ : World),
      h₁ = h ∧ (∀ x ∈ id :: rest, x ∈ h.bus.selecting sig) → h₁.bus.Watching id .registry →
      Bus.ownershipChange? sig = some (name, old, new) →
      (registryOwnerChanged m name old new).run h₁ = .ok () h₂ →
      h₂ = h ∧ ∀ x ∈ rest, x ∈ h.bus.selecting sig := by
    rintro m id rest name old new h₁ h₂ ⟨rfl, chosen⟩ watching change -
    have selects := driving.selects watching (chosen id List.mem_cons_self)
    simp [World.ruleFor, quiet name old new change] at selects
  have client : ∀ (id : Nat) (rest : List Nat) (c : Nat) (name old new : String) (h₁ h₂ : World),
      h₁ = h ∧ (∀ x ∈ id :: rest, x ∈ h.bus.selecting sig) → h₁.bus.Watching id (.client c) →
      Bus.ownershipChange? sig = some (name, old, new) →
      (clientOwnerChanged c name new).run h₁ = .ok () h₂ →
      h₂ = h ∧ ∀ x ∈ rest, x ∈ h.bus.selecting sig := by
    rintro id rest c name old new h₁ h₂ ⟨rfl, chosen⟩ watching change -
    have selects := driving.selects watching (chosen id List.mem_cons_self)
    simp only [World.ruleFor] at selects
    -- the watch of the client's name selects only what the quiet watch of every name selects
    have heard := Bus.selects_of_ownershipRule selects
    rw [quiet name old new change] at heard
    cases heard
  exact (deliverEach_along _ only (fun id rest h₁ holds _ => later id rest h₁ holds)
    (fun id rest h₁ holds _ => later id rest h₁ holds) registry client n _ ⟨rfl, fun _ chosen => chosen⟩
    run).1

/-- A registry that is not open hears nothing of a signal. -/
theorem deliverEach_shut {n : Nat} {ids : List Nat} {sig : Signal} {h h' : World}
    (driving : h.Driving pre R rs) (shut : R.isOpen = false)
    (run : (deliverEach n ids sig).run h = .ok () h') : h' = h := by
  refine deliverEach_along (fun _ h₁ => h₁ = h) (fun _ _ same => same ▸ driving.watches.only)
    (fun _ _ _ same _ => same) (fun _ _ _ same _ => same) ?_ ?_ n ids rfl run
  · intro m i rest name old new h₁ h₂ same watching _ changed
    subst same
    -- the registry's watch is live once it started, so the registry has closed
    have started := driving.started_of_watched watching
    obtain ⟨r, present, -, -, rfl⟩ := driving.registry
    have closed : r.closed = true := by simp_all [Roll.isOpen]
    exact registryOwnerChanged_of_closed present closed changed
  · intro i rest c name old new h₁ h₂ same watching _ _
    subst same
    have opened := (driving.client_watched watching).1
    rw [shut] at opened
    cases opened

/-- A name gaining its first owner, on an open roll: the registry's watch sights it, and the
watch of its client, if it has one, marks it active with that owner, which comes to the same. -/
theorem deliverEach_firstOwner {n : Nat} {sig : Signal} {name old new : String} {h h' : World}
    (driving : h.Driving pre R rs) (opened : R.isOpen = true)
    (first : (old.isEmpty && !new.isEmpty) = true) (change : Bus.ownershipChange? sig = some (name, old, new))
    (selected : (Bus.ownershipRule "").selects sig = true)
    (run : (deliverEach n (h.bus.selecting sig) sig).run h = .ok () h') :
    h'.Driving pre { R with members := Roll.firstOwner (Roll.admits pre) name old new R.members } rs := by
  have counted : Roll.knows R.members name = true → Roll.admits pre name = true := driving.admitted
  -- the roll has taken the sighting, or not yet, and then the registry's watch is still to hear it
  refine (deliverEach_change change (fun ids h₁ =>
      h₁.Driving pre { R with members := Roll.firstOwner (Roll.admits pre) name old new R.members } rs ∨
        h₁.Driving pre R rs ∧ ∃ id ∈ ids, h₁.bus.Watching id .registry)
    (fun _ _ holds => holds.elim (·.watches.only) (·.1.watches.only)) ?_ ?_ ?_ n _ ?_ run).elim id ?_
  · intro i rest h₁ holds dead
    refine holds.imp id fun ⟨driving₁, x, member, watching⟩ => ⟨driving₁, x, ?_, watching⟩
    exact mem_of_watching watching member (not_watching_of_dead dead)
  · intro m i rest h₁ h₂ holds watching changed
    rcases holds with sighted | ⟨driving₁, -⟩
    · have moved : h₂.Driving pre { R with members := (Roll.firstOwner (Roll.admits pre) name old new
          (Roll.firstOwner (Roll.admits pre) name old new R.members)) } rs :=
        (registryOwnerChanged_roll sighted opened changed).1
      rw [Roll.firstOwner_firstOwner first] at moved
      exact .inl moved
    · exact .inl (registryOwnerChanged_roll driving₁ opened changed).1
  · intro i rest c h₁ h₂ holds watching changed
    rcases holds with sighted | ⟨driving₁, x, member, own⟩
    · rcases clientOwnerChanged_roll sighted watching changed with ⟨-, rfl⟩ | ⟨-, moved⟩
      · exact .inl sighted
      · have moved : h₂.Driving pre { R with members := (Roll.changeOwner name new
            (Roll.firstOwner (Roll.admits pre) name old new R.members)) } rs := moved
        rw [Roll.changeOwner_firstOwner first counted] at moved
        exact .inl moved
    · rcases clientOwnerChanged_roll driving₁ watching changed with ⟨-, rfl⟩ | ⟨named, moved⟩
      · exact .inr ⟨driving₁, x, mem_of_watching own member
          (not_watching_of_listener watching (by simp)), own⟩
      · -- a client on the roll that gains its first owner is sighted with it
        have known := (driving₁.client_watched watching).2
        rw [← named] at known
        rw [← Roll.firstOwner_of_knows first (counted known) known] at moved
        exact .inl moved
  · obtain ⟨id, watching⟩ := driving.registry_watched opened
    exact .inr ⟨driving, id, driving.selected watching selected, watching⟩
  · intro ⟨_, x, member, _⟩
    cases member

/-- A name passing to a new owner, or losing its owner, on an open roll: only the watch of its
client, if it has one, hears it, and follows the owner. -/
theorem deliverEach_laterOwner {n : Nat} {sig : Signal} {name old new : String} {h h' : World}
    (driving : h.Driving pre R rs) (opened : R.isOpen = true)
    (later : (old.isEmpty && !new.isEmpty) = false) (change : Bus.ownershipChange? sig = some (name, old, new))
    (selected : (Bus.ownershipRule "").selects sig = true)
    (run : (deliverEach n (h.bus.selecting sig) sig).run h = .ok () h') :
    h'.Driving pre { R with members := Roll.changeOwner name new R.members } rs := by
  -- the client's watch has followed the owner, or not yet, and then it is still to hear it
  refine (deliverEach_change change (fun ids h₁ =>
      h₁.Driving pre { R with members := Roll.changeOwner name new R.members } rs ∨
        h₁.Driving pre R rs ∧ (Roll.knows R.members name = true →
          ∃ id ∈ ids, ∃ c, h₁.bus.Watching id (.client c) ∧ (h₁.clients.getD c default).proxy.name = name))
    (fun _ _ holds => holds.elim (·.watches.only) (·.1.watches.only)) ?_ ?_ ?_ n _ ?_ run).elim id ?_
  · intro i rest h₁ holds dead
    refine holds.imp id fun ⟨driving₁, tracked⟩ => ⟨driving₁, fun known => ?_⟩
    obtain ⟨x, member, c, watching, named⟩ := tracked known
    exact ⟨x, mem_of_watching watching member (not_watching_of_dead dead), c, watching, named⟩
  · intro m i rest h₁ h₂ holds watching changed
    rcases holds with followed | ⟨driving₁, tracked⟩
    · rw [(registryOwnerChanged_roll followed opened changed).2 later]
      exact .inl followed
    · rw [(registryOwnerChanged_roll driving₁ opened changed).2 later]
      refine .inr ⟨driving₁, fun known => ?_⟩
      obtain ⟨x, member, c, own, named⟩ := tracked known
      exact ⟨x, mem_of_watching own member (not_watching_of_listener watching (by simp)), c, own, named⟩
  · intro i rest c h₁ h₂ holds watching changed
    rcases holds with followed | ⟨driving₁, tracked⟩
    · rcases clientOwnerChanged_roll followed watching changed with ⟨-, rfl⟩ | ⟨-, moved⟩
      · exact .inl followed
      · have moved : h₂.Driving pre { R with members := (Roll.changeOwner name new
            (Roll.changeOwner name new R.members)) } rs := moved
        rw [Roll.changeOwner_changeOwner] at moved
        exact .inl moved
    · rcases clientOwnerChanged_roll driving₁ watching changed with ⟨other, rfl⟩ | ⟨-, moved⟩
      · refine .inr ⟨driving₁, fun known => ?_⟩
        obtain ⟨x, member, c', own, named⟩ := tracked known
        -- the watch that heard is another client's: the tracked one is still to hear it
        have distinct : c ≠ c' := fun same => by
          subst same
          exact other named.symm
        exact ⟨x, mem_of_watching own member (not_watching_of_listener watching (by simpa using distinct)),
          c', own, named⟩
      · exact .inl moved
  · refine .inr ⟨driving, fun known => ?_⟩
    obtain ⟨id, c, watching, named⟩ := driving.known_watched known
    have selects : (h.ruleFor (.client c)).selects sig = true := by
      show (Bus.ownershipRule (h.clients.getD c default).proxy.name).selects sig = true
      rw [named]
      exact Bus.ownershipRule_selects change selected
    exact ⟨id, driving.selected watching selects, c, watching, named⟩
  · intro ⟨driving', tracked⟩
    cases known : Roll.knows R.members name
    · rw [Roll.changeOwner_of_not_knows known]
      exact driving'
    · obtain ⟨x, member, -⟩ := tracked known
      cases member

end Delivered

/-! ## A signal emitted -/

section Emitted

variable {pre : String} {R : Roll} {rs : List (String × Bus.Responder)}

/-- **A signal emitted** moves the roll as hearing it does. -/
theorem emit_roll {n : Nat} {sig : Signal} {h h' : World} (driving : h.Driving pre R rs)
    (run : (emit n sig).run h = .ok () h') :
    h'.Driving pre (Roll.run (Roll.admits pre) R (signalHearings sig)) rs := by
  cases n with
  | zero => simp [emit] at run
  | succ m =>
  simp only [emit, bind_ok, run_get, EStateM.Result.ok.injEq, exists_returned] at run
  unfold signalHearings
  split
  · rename_i name old new change
    split
    · rename_i selected
      show h'.Driving pre (Roll.step (Roll.admits pre) R (.ownerChanged name old new)) rs
      cases opened : R.isOpen
      · rw [Roll.step_ownerChanged_of_shut _ opened, deliverEach_shut driving opened run]
        exact driving
      · rw [Roll.step_ownerChanged_of_open _ opened]
        -- a first owner is a sighting; any other change only the client's watch follows
        cases first : (old.isEmpty && !new.isEmpty)
        · rw [Roll.firstOwner_of_not_first first]
          exact deliverEach_laterOwner driving opened first change selected run
        · rw [Roll.changeOwner_firstOwner first driving.admitted]
          exact deliverEach_firstOwner driving opened first change selected run
    · rename_i unselected
      rw [deliverEach_quiet driving (fun _ _ _ _ => Bool.eq_false_iff.mpr unselected) run]
      exact driving
  · rename_i unchanged
    rw [deliverEach_quiet driving (fun _ _ _ change => by rw [unchanged] at change; cases change) run]
    exact driving

end Emitted

/-! ## Steps heard -/

/-- What the registry hears in one step of a session that drives it: its start, the listings
that answer its calls, the changes of owner signalled, and its close. -/
def Step.hearings (h : World) : Step → List Hearing
  | .start => startHearings h
  | .close => [.close]
  | .reply (.index i) answer =>
    if i < 0 || i ≥ h.bus.calls.size then []
    else (h.bus.calls.getD i.toNat default).route.hearings h.bus answer
  | .reply (.first method dest path iface) answer =>
    match findCall h.bus.calls method dest path iface with
    | some i => (h.bus.calls.getD i default).route.hearings h.bus answer
    | none => []
  | .emit sig => signalHearings sig
  | .ownerChanged name old new => [.ownerChanged name old new]
  | _ => []

/-- What the registry hears in a step read from its document; nothing when it cannot be read. -/
def stepHearings (h : World) (j : Json) : List Hearing :=
  match Step.decode j with
  | .ok step => step.hearings h
  | .error _ => []

section Stepped

variable {pre : String} {R : Roll} {rs : List (String × Bus.Responder)}

/-- One step that drives the registry moves the roll as what it hears; a responder it sets stays
on the bus. -/
theorem perform_roll {n depth : Nat} {step : Step} {r : Json} {h h' : World}
    (driving : h.Driving pre R rs) (drives : step.drivesRegistry = true)
    (run : (perform n depth step).run h = .ok r h') :
    ∃ rs', h'.Driving pre (Roll.run (Roll.admits pre) R (step.hearings h)) rs' := by
  -- a responder set, for the fetches of properties or for a listing, hears nothing
  have responded : ∀ dest method resp, (do
      modify fun h : World => { h with bus := h.bus.respond dest method resp }
      pure Json.null : HubM Json).run h = .ok r h' →
      ∃ rs', h'.Driving pre (Roll.run (Roll.admits pre) R []) rs' := by
    intro dest method resp ran
    obtain ⟨⟨⟩, h₁, set, returned⟩ := bind_ok.mp ran
    rw [run_modify] at set
    cases set
    rw [ok_pure returned]
    exact ⟨_, driving.respond dest method resp⟩
  cases n with
  | zero => simp [perform] at run
  | succ m =>
  rcases Step.drives_cases drives with rfl | rfl | ⟨pick, answer, rfl⟩ | ⟨dest, table, failure, rfl⟩ |
    ⟨method, answer, rfl⟩ | ⟨sig, rfl⟩ | ⟨name, old, new, rfl⟩
  · -- the registry starts
    simp only [perform] at run
    obtain ⟨⟨⟩, h₁, started, returned⟩ := bind_ok.mp run
    rw [ok_pure returned]
    exact ⟨rs, startRegistry_roll driving started⟩
  · -- the registry closes
    simp only [perform, performPlain] at run
    obtain ⟨reg, h₁, got, rest⟩ := bind_ok.mp run
    obtain ⟨⟨⟩, h₂, closed, returned⟩ := bind_ok.mp rest
    rw [ok_pure returned]
    have driving₁ := driving.transfer (keepsView_theRegistry h reg h₁ got) (sameWatches.stays_theRegistry h reg h₁ got)
    exact ⟨rs, closeRegistry_roll driving₁ closed⟩
  · -- a reply to a recorded call, picked by its index or by what it asked
    simp only [perform, bind_ok, run_get, EStateM.Result.ok.injEq, exists_returned] at run
    cases pick with
    | index i =>
      simp only at run
      split at run
      · rename_i outside
        rw [ok_pure run]
        simp only [Step.hearings, outside, if_true]
        exact ⟨rs, driving⟩
      · rename_i inside
        obtain ⟨⟨⟩, h₁, answered, returned⟩ := bind_ok.mp run
        rw [ok_pure returned]
        have valid : i.toNat < h.bus.calls.size := by
          simp only [Bool.or_eq_true, decide_eq_true_eq, not_or] at inside
          omega
        simp only [Step.hearings, inside]
        exact ⟨rs, answerCall_roll driving valid answered⟩
    | first method dest path iface =>
      simp only at run
      split at run
      · rename_i missing
        rw [ok_pure run]
        simp only [Step.hearings, missing]
        exact ⟨rs, driving⟩
      · rename_i i found
        obtain ⟨⟨⟩, h₁, answered, returned⟩ := bind_ok.mp run
        rw [ok_pure returned]
        simp only [Step.hearings, found]
        exact ⟨rs, answerCall_roll driving (findCall_lt found) answered⟩
  · exact responded _ _ _ (by simpa only [perform, performPlain] using run)
  · exact responded _ _ _ (by simpa only [perform, performPlain] using run)
  · -- a signal
    simp only [perform] at run
    obtain ⟨⟨⟩, h₁, emitted, returned⟩ := bind_ok.mp run
    rw [ok_pure returned]
    exact ⟨rs, emit_roll driving emitted⟩
  · -- a change of owner, signalled by the bus daemon
    simp only [perform] at run
    obtain ⟨⟨⟩, h₁, emitted, returned⟩ := bind_ok.mp run
    rw [ok_pure returned]
    have moved := emit_roll driving emitted
    rw [signalHearings_ownershipSignal] at moved
    exact ⟨rs, moved⟩

/-- A step read from its document, one that drives the registry, moves the roll as what it
hears. -/
theorem runStep_roll {n depth : Nat} {j r : Json} {h h' : World} (driving : h.Driving pre R rs)
    (drives : Step.Drives j) (run : (runStep n depth j).run h = .ok r h') :
    ∃ rs', h'.Driving pre (Roll.run (Roll.admits pre) R (stepHearings h j)) rs' := by
  cases n with
  | zero => simp [runStep] at run
  | succ m =>
  unfold stepHearings
  cases decoded : Step.decode j with
  | error e =>
    simp only [runStep, decoded] at run
    rw [ok_pure run]
    exact ⟨rs, driving⟩
  | ok step =>
    simp only [runStep, decoded] at run
    exact perform_roll driving (drives step decoded) run

end Stepped

/-! ## Sessions heard -/

/-- The worlds reached from `h` by top-level steps that drive the registry, all of which return,
with what the registry heard in them, in order. -/
inductive Heard : World → List Hearing → World → Prop
  | refl (h : World) : Heard h [] h
  | step {h h₁ h₂ : World} {j r : Json} {hs : List Hearing} : Step.Drives j →
      (runStep stepBudget 0 j).run { h with notes := #[] } = .ok r h₁ → Heard h₁ hs h₂ →
      Heard h (stepHearings h j ++ hs) h₂

/-- Steps that drive the registry move the roll as what it heard in them.

Proof: by induction on the steps taken, each of which moves the roll as what it hears
(`runStep_roll`). -/
theorem Heard.roll {pre : String} {h h' : World} {hs : List Hearing} (heard : Heard h hs h') :
    ∀ {R : Roll} {rs : List (String × Bus.Responder)}, h.Driving pre R rs →
      ∃ rs', h'.Driving pre (Roll.run (Roll.admits pre) R hs) rs' := by
  induction heard with
  | refl h => exact fun driving => ⟨_, driving⟩
  | @step h h₁ h₂ j r hs drives run _ ih =>
    intro R rs driving
    have cleared : World.Driving pre R rs { h with notes := #[] } :=
      driving.transfer (.of_same rfl rfl rfl rfl rfl rfl) (.of_same rfl rfl rfl rfl rfl)
    obtain ⟨rs₁, moved⟩ := runStep_roll cleared drives run
    obtain ⟨rs₂, reached⟩ := ih moved
    refine ⟨rs₂, ?_⟩
    rw [Roll.run_append]
    exact reached

/-- A registry session starts on an empty roll. -/
theorem roll_initial {j : Json} {h : World} (start : initial "registry" j = .ok h) : h.roll = {} := by
  unfold initial at start
  rw [if_neg (by decide), if_pos (by decide)] at start
  simp only [bind, Except.bind] at start
  split at start
  · cases start
  · split at start
    · cases start
    · cases start
      rfl

/-- A registry session starts driven, on an empty roll, with the books of its roster. -/
theorem driving_initial {j : Json} {h : World} (start : initial "registry" j = .ok h) :
    ∃ r, h.registry = some r ∧ h.Driving r.clientPrefix {} h.bus.responders := by
  obtain ⟨r, present, roster⟩ := roster_initial start
  exact ⟨r, present, watches_initial start, roster, roll_initial start, rfl⟩

/-- **Registry membership refines the roll.** In a session of a registry, after any run of steps
that start and close it, answer its calls, set responders and signal changes of owner, in any
order: the registry's clients, in the order it discovered them, each with its name, whether it
can be activated, whether it is active and its unique name as its proxy knows them, are the
members of the roll that the abstract machine reaches on what the registry heard, for the
registry's prefix; and their names are distinct. -/
theorem membership_refines_roll {j : Json} {h₀ h : World} {hs : List Hearing}
    (start : initial "registry" j = .ok h₀) (heard : Heard h₀ hs h) :
    ∃ r, h.registry = some r ∧ h.roll = Roll.run (Roll.admits r.clientPrefix) {} hs ∧
      (h.roll.members.map (·.name)).Nodup := by
  obtain ⟨r₀, -, driving₀⟩ := driving_initial start
  obtain ⟨rs, driving⟩ := heard.roll driving₀
  obtain ⟨r, present, seated, -, -⟩ := driving.registry
  refine ⟨r, present, ?_, ?_⟩
  · rw [seated.clientPrefix]
    exact driving.roll
  · rw [driving.roll]
    exact Roll.run_nodup _ {} hs List.nodup_nil

/-- The bus daemon signals that a name outside the registry's prefix gained an owner. -/
def foreignOwnerRequest : Json :=
  .obj [("do", .str "owner_changed"), ("name", .str "org.example.Other"), ("old", .str ""),
    ("new", .str ":1.7")]

theorem foreignOwnerRequest_drives : Step.Drives foreignOwnerRequest := by
  intro step decoded
  rw [show Step.decode foreignOwnerRequest = .ok (.ownerChanged "org.example.Other" "" ":1.7") from rfl]
    at decoded
  cases decoded
  rfl

/-- A registry session that starts its registry, then hears of a name outside its prefix gaining
an owner: its roll is the one the abstract machine reaches on the two. -/
theorem membership_after_foreign_owner :
    ∃ h₀ h, initial "registry" (.obj []) = .ok h₀ ∧
      Heard h₀ [.start, .ownerChanged "org.example.Other" "" ":1.7"] h ∧
      ∃ r, h.registry = some r ∧
        h.roll = Roll.run (Roll.admits r.clientPrefix) {} [.start, .ownerChanged "org.example.Other" "" ":1.7"] ∧
        (h.roll.members.map (·.name)).Nodup := by
  have checked : ((initial "registry" (.obj [])).toOption.any fun h₀ =>
      stepHearings h₀ startRequest == [.start] &&
      ((runStep stepBudget 0 startRequest >>= fun _ => get).run' { h₀ with notes := #[] }).any fun h₁ =>
        stepHearings h₁ foreignOwnerRequest == [.ownerChanged "org.example.Other" "" ":1.7"] &&
        ((runStep stepBudget 0 foreignOwnerRequest >>= fun _ => get).run'
          { h₁ with notes := #[] }).isSome) = true := by
    decide +kernel
  cases start : initial "registry" (.obj []) with
  | error e =>
    rw [start] at checked
    cases checked
  | ok h₀ =>
    rw [start] at checked
    simp only [Except.toOption, Option.any_some, Bool.and_eq_true, beq_iff_eq] at checked
    obtain ⟨started, opened⟩ := checked
    obtain ⟨h₁, final₁, signalled⟩ := (Option.any_eq_true _ _).mp opened
    rw [Bool.and_eq_true, beq_iff_eq] at signalled
    obtain ⟨owned, done⟩ := signalled
    obtain ⟨h₂, final₂⟩ := Option.isSome_iff_exists.mp done
    obtain ⟨_, run₁⟩ := run_ok_of_final final₁
    obtain ⟨_, run₂⟩ := run_ok_of_final final₂
    have heard : Heard h₀ [.start, .ownerChanged "org.example.Other" "" ":1.7"] h₂ := by
      have steps := Heard.step startRequest_drives run₁ (.step foreignOwnerRequest_drives run₂ (.refl h₂))
      rwa [started, owned] at steps
    exact ⟨h₀, h₂, rfl, heard, membership_refines_roll start heard⟩

end MissionControl.Hub
