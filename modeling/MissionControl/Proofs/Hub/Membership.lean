import Mathlib
import MissionControl.Hub.World

/-!
# Registry membership

What the client registry knows of the clients on the bus, as a state machine of its own: its
roll, the members in the order they were discovered, each with its name, whether the name can
be activated, whether it has an owner, and which unique name owns it.

From its start until it closes, the registry hears of names (`Hearing`): a listing of the names
that have an owner, a listing of the names that can be activated, and a name changing owner. A
name is *sighted* when it is listed, or when it gains its first owner; a sighting counts only for
a name with the registry's prefix whose remainder is a valid client name (`Roll.admits`). A
sighting of a name not on the roll adds a member; one of a name on the roll marks it
activatable, or active with its owner. A name on the roll that changes owner follows the new
owner; one that loses its owner becomes inactive, and leaves the roll unless it can be activated.
Closing empties the roll for good.

A world is read as a roll (`World.roll`): the registry's clients in its order, each as its proxy
knows it.
-/

set_option autoImplicit false

namespace MissionControl.Hub

/-- A client as the registry's roll records it. -/
structure Member where
  name : String
  activatable : Bool
  active : Bool
  uniqueName : String
  deriving DecidableEq, Repr

namespace Member

/-- A member first sighted with owner `u` (empty: none known): it is active when its owner is
known or its name cannot be activated. -/
def fresh (name u : String) (act : Bool) : Member :=
  { name, activatable := act, active := !u.isEmpty || !act, uniqueName := u }

/-- The name has an owner, `u` if it is known. -/
def activate (m : Member) (u : String) : Member :=
  { m with active := true, uniqueName := if u.isEmpty then m.uniqueName else u }

/-- The name lost its owner. -/
def deactivate (m : Member) : Member := { m with active := false, uniqueName := "" }

/-- A member sighted again: listed as activatable, or seen with an owner. -/
def resight (m : Member) (u : String) (act : Bool) : Member :=
  if act then { m with activatable := true } else m.activate u

@[simp] theorem activate_name (m : Member) (u : String) : (m.activate u).name = m.name := rfl

@[simp] theorem deactivate_name (m : Member) : m.deactivate.name = m.name := rfl

@[simp] theorem resight_name (m : Member) (u : String) (act : Bool) :
    (m.resight u act).name = m.name := by
  unfold resight
  split <;> rfl

/-- Activating twice with the same owner is activating once. -/
@[simp] theorem activate_activate (m : Member) (u : String) :
    (m.activate u).activate u = m.activate u := by
  unfold activate
  split <;> simp_all

/-- A member first sighted with a known owner is already active with that owner. -/
theorem fresh_activate {name u : String} (known : u.isEmpty = false) :
    (fresh name u false).activate u = fresh name u false := by
  simp [fresh, activate, known]

end Member

/-- What the registry hears of. -/
inductive Hearing where
  /-- The registry starts. -/
  | start
  /-- A listing of the names on the bus: those with an owner, or those that can be activated. -/
  | listed (activatable : Bool) (names : List String)
  /-- The bus says that `name` passed from owner `old` to owner `new` (empty: none). -/
  | ownerChanged (name old new : String)
  /-- The registry closes. -/
  | close
  deriving DecidableEq, Repr

/-- The state of the registry's membership: whether it started and closed, and its members in
the order they were discovered. -/
structure Roll where
  started : Bool := false
  closed : Bool := false
  members : List Member := []
  deriving DecidableEq, Repr

namespace Roll

/-- A name counts when it has the registry's prefix and the remainder is a valid client name. -/
def admits (pre name : String) : Bool :=
  name.startsWith pre && (Client.checkName (String.ofList (name.toList.drop pre.length))).isOk

/-- Whether a member has the name. -/
def knows (ms : List Member) (name : String) : Bool := ms.any (·.name == name)

/-- The members, the one named `name` changed by `f`. -/
def update (name : String) (f : Member → Member) (ms : List Member) : List Member :=
  ms.map fun m => if m.name == name then f m else m

variable (admits : String → Bool)

/-- A sighting of `name` with owner `u` (empty: none known) and activatability `act`. -/
def sight (name u : String) (act : Bool) (ms : List Member) : List Member :=
  if !admits name then ms
  else if knows ms name then update name (·.resight u act) ms
  else ms ++ [Member.fresh name u act]

/-- The members once the name `name` passed to owner `new` (empty: none). -/
def changeOwner (name new : String) (ms : List Member) : List Member :=
  if new.isEmpty then
    (update name Member.deactivate ms).filter fun m => m.name != name || m.activatable
  else update name (·.activate new) ms

/-- The sighting a change of owner makes: a name gaining its first owner. -/
def firstOwner (name old new : String) (ms : List Member) : List Member :=
  if old.isEmpty && !new.isEmpty then sight admits name new false ms else ms

/-- Whether the registry has started and not closed. -/
def isOpen (R : Roll) : Bool := R.started && !R.closed

/-- The roll after one hearing. Listings and changes of owner count only while it is open. -/
def step (R : Roll) : Hearing → Roll
  | .start => { R with started := true }
  | .listed act names =>
    if R.isOpen then { R with members := names.foldl (fun ms name => sight admits name "" act ms) R.members }
    else R
  | .ownerChanged name old new =>
    if R.isOpen then { R with members := changeOwner name new (firstOwner admits name old new R.members) }
    else R
  | .close => { R with closed := true, members := [] }

/-- The roll after several hearings, in order. -/
def run (R : Roll) (hs : List Hearing) : Roll := hs.foldl (step admits) R

@[simp] theorem run_nil (R : Roll) : run admits R [] = R := rfl

theorem isOpen_iff {R : Roll} : R.isOpen = true ↔ R.started = true ∧ R.closed = false := by
  simp [isOpen]

theorem step_listed_of_open {R : Roll} (opened : R.isOpen = true) (act : Bool) (names : List String) :
    step admits R (.listed act names) =
      { R with members := names.foldl (fun ms name => sight admits name "" act ms) R.members } := by
  simp [step, opened]

theorem step_listed_of_shut {R : Roll} (shut : R.isOpen = false) (act : Bool) (names : List String) :
    step admits R (.listed act names) = R := by
  simp [step, shut]

theorem step_ownerChanged_of_open {R : Roll} (opened : R.isOpen = true) (name old new : String) :
    step admits R (.ownerChanged name old new) =
      { R with members := changeOwner name new (firstOwner admits name old new R.members) } := by
  simp [step, opened]

theorem step_ownerChanged_of_shut {R : Roll} (shut : R.isOpen = false) (name old new : String) :
    step admits R (.ownerChanged name old new) = R := by
  simp [step, shut]

/-- Listings heard while the registry is not open change nothing. -/
theorem run_listed_of_shut {R : Roll} (shut : R.isOpen = false) (hs : List Hearing)
    (listings : ∀ x ∈ hs, ∃ act names, x = .listed act names) : run admits R hs = R := by
  induction hs with
  | nil => rfl
  | cons x rest ih =>
    obtain ⟨act, names, rfl⟩ := listings x List.mem_cons_self
    show run admits (step admits R (.listed act names)) rest = R
    rw [step_listed_of_shut admits shut]
    exact ih fun y member => listings y (List.mem_cons_of_mem _ member)

theorem run_append (R : Roll) (hs hs' : List Hearing) :
    run admits R (hs ++ hs') = run admits (run admits R hs) hs' :=
  List.foldl_append

/-! ## Names on the roll -/

theorem knows_iff {ms : List Member} {name : String} : knows ms name = true ↔ name ∈ ms.map (·.name) := by
  simp only [knows, List.any_eq_true, beq_iff_eq, List.mem_map]

@[simp] theorem update_names (name : String) (f : Member → Member) (keeps : ∀ m, (f m).name = m.name)
    (ms : List Member) : (update name f ms).map (·.name) = ms.map (·.name) := by
  induction ms with
  | nil => rfl
  | cons m rest ih =>
    simp only [update, List.map_cons] at ih ⊢
    rw [ih]
    split <;> simp [keeps]

theorem update_of_not_knows {name : String} (f : Member → Member) {ms : List Member}
    (unknown : knows ms name = false) : update name f ms = ms := by
  induction ms with
  | nil => rfl
  | cons m rest ih =>
    simp only [knows, List.any_cons, Bool.or_eq_false_iff] at unknown
    simp only [update, List.map_cons] at ih ⊢
    rw [if_neg (by simpa using unknown.1), ih unknown.2]

theorem update_update (name : String) (f g : Member → Member) (ms : List Member)
    (keeps : ∀ m, (f m).name = m.name) : update name g (update name f ms) = update name (g ∘ f) ms := by
  induction ms with
  | nil => rfl
  | cons m rest ih =>
    simp only [update, List.map_cons] at ih ⊢
    rw [ih]
    by_cases named : m.name = name <;> simp [named, keeps]

theorem changeOwner_of_not_knows {name new : String} {ms : List Member}
    (unknown : knows ms name = false) : changeOwner name new ms = ms := by
  unfold changeOwner
  split
  · rw [update_of_not_knows _ unknown]
    refine List.filter_eq_self.mpr fun m member => ?_
    have other : m.name ≠ name := fun same =>
      absurd (knows_iff.mpr (List.mem_map.mpr ⟨m, member, same⟩)) (by simp [unknown])
    simp [other]
  · exact update_of_not_knows _ unknown

/-- Distinct names stay distinct through a sighting. -/
theorem sight_nodup {name u : String} {act : Bool} {ms : List Member}
    (distinct : (ms.map (·.name)).Nodup) : ((sight admits name u act ms).map (·.name)).Nodup := by
  unfold sight
  split
  · exact distinct
  · split
    · rwa [update_names _ _ fun m => Member.resight_name m u act]
    · rename_i unknown
      rw [List.map_append, List.nodup_append]
      refine ⟨distinct, List.nodup_singleton _, fun a member b fresh => ?_⟩
      simp only [List.map_cons, List.map_nil, List.mem_singleton] at fresh
      rintro rfl
      rw [fresh, Member.fresh] at member
      exact unknown (knows_iff.mpr member)

/-- Distinct names stay distinct through a change of owner. -/
theorem changeOwner_nodup {name new : String} {ms : List Member}
    (distinct : (ms.map (·.name)).Nodup) : ((changeOwner name new ms).map (·.name)).Nodup := by
  unfold changeOwner
  split
  · have kept : ((update name Member.deactivate ms).map (·.name)).Nodup := by
      rwa [update_names _ _ Member.deactivate_name]
    exact kept.sublist (List.filter_sublist.map _)
  · rwa [update_names _ _ fun m => Member.activate_name m new]

/-- **The roll keeps its names distinct** through every run of hearings. -/
theorem run_nodup (R : Roll) (hs : List Hearing) (distinct : (R.members.map (·.name)).Nodup) :
    ((run admits R hs).members.map (·.name)).Nodup := by
  induction hs generalizing R with
  | nil => exact distinct
  | cons e rest ih =>
    refine ih _ ?_
    cases e with
    | start => exact distinct
    | listed act names =>
      simp only [step]
      split
      · induction names generalizing R with
        | nil => exact distinct
        | cons name more inner =>
          exact inner { R with members := sight admits name "" act R.members }
            (sight_nodup admits distinct) (by assumption)
      · exact distinct
    | ownerChanged name old new =>
      simp only [step]
      split
      · refine changeOwner_nodup ?_
        unfold firstOwner
        split
        · exact sight_nodup admits distinct
        · exact distinct
      · exact distinct
    | close => exact List.nodup_nil

/-! ## Sightings and changes of owner -/

section Sightings

variable {admits} {name u old new : String} {act : Bool} {ms : List Member}

theorem sight_of_not_admits (refused : admits name = false) : sight admits name u act ms = ms := by
  simp [sight, refused]

theorem sight_of_knows (admitted : admits name = true) (known : knows ms name = true) :
    sight admits name u act ms = update name (·.resight u act) ms := by
  simp [sight, admitted, known]

theorem sight_of_not_knows (admitted : admits name = true) (unknown : knows ms name = false) :
    sight admits name u act ms = ms ++ [Member.fresh name u act] := by
  simp [sight, admitted, unknown]

/-- A change to a new owner marks the member active with it. -/
theorem changeOwner_of_owned (owned : new.isEmpty = false) :
    changeOwner name new ms = update name (·.activate new) ms := by
  simp [changeOwner, owned]

theorem firstOwner_of_not_first (later : (old.isEmpty && !new.isEmpty) = false) :
    firstOwner admits name old new ms = ms := by
  simp [firstOwner, later]

theorem update_append (f : Member → Member) (ms' : List Member) :
    update name f (ms ++ ms') = update name f ms ++ update name f ms' :=
  List.map_append

/-- A member sighted with an owner, sighted again with it, changes no more. -/
theorem update_activate_fresh (owned : new.isEmpty = false) (unknown : knows ms name = false) :
    update name (·.activate new) (ms ++ [Member.fresh name new false]) = ms ++ [Member.fresh name new false] := by
  have own : (Member.fresh name new false).name = name := rfl
  rw [update_append, update_of_not_knows _ unknown]
  simp only [update, List.map_cons, List.map_nil, own, beq_self_eq_true, if_true,
    Member.fresh_activate owned]

/-- Hearing that a name changed owner a second time changes nothing more. -/
theorem changeOwner_changeOwner (name new : String) (ms : List Member) :
    changeOwner name new (changeOwner name new ms) = changeOwner name new ms := by
  cases owned : new.isEmpty with
  | false =>
    rw [changeOwner_of_owned owned, changeOwner_of_owned owned,
      update_update _ _ _ _ fun m => Member.activate_name m new]
    congr 1
    funext m
    exact Member.activate_activate m new
  | true =>
    simp only [changeOwner, owned, if_true]
    induction ms with
    | nil => rfl
    | cons m rest ih =>
      by_cases named : m.name = name
      · cases kept : m.activatable <;>
          simp_all [update, Member.deactivate]
      · simp_all [update]

/-- A name gaining its first owner is sighted with it; once it is, the change to that owner
changes nothing more, provided a name already on the roll counts. -/
theorem changeOwner_firstOwner (first : (old.isEmpty && !new.isEmpty) = true)
    (counted : knows ms name = true → admits name = true) :
    changeOwner name new (firstOwner admits name old new ms) = firstOwner admits name old new ms := by
  have owned : new.isEmpty = false := by simp_all
  rw [changeOwner_of_owned owned]
  simp only [firstOwner, first, if_true]
  cases admitted : admits name with
  | false =>
    rw [sight_of_not_admits admitted]
    cases known : knows ms name with
    | false => exact update_of_not_knows _ known
    | true => exact absurd (counted known) (by rw [admitted]; decide)
  | true =>
    cases known : knows ms name with
    | false =>
      rw [sight_of_not_knows admitted known]
      exact update_activate_fresh owned known
    | true =>
      rw [sight_of_knows admitted known, update_update _ _ _ _ fun m => Member.resight_name m new false]
      congr 1
      funext m
      simp [Member.resight]

/-- A name gaining its first owner, heard twice, is sighted once. -/
theorem firstOwner_firstOwner (first : (old.isEmpty && !new.isEmpty) = true) :
    firstOwner admits name old new (firstOwner admits name old new ms) =
      firstOwner admits name old new ms := by
  have owned : new.isEmpty = false := by simp_all
  simp only [firstOwner, first, if_true]
  cases admitted : admits name with
  | false => rw [sight_of_not_admits admitted, sight_of_not_admits admitted]
  | true =>
    cases known : knows ms name with
    | false =>
      have now : knows (ms ++ [Member.fresh name new false]) name = true := by
        simp [knows, Member.fresh]
      rw [sight_of_not_knows admitted known, sight_of_knows admitted now]
      simp only [Member.resight, Bool.false_eq_true, if_false]
      exact update_activate_fresh owned known
    | true =>
      have still : knows (update name (·.resight new false) ms) name = true := by
        rw [knows_iff, update_names _ _ fun m => Member.resight_name m new false]
        exact knows_iff.mp known
      rw [sight_of_knows admitted known, sight_of_knows admitted still,
        update_update _ _ _ _ fun m => Member.resight_name m new false]
      congr 1
      funext m
      simp [Member.resight]

/-- A name on the roll that counts, gaining its first owner, is changed to it. -/
theorem firstOwner_of_knows (first : (old.isEmpty && !new.isEmpty) = true)
    (admitted : admits name = true) (known : knows ms name = true) :
    firstOwner admits name old new ms = changeOwner name new ms := by
  have owned : new.isEmpty = false := by simp_all
  simp only [firstOwner, first, if_true]
  rw [sight_of_knows admitted known, changeOwner_of_owned owned]
  rfl

/-- A name that cannot be activated, losing its owner, leaves the roll. -/
theorem changeOwner_of_lost (unowned : new.isEmpty = true)
    (fixed : ∀ m ∈ ms, m.name = name → m.activatable = false) :
    changeOwner name new ms = ms.filter (·.name != name) := by
  rw [changeOwner, if_pos unowned]
  induction ms with
  | nil => rfl
  | cons m rest ih =>
    have rest' := ih fun m' member => fixed m' (List.mem_cons_of_mem m member)
    simp only [update, List.map_cons, List.filter_cons] at rest' ⊢
    rw [rest']
    by_cases named : m.name = name
    · simp [named, fixed m List.mem_cons_self named, Member.deactivate]
    · simp [named]

/-- Dropping a name drops it whatever was done to its member. -/
theorem filter_update (f : Member → Member) (keeps : ∀ m, (f m).name = m.name) :
    (update name f ms).filter (·.name != name) = ms.filter (·.name != name) := by
  induction ms with
  | nil => rfl
  | cons m rest ih =>
    simp only [update, List.map_cons, List.filter_cons] at ih ⊢
    rw [ih]
    by_cases named : m.name = name <;> simp [named, keeps]

/-- A name that can be activated, losing its owner, stays on the roll without one. -/
theorem changeOwner_of_kept (unowned : new.isEmpty = true)
    (kept : ∀ m ∈ ms, m.name = name → m.activatable = true) :
    changeOwner name new ms = update name Member.deactivate ms := by
  rw [changeOwner, if_pos unowned]
  refine List.filter_eq_self.mpr fun m member => ?_
  obtain ⟨m₀, inside, rfl⟩ := List.mem_map.mp member
  by_cases named : m₀.name = name
  · simp [named, kept m₀ inside named, Member.deactivate]
  · simp [named]

end Sightings

end Roll

end MissionControl.Hub

/-! ## A world read as a roll -/

namespace MissionControl.Client.Proxy

/-- A proxy as the roll records its client. -/
def member (p : Proxy) : Hub.Member :=
  { name := p.name, activatable := p.activatable, active := p.active, uniqueName := p.uniqueName }

@[simp] theorem member_create (name u : String) (act : Bool) :
    (create name u act).member = Hub.Member.fresh name u act := rfl

@[simp] theorem member_setActive (p : Proxy) (u : String) :
    (p.setActive u).member = p.member.activate u := rfl

@[simp] theorem member_activatable (p : Proxy) :
    ({ p with activatable := true } : Proxy).member = { p.member with activatable := true } := rfl

@[simp] theorem member_deactivate (p : Proxy) :
    ({ p with active := false, uniqueName := "" } : Proxy).member = p.member.deactivate := rfl

end MissionControl.Client.Proxy

namespace MissionControl.Hub

/-- The members of a registry in a world: its clients in its order, as their proxies know them. -/
def Registry.members (r : Registry) (h : World) : List Member :=
  r.entries.map fun e => (h.clients.getD e.client default).proxy.member

/-- The roll a world is in: its registry's phase and members. -/
def World.roll (h : World) : Roll :=
  match h.registry with
  | some r => { started := r.started, closed := r.closed, members := r.members h }
  | none => {}

theorem World.roll_of_registry {h : World} {r : Registry} (present : h.registry = some r) :
    h.roll = { started := r.started, closed := r.closed, members := r.members h } := by
  simp [World.roll, present]

end MissionControl.Hub
