import MissionControl.Proofs.Hub.Watches
import MissionControl.Proofs.Hub.Membership

/-!
# The hub's housekeeping

Besides what the readiness broker keeps for itself, the hub keeps books that no statement about
the registry's roll or its watches reads: whether a client is ready, the interfaces and roles
built from its properties, the registry's startup lock and which clients hold a share of it,
the accounts, and every note. A footprint that also holds across these changes is a relation of
`Housekeeping`; every operation that only keeps house stays within it, as this module proves
once for all such relations: a client becoming ready and the registry learning so, the
properties of a fetch built into its object, an account applying a change, a watch of a client's
interface noted.
-/

set_option autoImplicit false

namespace MissionControl.Hub

open Readiness

/-- A footprint that also holds across the hub's housekeeping: a change of a proxy that keeps
what the roll records of it and whether it is gone, a change of the registry that keeps its
phase, its own watch and its entries' names and clients, a change of an account, and a note. -/
structure Housekeeping (R : World → World → Prop) : Prop extends Footprint R where
  proxy : ∀ (h : World) (c : Nat) (g : Client.Proxy → Client.Proxy),
    (∀ p, (g p).member = p.member ∧ (g p).gone = p.gone) →
    R h { h with clients := h.clients.modify c fun x => { x with proxy := g x.proxy } }
  registry : ∀ (h : World) (g : Registry → Registry), (∀ x, (g x).watchView = x.watchView) →
    R h { h with registry := h.registry.map g }
  account : ∀ (h : World) (a : Nat) (g : AccountObject → AccountObject),
    R h { h with accounts := h.accounts.modify a g }
  anyNote : ∀ (h : World) (n : Note), R h { h with notes := h.notes.push n }

namespace Housekeeping

variable {R : World → World → Prop} (K : Housekeeping R)
include K

theorem stays_modifyProxy (c : Nat) (g : Client.Proxy → Client.Proxy)
    (keeps : ∀ p, (g p).member = p.member ∧ (g p).gone = p.gone) : Stays R (modifyProxy c g) :=
  Stays.of_modify fun h => K.proxy h c g keeps

theorem stays_modifyRegistry (g : Registry → Registry) (keeps : ∀ x, (g x).watchView = x.watchView) :
    Stays R (modifyRegistry g) :=
  Stays.of_modify fun h => K.registry h g keeps

theorem stays_modifyAccount (a : Nat) (g : AccountObject → AccountObject) :
    Stays R (modifyAccount a g) :=
  Stays.of_modify fun h => K.account h a g

theorem stays_anyNote (n : Note) : Stays R (note n) :=
  Stays.of_modify fun h => K.anyNote h n

theorem stays_registry? : Stays R registry? := K.of_read fun h => ⟨_, run_registry? h⟩

theorem stays_client (c : Nat) : Stays R (client c) := K.of_read fun h => ⟨_, run_client c h⟩

theorem stays_releaseStartupLock : Stays R releaseStartupLock := by
  unfold releaseStartupLock
  refine K.bind K.stays_registry? fun r? => ?_
  split
  · split
    · exact K.pure _
    · split
      · exact K.bind (K.stays_anyNote _) fun _ => K.pure _
      · refine K.bind (K.stays_modifyRegistry _ fun _ => rfl) fun _ => ?_
        split
        · exact K.pure _
        · refine K.bind (K.stays_modifyRegistry _ fun _ => rfl) fun _ => ?_
          split
          · exact K.stays_anyNote _
          · exact K.pure _
  · exact K.pure _

theorem stays_registryClientReady (c : Nat) : Stays R (registryClientReady c) := by
  unfold registryClientReady
  refine K.bind K.stays_registry? fun r? => ?_
  split
  · split
    · split
      · refine K.bind (K.stays_modifyRegistry _ fun x => ?_) fun _ => K.stays_releaseStartupLock
        simp only [Registry.watchView]
        rw [map_clear_keeps (fun y => (y.name, y.client)) fun _ => rfl]
      · exact K.pure _
    · exact K.pure _
  · exact K.pure _

theorem stays_becomeReady (c : Nat) : Stays R (becomeReady c) := by
  unfold becomeReady
  refine K.bind (K.stays_client c) fun cl => ?_
  split
  · exact K.pure _
  · refine K.bind (K.stays_modifyProxy _ _ fun _ => ⟨rfl, rfl⟩) fun _ => ?_
    split
    · exact K.stays_registryClientReady c
    · exact K.pure _

theorem stays_build (s : Subject) (d : Descriptor) (props : Option Properties) :
    Stays R (build s d props) := by
  unfold build
  -- a note, a proxy's roles or an account changed, or the wrong kind of object
  split
  · exact K.bind K.stays_get fun _ => K.stays_anyNote _
  · exact K.stays_modifyProxy _ _ fun _ => ⟨rfl, rfl⟩
  · exact K.stays_modifyProxy _ _ fun _ => ⟨rfl, rfl⟩
  · exact K.stays_modifyProxy _ _ fun _ => ⟨rfl, rfl⟩
  · exact K.stays_modifyProxy _ _ fun _ => ⟨rfl, rfl⟩
  · exact K.stays_modifyAccount _ _
  · exact K.stays_modifyAccount _ _
  · exact Stays.of_throw _
  · exact Stays.of_throw _
  · exact Stays.of_throw _

theorem stays_absorbResult (fs : Fetch) (result : Except String (Option Properties)) :
    Stays R (absorbResult fs result) := by
  cases result with
  | ok props => exact K.stays_build _ _ _
  | error e => exact K.bind K.stays_get fun _ => K.stays_anyNote _

theorem stays_applyAccountChange (a : Nat) (body : List Value) :
    Stays R (applyAccountChange a body) := by
  unfold applyAccountChange
  split
  · exact K.stays_modifyAccount _ _
  · exact K.pure _

/-- A watch of an interface of a client only notes that it began. -/
theorem stays_watchClient (c : Nat) (iface : String) (k : Watcher) :
    Stays R (watch (.client c) iface k) := by
  cases k with
  | record => exact K.bind K.stays_get fun _ => K.stays_anyNote _
  | account => exact Stays.of_throw _

end Housekeeping

end MissionControl.Hub
