import MissionControl.Hub.Session
import MissionControl.Proofs.Hub.Broker

/-!
# What sessions guarantee between steps

A session starts from one of the initial worlds and runs top-level steps one after another.
Following the steps that return, every world it reaches keeps balanced books, and an interface
once determined stays determined with the same outcome (`Reaches.balanced`): each step keeps
both (`runStep_balanced`), and the initial worlds, which have no objects, owners, waiters,
fetches or requests, balance trivially.

Between top-level steps this gives the readiness broker's guarantees
(`readiness_between_steps`): no interface is both in progress and determined; an interface once
determined stays so, with its outcome; at most one fetch of an interface of an object is in
progress and not disposed of; every fetch has at most one request on the bus; and every owner's
pending count is the number of its waiters registered on a fetch. Disposing of an object does not
make its interfaces undetermined, so a determined interface is never fetched again.
-/

set_option autoImplicit false

namespace MissionControl.Hub

open Readiness

/-- The worlds reached from `h` by top-level steps of a session that all return. -/
inductive Reaches : World → World → Prop
  | refl (h : World) : Reaches h h
  | step {h h₁ h₂ : World} {j r : Json} :
      (runStep stepBudget 0 j).run { h with notes := #[] } = .ok r h₁ → Reaches h₁ h₂ →
        Reaches h h₂

namespace World

theorem Remembers.refl (h : World) : h.Remembers h := fun _ _ ready => ⟨ready, rfl⟩

theorem Remembers.trans {h₁ h₂ h₃ : World} (first : h₂.Remembers h₁) (second : h₃.Remembers h₂) :
    h₃.Remembers h₁ := fun s iface ready => by
  obtain ⟨ready₂, same₂⟩ := first s iface ready
  obtain ⟨ready₃, same₃⟩ := second s iface ready₂
  exact ⟨ready₃, same₃.trans same₂⟩

/-- A world without objects, owners, waiters, fetches, requests or labels balances its books,
with nothing under way. -/
theorem balanced_of_empty {h : World} (plains : h.plains = #[]) (accounts : h.accounts = #[])
    (clients : h.clients = #[]) (waiters : h.waiters = #[]) (owners : h.owners = #[])
    (fetches : h.fetches = #[]) (calls : h.bus.calls = #[]) (plainLabels : h.plainLabels = [])
    (accountLabels : h.accountLabels = []) (ownerLabels : h.ownerLabels = []) :
    Balanced h [] h := by
  have waiter : ∀ w, h.waiters.getD w default = default := fun w => by simp [waiters]
  have status : ∀ s, h.status s = {} := fun s =>
    status_of_not_has (by cases s <;> simp [Has, plains, accounts, clients])
  refine ⟨⟨⟨fun l i found => ?_, fun l a found => ?_, fun l o found => ?_, fun c has => ?_,
      fun w o owned => ?_, fun w c reacts => ?_⟩, fun w f attached => ?_, fun s => ?_,
      fun f inside => ?_, fun f g inside => ?_, fun i inside => ?_⟩, fun o => ?_,
    ⟨List.nodup_nil, fun _ member => absurd member List.not_mem_nil, fun i inside => ?_,
      fun _ _ _ member => absurd member List.not_mem_nil⟩, Remembers.refl h⟩
  · rw [plainLabels] at found
    cases found
  · rw [accountLabels] at found
    cases found
  · rw [ownerLabels] at found
    cases found
  · exact absurd (clients ▸ has : c < (#[] : Array ClientObject).size) (Nat.not_lt_zero c)
  · rw [waiter] at owned
    cases owned
  · rw [waiter] at reacts
    cases reacts
  · rw [waiter] at attached
    cases attached
  · rw [status]
    exact ⟨List.nodup_nil, fun _ _ member => absurd member List.not_mem_nil, fun _ _ => rfl⟩
  · exact absurd (fetches ▸ inside : f < (#[] : Array Fetch).size) (Nat.not_lt_zero f)
  · exact absurd (fetches ▸ inside : f < (#[] : Array Fetch).size) (Nat.not_lt_zero f)
  · exact absurd (calls ▸ inside : i < (#[] : Array (Bus.Call Route)).size) (Nat.not_lt_zero i)
  · have owner : h.owners.getD o default = default := by simp [owners]
    rw [owner]
    refine ⟨List.nodup_nil, fun w => ?_⟩
    rw [waiter]
    exact iff_of_false List.not_mem_nil fun tracked => (Option.some_ne_none o).symm tracked.1
  · exact absurd (calls ▸ inside : i < (#[] : Array (Bus.Call Route)).size) (Nat.not_lt_zero i)

end World

/-- Every initial world balances its books. -/
theorem initial_balanced {kind : String} {j : Json} {h : World} (start : initial kind j = .ok h) :
    World.Balanced h [] h := by
  unfold initial at start
  split at start
  · cases start
    exact World.balanced_of_empty rfl rfl rfl rfl rfl rfl rfl rfl rfl rfl
  · split at start
    · simp only [bind, Except.bind] at start
      split at start
      · cases start
      · split at start
        · cases start
        · cases start
          exact World.balanced_of_empty rfl rfl rfl rfl rfl rfl rfl rfl rfl rfl
    · cases start
      exact World.balanced_of_empty rfl rfl rfl rfl rfl rfl rfl rfl rfl rfl

/-- Every world a session reaches from balanced books keeps them balanced, and remembers every
outcome determined where it started.

Proof: by induction on the steps taken, each of which keeps both (`runStep_balanced`). -/
theorem Reaches.balanced {h h' : World} (reached : Reaches h h') (balanced : World.Balanced h [] h) :
    World.Balanced h' [] h' ∧ h'.Remembers h := by
  induction reached with
  | refl h => exact ⟨balanced, World.Remembers.refl h⟩
  | step ran rest ih =>
    obtain ⟨balanced₁, remembers₁⟩ := runStep_balanced balanced ran
    obtain ⟨balanced₂, remembers₂⟩ := ih balanced₁
    exact ⟨balanced₂, remembers₁.trans remembers₂⟩

/-- An owner's pending count is the number of its waiters registered on a fetch: it lists each
of them once, and nothing else. -/
theorem World.Tracks.pendingCount {h : World} (tracks : h.Tracks fun _ => []) (o : Nat) :
    (h.owners.getD o default).pendingCount = ((List.range h.waiters.size).filter fun w =>
      (h.waiters.getD w default).owner == some o && (h.waiters.getD w default).fetch.isSome).length := by
  obtain ⟨nodup, tracked⟩ := tracks o
  simp only [List.nil_append] at nodup tracked
  refine List.Perm.length_eq ((List.perm_ext_iff_of_nodup nodup
    (List.nodup_range.sublist List.filter_sublist)).mpr fun w => ?_)
  rw [tracked, List.mem_filter, List.mem_range, Bool.and_eq_true, beq_iff_eq]
  -- a waiter the world does not have is owned by no one
  refine ⟨fun owned => ⟨Nat.lt_of_not_le fun past => ?_, owned⟩, fun owned => owned.2⟩
  rw [getD_of_size_le past] at owned
  cases owned.1

/-- The first steps of a broker session: an interface with a monitor, an object, and a responder
answering every property fetch at once. -/
def inlineAnswerSetup : List Json :=
  [.obj [("do", .str "add_descriptor"), ("name", .str "A"), ("type", .str "w"),
      ("monitor", .bool true)],
    .obj [("do", .str "object"), ("id", .str "o1"), ("bus_name", .str "org.example.W1"),
      ("path", .str "/org/example/W1")],
    .obj [("do", .str "respond"), ("dest", .str ""), ("table", .obj [("A", .obj [])])]]

/-- A wait for the interface whose ready callback disposes of the object and waits again. -/
def waitAgainAfterDisposal : Json :=
  .obj [("do", .str "ensure"), ("obj", .str "o1"), ("type", .str "w"), ("iface", .str "A"),
    ("w", .str "w1"), ("on_ready", .arr [.obj [("do", .str "dispose"), ("obj", .str "o1")],
      .obj [("do", .str "ensure"), ("obj", .str "o1"), ("type", .str "w"), ("iface", .str "A"),
        ("w", .str "w2")]])]

/-- How many of `notes` watch an interface after the first disposal among them. -/
def watchesAfterDisposal (notes : List Note) : Nat :=
  ((notes.dropWhile fun n => !(n matches .acted "dispose" _)).filter
    fun n => n matches .watched _ _).length

end MissionControl.Hub
