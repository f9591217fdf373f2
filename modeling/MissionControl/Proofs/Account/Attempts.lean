import Mathlib
import MissionControl.Account.Session

/-!
# Connection attempts run their filters one after another

An attempt of a connector runs the filters of its chain through continuations: a filter gets a
continuation and may pass success or failure through it at once, later, never, or more than once,
and continuations of earlier attempts may still be called. Three guards keep each attempt on one
straight path through the chain: a new attempt is refused while one is in progress, a
continuation counts only the first time it is called, and only for the attempt it was made for.

The reference is `sweep`: the filters from the attempt's position on run one after another, each
on the map the ones before it left, until one keeps its continuation (the attempt waits), one
fails (the attempt ends rejected), or the chain ends (the attempt ends connected, and the
connection manager, if any, is asked to connect with the attempt's map). This module proves that
the connector's re-entrant operations compute exactly the sweep, given the steps a top-level
step has (`stepBudget`):

* starting an attempt while one is in progress changes nothing; otherwise a new attempt sweeps
  the chain from its start on a fresh copy of the account's parameters (`beginAttempt_eq`);
* the continuation of the filter the attempt waits on continues the sweep after that filter when
  it passes success, and ends the attempt rejected when it passes failure; every other
  continuation call changes nothing (`resume_eq`);
* between top-level steps the continuations are in order (`Connector.Orderly`): only the last
  continuation made can be pending, only while connecting, and the attempt in progress made the
  last ones, one for each filter it ran. Every step of a session keeps this
  (`connectorStep_steadies`), and so every connector a session reaches has it
  (`Connector.Steady.reached`).

Filters here only call their continuation: one that advances the attempt directly, as the
`proceed` script does, is outside the sweep, and so is a session step that advances the attempt
by hand (`AdvancesDirectly`).
-/

set_option autoImplicit false

namespace MissionControl.Account

instance : LawfulBEq ConnectionState where
  eq_of_beq {a b} same := by cases a <;> cases b <;> first | rfl | cases same
  rfl {a} := by cases a <;> rfl

namespace Connector

/-- The filters an attempt of `c` runs from position `i` on. -/
def filtersFrom (c : Connector) (i : Nat) : List (String × Option FilterAction) :=
  if c.usesChain then c.chain.filters.drop i else []

/-- The connector with its attempt moved past the filter at its position, which gets a new
continuation counting for the attempt. -/
def moved (c : Connector) : Connector :=
  { c with index := c.index + 1, continuations := c.continuations.push { attempt := c.attempt } }

/-- The connector with continuation `k` used. -/
def used (c : Connector) (k : Nat) : Connector :=
  { c with continuations := c.continuations.modify k fun x => { x with called := true } }

/-- The connector as a new attempt starts, on a copy of the account's parameters. -/
def restarted (c : Connector) : Connector :=
  { c with current := c.params.getD [], index := 0, attempt := c.attempt + 1,
           state := .connecting }

/-- Whether continuation `k` is the one the attempt waits on: not used yet, and made for the
attempt in progress. -/
def Pending (c : Connector) (k : Nat) : Prop :=
  (c.continuations.getD k default).called = false ∧
    (c.continuations.getD k default).attempt = c.attempt

instance (c : Connector) (k : Nat) : Decidable (c.Pending k) :=
  inferInstanceAs (Decidable (_ ∧ _))

theorem mem_chain_of_mem_filtersFrom {c : Connector} {i : Nat} {f : String × Option FilterAction}
    (member : f ∈ c.filtersFrom i) : f ∈ c.chain.filters := by
  unfold filtersFrom at member
  split at member
  · exact List.mem_of_mem_drop member
  · cases member

end Connector

/-- Whether every filter of a chain passes on only through its continuation: none advances the
attempt by itself. -/
def Chain.Continuing (ch : Chain FilterAction) : Prop :=
  ∀ f ∈ ch.filters, ∀ success next, f.2 ≠ some (.proceed success next)

/-- The attempt in progress sweeps through `fs`, the filters from its position on: each runs on
the map the ones before it left and passes on at once, until one keeps its continuation and the
attempt waits, one fails and the attempt ends rejected, or the chain ends and the attempt ends
connected. A name registered without a filter, or a script that cannot be read, stops the step
with its fault; a filter that advances the attempt itself is outside the sweep. -/
def sweep : List (String × Option FilterAction) → ConnectorM Unit
  | [] => finishAttempt true
  | (_, none) :: _ => do
    modify Connector.moved
    throw (.panic absentFilter)
  | (name, some action) :: rest => do
    let k := (← get).continuations.size
    modify Connector.moved
    let c ← get
    noteConnector (.filtered name c.account c.current)
    match action with
    | .accept | .twice _ | .begin =>
      modify (·.used k)
      sweep rest
    | .reject =>
      modify (·.used k)
      finishAttempt false
    | .defer =>
      let d := (← get).deferred.size
      modify fun c => { c with deferred := c.deferred.push k }
      noteConnector (.deferred d)
    | .set key value =>
      modify fun c => { c with current := c.current.set key value }
      modify (·.used k)
      sweep rest
    | .delete key =>
      modify fun c => { c with current := c.current.erase key }
      modify (·.used k)
      sweep rest
    | .unreadable m => throw (.badInput m)
    | .proceed _ _ => pure ()

/-! ## The guards -/

section Guards

variable (c : Connector)

theorem filterAt?_eq (i : Nat) : c.filterAt? i = (c.filtersFrom i).head? := by
  unfold Connector.filterAt? Connector.filtersFrom Chain.at?
  split
  · simp
  · rfl

/-- Starting an attempt while one is in progress changes nothing. -/
theorem beginAttempt_connecting (connecting : c.state = .connecting) (n : Nat) :
    (beginAttempt n).run c = .ok () c := by
  cases n with
  | zero => rfl
  | succ n => simp [beginAttempt, connecting, EStateM.run_bind]

/-- Otherwise a new attempt advances from the start of the chain on a copy of the parameters. -/
theorem beginAttempt_idle (idle : c.state ≠ .connecting) (n : Nat) :
    (beginAttempt (n + 1)).run c = (proceed n true).run c.restarted := by
  have differs : (c.state == .connecting) = false := by simpa using idle
  simp [beginAttempt, differs, EStateM.run_bind, Connector.restarted]

/-- An attempt advances only while it is in progress. -/
theorem proceed_idle (idle : c.state ≠ .connecting) (n : Nat) (success : Bool) :
    (proceed n success).run c = .ok () c := by
  cases n with
  | zero => rfl
  | succ n =>
    have differs : (c.state != .connecting) = true := by simpa using idle
    simp [proceed, differs, EStateM.run_bind]

/-- A continuation used before, or made for another attempt, changes nothing. -/
theorem resume_stale {k : Nat} (stale : ¬ c.Pending k) (n : Nat) (success : Bool) :
    (resume n k success).run c = .ok () c := by
  cases n with
  | zero => rfl
  | succ n =>
    have refused : (c.continuations.getD k default).called = true ∨
        (c.continuations.getD k default).attempt ≠ c.attempt := by
      unfold Connector.Pending at stale
      cases called : (c.continuations.getD k default).called
      · exact Or.inr fun same => stale ⟨called, same⟩
      · exact Or.inl rfl
    simp only [Array.getD_eq_getD_getElem?] at refused
    simp [resume, EStateM.run_bind, refused]

/-- The continuation the attempt waits on is used, and the attempt advances. -/
theorem resume_pending {k : Nat} (pending : c.Pending k) (n : Nat) (success : Bool) :
    (resume (n + 1) k success).run c = (proceed n success).run (c.used k) := by
  obtain ⟨unused, current⟩ := pending
  simp only [Array.getD_eq_getD_getElem?] at unused current
  simp [resume, EStateM.run_bind, Connector.used, unused, current]

/-- An attempt that fails ends rejected, whatever filters remain. -/
theorem proceed_failure (connecting : c.state = .connecting) (n : Nat) :
    (proceed (n + 1) false).run c = (finishAttempt false).run c := by
  simp [proceed, connecting, EStateM.run_bind]

/-- An attempt in progress that reaches the end of its chain on success ends. -/
theorem proceed_done (connecting : c.state = .connecting) (done : c.filtersFrom c.index = [])
    (n : Nat) : (proceed (n + 1) true).run c = (finishAttempt true).run c := by
  have found : c.filterAt? c.index = none := by rw [filterAt?_eq, done]; rfl
  simp [proceed, connecting, found, EStateM.run_bind]

/-- A name registered without a filter stops the step with a fault, the attempt having moved
past it. -/
theorem proceed_absent (connecting : c.state = .connecting) {name : String}
    {rest : List (String × Option FilterAction)} (next : c.filtersFrom c.index = (name, none) :: rest)
    (n : Nat) : (proceed (n + 1) true).run c = .error (.panic absentFilter) c.moved := by
  have found : c.filterAt? c.index = some (name, none) := by rw [filterAt?_eq, next]; rfl
  simp [proceed, connecting, found, EStateM.run_bind, Connector.moved]

/-- The filter at the attempt's position runs with a new continuation. -/
theorem proceed_runFilter (connecting : c.state = .connecting) {name : String} {a : FilterAction}
    {rest : List (String × Option FilterAction)} (next : c.filtersFrom c.index = (name, some a) :: rest)
    (n : Nat) :
    (proceed (n + 1) true).run c = (runFilter n name a c.continuations.size).run c.moved := by
  have found : c.filterAt? c.index = some (name, some a) := by rw [filterAt?_eq, next]; rfl
  simp [proceed, connecting, found, EStateM.run_bind, Connector.moved]

end Guards

theorem Connector.filtersFrom_succ (c : Connector) (i : Nat) :
    c.filtersFrom (i + 1) = (c.filtersFrom i).tail := by
  unfold Connector.filtersFrom
  split
  · exact List.tail_drop.symm
  · rfl

/-! ## What leaves an attempt alone -/

namespace Connector

/-- Two connectors agree on their attempt: its state, number and position, the continuations
made and kept so far, and the chain it runs. -/
structure SameAttempt (c c' : Connector) : Prop where
  state : c'.state = c.state
  attempt : c'.attempt = c.attempt
  index : c'.index = c.index
  continuations : c'.continuations = c.continuations
  deferred : c'.deferred = c.deferred
  chain : c'.chain = c.chain

theorem SameAttempt.refl (c : Connector) : c.SameAttempt c := ⟨rfl, rfl, rfl, rfl, rfl, rfl⟩

theorem SameAttempt.trans {c₁ c₂ c₃ : Connector} (first : c₁.SameAttempt c₂)
    (second : c₂.SameAttempt c₃) : c₁.SameAttempt c₃ :=
  ⟨second.state.trans first.state, second.attempt.trans first.attempt,
    second.index.trans first.index, second.continuations.trans first.continuations,
    second.deferred.trans first.deferred, second.chain.trans first.chain⟩

end Connector

/-- A computation that always returns and leaves the attempt alone. -/
def Quiet {α : Type} (x : ConnectorM α) : Prop :=
  ∀ c : Connector, ∃ a c', x.run c = .ok a c' ∧ c.SameAttempt c'

namespace Quiet

variable {α β : Type}

theorem bind {x : ConnectorM α} {f : α → ConnectorM β} (first : Quiet x) (rest : ∀ a, Quiet (f a)) :
    Quiet (x >>= f) := by
  intro c
  obtain ⟨a, c₁, run₁, same₁⟩ := first c
  obtain ⟨b, c₂, run₂, same₂⟩ := rest a c₁
  exact ⟨b, c₂, by rw [EStateM.run_bind, run₁]; exact run₂, same₁.trans same₂⟩

theorem of_pure (a : α) : Quiet (pure a : ConnectorM α) :=
  fun c => ⟨a, c, rfl, .refl c⟩

theorem of_get : Quiet (get : ConnectorM Connector) :=
  fun c => ⟨c, c, rfl, .refl c⟩

theorem of_modify {g : Connector → Connector} (keeps : ∀ c : Connector, c.SameAttempt (g c)) :
    Quiet (modify g : ConnectorM Unit) :=
  fun c => ⟨(), g c, rfl, keeps c⟩

theorem forM (xs : List α) {f : α → ConnectorM PUnit} (each : ∀ a, Quiet (f a)) :
    Quiet (xs.forM f) := by
  induction xs with
  | nil => exact of_pure _
  | cons a rest ih =>
    simp only [List.forM_eq_forM, List.forM_cons]
    exact (each a).bind fun _ => ih

theorem forIn (xs : List α) {body : α → PUnit → ConnectorM (ForInStep PUnit)}
    (each : ∀ a, Quiet (body a ⟨⟩)) : Quiet (ForIn.forIn xs ⟨⟩ body) := by
  induction xs with
  | nil => exact of_pure _
  | cons a rest ih =>
    rw [List.forIn_cons]
    refine (each a).bind fun step => ?_
    cases step with
    | done _ => exact of_pure _
    | yield _ => exact ih

end Quiet

theorem quiet_noteConnector (n : ConnectorNote) : Quiet (noteConnector n) :=
  Quiet.of_modify fun _ => ⟨rfl, rfl, rfl, rfl, rfl, rfl⟩

theorem quiet_completeOnline (err : Option String) : Quiet (completeOnline err) := by
  unfold completeOnline
  refine Quiet.of_get.bind fun c => (Quiet.of_modify ?_).bind fun _ => ?_
  · exact fun _ => ⟨rfl, rfl, rfl, rfl, rfl, rfl⟩
  · refine (Quiet.forIn _ fun id => (quiet_noteConnector _).bind fun _ => Quiet.of_pure _).bind
      fun _ => Quiet.of_pure _

/-- An attempt that ends is rejected or connected, as the chain decided, and is otherwise left
alone. -/
theorem finishAttempt_run (success : Bool) (c : Connector) :
    ∃ c', (finishAttempt success).run c = .ok () c' ∧
      { c with state := if success then .connected else .rejected }.SameAttempt c' := by
  -- the observers of the attempt's end only take notes
  have told : Quiet (c.process.emit (return (← get).process)
      (fun _ id success => noteConnector (.processed id success)) success) := by
    unfold HandlerList.emit
    refine Quiet.forM _ fun e => Quiet.of_get.bind fun _ => ?_
    split
    · exact quiet_noteConnector _
    · exact Quiet.of_pure _
  obtain ⟨u, c₁, run₁, same₁⟩ := told { c with current := [] }
  have ended : ∀ (state : ConnectionState) (rest : ConnectorM Unit), Quiet rest →
      ∃ c', (modify (fun c : Connector => { c with state }) >>= fun _ => rest).run c₁ = .ok () c' ∧
        { c with state }.SameAttempt c' := by
    intro state rest quiet
    obtain ⟨v, c₂, run₂, same₂⟩ := quiet { c₁ with state }
    refine ⟨c₂, by rw [EStateM.run_bind, EStateM.run_modify]; exact run₂, same₂.state,
      same₂.attempt.trans same₁.attempt, same₂.index.trans same₁.index,
      same₂.continuations.trans same₁.continuations, same₂.deferred.trans same₁.deferred,
      same₂.chain.trans same₁.chain⟩
  simp only [finishAttempt, EStateM.run_bind, EStateM.run_get, EStateM.run_modify, run₁]
  cases success with
  | false => exact ended .rejected _ (quiet_completeOnline _)
  | true =>
    apply ended .connected
    split
    · exact quiet_completeOnline _
    · refine (quiet_noteConnector _).bind fun _ => ?_
      split
      · exact quiet_completeOnline _
      · exact quiet_completeOnline _
      · refine Quiet.of_get.bind fun _ => (Quiet.of_modify ?_).bind fun _ => quiet_noteConnector _
        exact fun _ => ⟨rfl, rfl, rfl, rfl, rfl, rfl⟩

/-- What a return of an attempt's end leaves: `finishAttempt_run` read backwards. -/
theorem finishAttempt_ok {success : Bool} {c c' : Connector} {u : Unit}
    (run : (finishAttempt success).run c = .ok u c') :
    { c with state := if success then .connected else .rejected }.SameAttempt c' := by
  obtain ⟨c'', ran, ended⟩ := finishAttempt_run success c
  rw [ran] at run
  cases run
  exact ended

/-! ## The continuations of a sweep -/

namespace Connector

variable {c : Connector} {k : Nat}

theorem continuation_moved_old (inside : k < c.continuations.size) :
    c.moved.continuations.getD k default = c.continuations.getD k default := by
  simp [moved, Array.getD_eq_getD_getElem?, Array.getElem?_push, Nat.ne_of_lt inside]

theorem continuation_moved_new :
    c.moved.continuations.getD c.continuations.size default = { attempt := c.attempt } := by
  simp [moved, Array.getD_eq_getD_getElem?]

theorem size_moved : c.moved.continuations.size = c.continuations.size + 1 := by
  simp [moved]

@[simp] theorem attempt_moved : c.moved.attempt = c.attempt := rfl

@[simp] theorem index_moved : c.moved.index = c.index + 1 := rfl

theorem continuation_used_self (inside : k < c.continuations.size) :
    ((c.used k).continuations.getD k default).called = true := by
  simp [used, Array.getD_eq_getD_getElem?, inside, Array.getElem_modify]

theorem continuation_used_other {j : Nat} (other : j ≠ k) :
    (c.used k).continuations.getD j default = c.continuations.getD j default := by
  simp [used, Array.getD_eq_getD_getElem?, Array.getElem?_modify, Ne.symm other]

theorem continuation_used_attempt (j : Nat) :
    ((c.used k).continuations.getD j default).attempt = (c.continuations.getD j default).attempt := by
  by_cases same : j = k
  · subst same
    simp only [used, Array.getD_eq_getD_getElem?, Array.getElem?_modify, if_true]
    cases c.continuations[j]? <;> rfl
  · rw [continuation_used_other same]

theorem size_used : (c.used k).continuations.size = c.continuations.size := by
  simp [used]

/-- A used continuation stays used when the attempt moves on or another one is used. -/
theorem called_moved (called : (c.continuations.getD k default).called = true) :
    (c.moved.continuations.getD k default).called = true := by
  by_cases inside : k < c.continuations.size
  · rwa [continuation_moved_old inside]
  · rw [Array.getD_eq_getD_getElem?, Array.getElem?_eq_none (Nat.le_of_not_lt inside)] at called
    exact absurd called (by decide)

theorem called_used {j : Nat} (called : (c.continuations.getD k default).called = true) :
    ((c.used j).continuations.getD k default).called = true := by
  by_cases same : k = j
  · subst same
    by_cases inside : k < c.continuations.size
    · exact continuation_used_self inside
    · rw [Array.getD_eq_getD_getElem?, Array.getElem?_eq_none (Nat.le_of_not_lt inside)] at called
      exact absurd called (by decide)
  · rwa [continuation_used_other same]

end Connector

/-- A sweep never makes a used continuation usable again. -/
theorem sweep_keeps_used : ∀ (fs : List (String × Option FilterAction)) (c c' : Connector) (u : Unit)
    (k : Nat), (sweep fs).run c = .ok u c' → (c.continuations.getD k default).called = true →
    (c'.continuations.getD k default).called = true
  | [], c, c', u, k, run, called => by
    rw [sweep] at run
    rw [(finishAttempt_ok run).continuations]
    exact called
  | (name, none) :: rest, c, c', u, k, run, called => by
    simp [sweep, EStateM.run_bind] at run
  | (name, some a) :: rest, c, c', u, k, run, called => by
    have moved := Connector.called_moved called
    cases a with
    | accept | twice _ | begin | set _ _ | delete _ =>
      -- the filter passes on, after its changes to the map, which leave the continuations alone
      simp only [sweep, EStateM.run_bind, EStateM.run_get, EStateM.run_modify, noteConnector] at run
      exact sweep_keeps_used rest _ c' u k run (Connector.called_used moved)
    | reject =>
      simp only [sweep, EStateM.run_bind, EStateM.run_get, EStateM.run_modify, noteConnector] at run
      rw [(finishAttempt_ok run).continuations]
      exact Connector.called_used moved
    | defer =>
      simp only [sweep, EStateM.run_bind, EStateM.run_get, EStateM.run_modify, noteConnector] at run
      cases run
      exact moved
    | unreadable m =>
      simp [sweep, EStateM.run_bind, noteConnector] at run
    | proceed success next =>
      simp only [sweep, EStateM.run_bind, EStateM.run_get, EStateM.run_modify, noteConnector,
        EStateM.run_pure] at run
      cases run
      exact moved

/-! ## The operations compute the sweep -/

/-- The connector once the filter at its position has started: the attempt has moved past it
and the filter has noted that it runs. -/
def Connector.started (c : Connector) (name : String) : Connector :=
  { c.moved with notes := c.moved.notes.push (.filtered name c.account c.current) }

theorem Connector.pending_started (c : Connector) (name : String) :
    (c.started name).Pending c.continuations.size := by
  have made := Connector.continuation_moved_new (c := c)
  exact ⟨by simp [Connector.started, made], by simp [Connector.started, Connector.moved]⟩

/-- With the steps it needs, an attempt in progress that advances on success sweeps through the
filters from its position on.

Proof: by induction on the filters left. A filter that passes on at once calls the
continuation it was just given, which is the pending one, and the attempt advances again with
three steps fewer; the repeat of a filter that passes twice finds its continuation used
(`sweep_keeps_used`), and the new attempt a filter asks for is refused while this one is in
progress. -/
theorem proceed_eq_sweep : ∀ (fs : List (String × Option FilterAction)) (c : Connector) (n : Nat),
    c.filtersFrom c.index = fs → c.chain.Continuing → c.state = .connecting →
    3 * fs.length + 1 ≤ n → (proceed n true).run c = (sweep fs).run c
  | [], c, n, next, _, connecting, enough => by
    obtain ⟨n, rfl⟩ : ∃ m, n = m + 1 := ⟨n - 1, by omega⟩
    rw [proceed_done c connecting next n, sweep]
  | (name, none) :: rest, c, n, next, _, connecting, enough => by
    obtain ⟨n, rfl⟩ : ∃ m, n = m + 1 := ⟨n - 1, by omega⟩
    rw [proceed_absent c connecting next n]
    simp [sweep, EStateM.run_bind]
  | (name, some a) :: rest, c, n, next, only, connecting, enough => by
    obtain ⟨r, rfl⟩ : ∃ r, n = r + 3 := ⟨n - 3, by simp only [List.length_cons] at enough; omega⟩
    rw [proceed_runFilter c connecting next (r + 2)]
    have more : 3 * rest.length + 1 ≤ r := by
      simp only [List.length_cons] at enough
      omega
    -- the pending continuation passing success lets the rest of the chain sweep
    have advance : ∀ d : Connector, d.usesChain = c.usesChain → d.chain = c.chain →
        d.index = c.index + 1 → d.state = .connecting → d.Pending c.continuations.size →
        (resume (r + 1) c.continuations.size true).run d =
          (sweep rest).run (d.used c.continuations.size) := by
      intro d uses chain moved connecting' pending
      rw [resume_pending d pending r true]
      have after : (d.used c.continuations.size).filtersFrom (d.used c.continuations.size).index =
          rest := by
        show d.filtersFrom d.index = rest
        rw [moved, Connector.filtersFrom_succ]
        unfold Connector.filtersFrom at next ⊢
        rw [uses, chain, next]
        rfl
      have continuing : (d.used c.continuations.size).chain.Continuing := by
        show d.chain.Continuing
        rw [chain]
        exact only
      exact proceed_eq_sweep rest _ r after continuing connecting' more
    have started := c.pending_started name
    -- what the filter does after noting that it runs, in the operations and in the sweep
    have filter : ∀ then_ : ConnectorM Unit, (do
        let c ← get
        noteConnector (.filtered name c.account c.current)
        then_ : ConnectorM Unit).run c.moved = then_.run (c.started name) := fun _ => rfl
    cases a with
    | accept =>
      calc (runFilter (r + 2) name .accept c.continuations.size).run c.moved
          = (resume (r + 1) c.continuations.size true).run (c.started name) := filter _
        _ = (sweep rest).run ((c.started name).used c.continuations.size) :=
          advance (c.started name) rfl rfl rfl connecting started
        _ = (sweep ((name, some .accept) :: rest)).run c := by
          simp only [sweep, EStateM.run_bind, EStateM.run_get, EStateM.run_modify, noteConnector]
          rfl
    | begin =>
      calc (runFilter (r + 2) name .begin c.continuations.size).run c.moved
          = (beginAttempt (r + 1) >>= fun _ => resume (r + 1) c.continuations.size true).run
              (c.started name) := filter _
        _ = (resume (r + 1) c.continuations.size true).run (c.started name) := by
          rw [EStateM.run_bind, beginAttempt_connecting (c.started name) connecting]
        _ = (sweep rest).run ((c.started name).used c.continuations.size) :=
          advance (c.started name) rfl rfl rfl connecting started
        _ = (sweep ((name, some .begin) :: rest)).run c := by
          simp only [sweep, EStateM.run_bind, EStateM.run_get, EStateM.run_modify, noteConnector]
          rfl
    | twice second =>
      calc (runFilter (r + 2) name (.twice second) c.continuations.size).run c.moved
          = (resume (r + 1) c.continuations.size true >>= fun _ =>
              resume (r + 1) c.continuations.size second).run (c.started name) := filter _
        _ = (sweep rest).run ((c.started name).used c.continuations.size) := by
          rw [EStateM.run_bind, advance (c.started name) rfl rfl rfl connecting started]
          cases swept : (sweep rest).run ((c.started name).used c.continuations.size) with
          | ok u c' =>
            -- the repeat finds the continuation used
            have used := sweep_keeps_used rest _ c' u _ swept
              (Connector.continuation_used_self (by simp [Connector.started, Connector.size_moved]))
            have stale : ¬ c'.Pending c.continuations.size := fun pending => by
              rw [pending.1] at used
              cases used
            exact resume_stale c' stale _ _
          | error e c' => rfl
        _ = (sweep ((name, some (.twice second)) :: rest)).run c := by
          simp only [sweep, EStateM.run_bind, EStateM.run_get, EStateM.run_modify, noteConnector]
          rfl
    | reject =>
      obtain ⟨r, rfl⟩ : ∃ m, r = m + 1 := ⟨r - 1, by omega⟩
      calc (runFilter (r + 1 + 2) name .reject c.continuations.size).run c.moved
          = (resume (r + 1 + 1) c.continuations.size false).run (c.started name) := filter _
        _ = (finishAttempt false).run ((c.started name).used c.continuations.size) := by
          rw [resume_pending _ started, proceed_failure ((c.started name).used c.continuations.size) connecting]
        _ = (sweep ((name, some .reject) :: rest)).run c := by
          simp only [sweep, EStateM.run_bind, EStateM.run_get, EStateM.run_modify, noteConnector]
          rfl
    | defer =>
      simp only [runFilter, sweep, EStateM.run_bind, EStateM.run_get, EStateM.run_modify,
        noteConnector]
    | set key value =>
      calc (runFilter (r + 2) name (.set key value) c.continuations.size).run c.moved
          = (resume (r + 1) c.continuations.size true).run
              { c.started name with current := (c.started name).current.set key value } := filter _
        _ = (sweep rest).run ({ c.started name with
              current := (c.started name).current.set key value }.used c.continuations.size) :=
          advance { c.started name with current := (c.started name).current.set key value }
            rfl rfl rfl connecting started
        _ = (sweep ((name, some (.set key value)) :: rest)).run c := by
          simp only [sweep, EStateM.run_bind, EStateM.run_get, EStateM.run_modify, noteConnector]
          rfl
    | delete key =>
      calc (runFilter (r + 2) name (.delete key) c.continuations.size).run c.moved
          = (resume (r + 1) c.continuations.size true).run
              { c.started name with current := (c.started name).current.erase key } := filter _
        _ = (sweep rest).run ({ c.started name with
              current := (c.started name).current.erase key }.used c.continuations.size) :=
          advance { c.started name with current := (c.started name).current.erase key }
            rfl rfl rfl connecting started
        _ = (sweep ((name, some (.delete key)) :: rest)).run c := by
          simp only [sweep, EStateM.run_bind, EStateM.run_get, EStateM.run_modify, noteConnector]
          rfl
    | unreadable m =>
      simp only [runFilter, sweep, EStateM.run_bind, EStateM.run_get, EStateM.run_modify,
        noteConnector]
    | proceed success then_ =>
      have member : (name, some (FilterAction.proceed success then_)) ∈ c.chain.filters :=
        Connector.mem_chain_of_mem_filtersFrom (by rw [next]; exact List.mem_cons_self)
      exact absurd rfl (only _ member success then_)

/-! ## Continuations in order -/

namespace Connector

/-- Whether no continuation of `c` is pending. -/
def Clear (c : Connector) : Prop :=
  ∀ k < c.continuations.size, ¬ c.Pending k

/-- The continuations of a connector are in order: none was made for a later attempt, the
attempt in progress made the last `index` of them, one for each filter it ran, only the last one
can be pending, and only while connecting, and every kept continuation exists. -/
structure Orderly (c : Connector) : Prop where
  attempts : ∀ k < c.continuations.size, (c.continuations.getD k default).attempt ≤ c.attempt
  position : c.index ≤ c.continuations.size
  current : ∀ k < c.continuations.size,
    (c.continuations.getD k default).attempt = c.attempt ↔ c.continuations.size - c.index ≤ k
  pending : ∀ k < c.continuations.size, c.Pending k →
    c.state = .connecting ∧ k + 1 = c.continuations.size
  kept : ∀ d ∈ c.deferred, d < c.continuations.size

variable {c c' : Connector} {k : Nat}

theorem pending_iff_of_same (same : c.SameAttempt c') : c'.Pending k ↔ c.Pending k := by
  simp only [Pending, same.attempt, same.continuations]

theorem Clear.of_same (clear : c.Clear) (same : c.SameAttempt c') : c'.Clear := by
  intro k inside pending
  rw [same.continuations] at inside
  exact clear k inside ((pending_iff_of_same same).1 pending)

theorem Orderly.of_same (orderly : c.Orderly) (same : c.SameAttempt c') : c'.Orderly where
  attempts := by rw [same.continuations, same.attempt]; exact orderly.attempts
  position := by rw [same.continuations, same.index]; exact orderly.position
  current := by rw [same.continuations, same.attempt, same.index]; exact orderly.current
  pending k inside pending := by
    rw [same.continuations] at inside ⊢
    rw [same.state]
    exact orderly.pending k inside ((pending_iff_of_same same).1 pending)
  kept := by rw [same.deferred, same.continuations]; exact orderly.kept

/-- Outside an attempt no continuation is pending. -/
theorem Orderly.clear (orderly : c.Orderly) (idle : c.state ≠ .connecting) : c.Clear :=
  fun k inside pending => idle (orderly.pending k inside pending).1

/-- With no continuation pending, the state of the connection does not matter. -/
theorem Orderly.with_state (orderly : c.Orderly) (clear : c.Clear) (state : ConnectionState) :
    { c with state }.Orderly where
  attempts := orderly.attempts
  position := orderly.position
  current := orderly.current
  pending k inside pending := absurd pending (clear k inside)
  kept := orderly.kept

/-- A new attempt finds no continuation made for it. -/
theorem Orderly.restarted (orderly : c.Orderly) : c.restarted.Orderly ∧ c.restarted.Clear := by
  have older : ∀ k < c.continuations.size,
      (c.continuations.getD k default).attempt ≠ c.attempt + 1 := fun k inside => by
    have := orderly.attempts k inside
    omega
  have clear : c.restarted.Clear := fun k inside pending => older k inside pending.2
  refine ⟨⟨fun k inside => ?_, Nat.zero_le _, fun k inside => ?_, fun k inside pending => ?_,
    orderly.kept⟩, clear⟩
  · exact Nat.le_succ_of_le (orderly.attempts k inside)
  · have below : k < c.continuations.size := inside
    exact iff_of_false (older k inside) (by show ¬ c.continuations.size - 0 ≤ k; omega)
  · exact absurd pending (clear k inside)

/-- The filter at the attempt's position gets the one pending continuation. -/
theorem Orderly.moved (orderly : c.Orderly) (clear : c.Clear) (connecting : c.state = .connecting) :
    c.moved.Orderly ∧ c.moved.Pending c.continuations.size := by
  have fresh : c.moved.Pending c.continuations.size := by
    unfold Pending
    rw [continuation_moved_new]
    exact ⟨rfl, rfl⟩
  refine ⟨⟨fun k inside => ?_, ?_, fun k inside => ?_, fun k inside pending => ?_, ?_⟩, fresh⟩
  · rw [size_moved] at inside
    rcases Nat.lt_succ_iff_lt_or_eq.mp inside with old | rfl
    · rw [continuation_moved_old old]
      exact orderly.attempts k old
    · rw [continuation_moved_new]
      exact Nat.le_refl _
  · rw [size_moved, index_moved]
    exact Nat.succ_le_succ orderly.position
  · rw [size_moved] at inside
    rw [size_moved, attempt_moved, index_moved, Nat.add_sub_add_right]
    rcases Nat.lt_succ_iff_lt_or_eq.mp inside with old | rfl
    · rw [continuation_moved_old old]
      exact orderly.current k old
    · rw [continuation_moved_new]
      exact iff_of_true rfl (Nat.sub_le _ _)
  · rw [size_moved] at inside ⊢
    rcases Nat.lt_succ_iff_lt_or_eq.mp inside with old | rfl
    · have earlier : c.Pending k := by
        simpa [Pending, continuation_moved_old old] using pending
      exact absurd earlier (clear k old)
    · exact ⟨connecting, rfl⟩
  · intro d kept
    rw [size_moved]
    exact Nat.lt_succ_of_lt (orderly.kept d kept)

/-- Using the pending continuation leaves none pending. -/
theorem Orderly.used (orderly : c.Orderly) (inside : k < c.continuations.size)
    (pending : c.Pending k) : (c.used k).Orderly ∧ (c.used k).Clear := by
  have last := (orderly.pending k inside pending).2
  have clear : (c.used k).Clear := by
    intro j within later
    by_cases same : j = k
    · subst same
      have called := continuation_used_self (c := c) inside
      rw [later.1] at called
      cases called
    · have earlier : c.Pending j := by
        unfold Pending at later ⊢
        rw [continuation_used_other same] at later
        exact later
      rw [size_used] at within
      have := (orderly.pending j within earlier).2
      omega
  refine ⟨⟨fun j within => ?_, ?_, fun j within => ?_, fun j within later => ?_, ?_⟩, clear⟩
  · rw [size_used] at within
    rw [continuation_used_attempt]
    exact orderly.attempts j within
  · rw [size_used]
    exact orderly.position
  · rw [size_used] at within ⊢
    rw [continuation_used_attempt]
    exact orderly.current j within
  · exact absurd later (clear j within)
  · rw [size_used]
    exact orderly.kept

/-- A kept continuation that exists keeps the continuations in order. -/
theorem Orderly.keep (orderly : c.Orderly) (inside : k < c.continuations.size) :
    { c with deferred := c.deferred.push k }.Orderly where
  attempts := orderly.attempts
  position := orderly.position
  current := orderly.current
  pending := orderly.pending
  kept d member := by
    rcases Array.mem_push.mp member with old | rfl
    · exact orderly.kept d old
    · exact inside

end Connector

/-! ## Steady connectors -/

/-- The connector a run leaves, whether it returned or stopped with a fault. -/
def Connector.ofResult {α : Type} : EStateM.Result Fault Connector α → Connector
  | .ok _ c => c
  | .error _ c => c

@[simp] theorem Connector.ofResult_ok {α : Type} (a : α) (c : Connector) :
    Connector.ofResult (.ok a c : EStateM.Result Fault Connector α) = c := rfl

@[simp] theorem Connector.ofResult_error {α : Type} (e : Fault) (c : Connector) :
    Connector.ofResult (.error e c : EStateM.Result Fault Connector α) = c := rfl

/-- A connector between top-level steps: its continuations are in order, and every filter of its
chain passes on only through its continuation. -/
structure Connector.Steady (c : Connector) : Prop where
  orderly : c.Orderly
  continuing : c.chain.Continuing

section Steady

variable {c c' : Connector}

theorem Connector.Steady.of_same (steady : c.Steady) (same : c.SameAttempt c') : c'.Steady :=
  ⟨steady.orderly.of_same same, by rw [same.chain]; exact steady.continuing⟩

/-- An attempt's end leaves a steady connector with nothing pending steady. -/
theorem finishAttempt_steady (steady : c.Steady) (clear : c.Clear) (success : Bool) :
    (Connector.ofResult ((finishAttempt success).run c)).Steady := by
  obtain ⟨c', run, same⟩ := finishAttempt_run success c
  rw [run]
  exact Connector.Steady.of_same
    ⟨steady.orderly.with_state clear (if success then .connected else .rejected),
      steady.continuing⟩ same

end Steady

/-- A sweep of an attempt in progress with no continuation pending leaves the connector steady,
whether it returns or stops with a fault.

Proof: along the sweep. Each filter gets the one pending continuation (`Orderly.moved`) and
either uses it at once (`Orderly.used`), keeps it (`Orderly.keep`), or stops the step. -/
theorem sweep_steady : ∀ (fs : List (String × Option FilterAction)) (c : Connector), c.Steady →
    c.Clear → c.state = .connecting → (Connector.ofResult ((sweep fs).run c)).Steady
  | [], c, steady, clear, _ => finishAttempt_steady steady clear true
  | (name, none) :: _, c, steady, clear, connecting =>
    ⟨(steady.orderly.moved clear connecting).1, steady.continuing⟩
  | (name, some a) :: rest, c, steady, clear, connecting => by
    obtain ⟨moved, pending⟩ := steady.orderly.moved clear connecting
    have started : (c.started name).Orderly := moved.of_same ⟨rfl, rfl, rfl, rfl, rfl, rfl⟩
    -- a filter that passes on at once uses the pending continuation, after its changes
    have passed : ∀ d : Connector, c.moved.SameAttempt d →
        (d.used c.continuations.size).Steady ∧ (d.used c.continuations.size).Clear ∧
          (d.used c.continuations.size).state = .connecting := by
      intro d same
      have inside : c.continuations.size < d.continuations.size := by
        rw [same.continuations, Connector.size_moved]
        exact Nat.lt_succ_self _
      obtain ⟨orderly, clear'⟩ :=
        (moved.of_same same).used inside ((Connector.pending_iff_of_same same).2 pending)
      refine ⟨⟨orderly, ?_⟩, clear', ?_⟩
      · show d.chain.Continuing
        rw [same.chain]
        exact steady.continuing
      · show d.state = .connecting
        rw [same.state]
        exact connecting
    cases a with
    | accept | twice _ | begin =>
      obtain ⟨steady', clear', connecting'⟩ := passed (c.started name) ⟨rfl, rfl, rfl, rfl, rfl, rfl⟩
      exact sweep_steady rest _ steady' clear' connecting'
    | set key value =>
      obtain ⟨steady', clear', connecting'⟩ :=
        passed { c.started name with current := (c.started name).current.set key value }
          ⟨rfl, rfl, rfl, rfl, rfl, rfl⟩
      exact sweep_steady rest _ steady' clear' connecting'
    | delete key =>
      obtain ⟨steady', clear', connecting'⟩ :=
        passed { c.started name with current := (c.started name).current.erase key }
          ⟨rfl, rfl, rfl, rfl, rfl, rfl⟩
      exact sweep_steady rest _ steady' clear' connecting'
    | reject =>
      obtain ⟨steady', clear', -⟩ := passed (c.started name) ⟨rfl, rfl, rfl, rfl, rfl, rfl⟩
      exact finishAttempt_steady steady' clear' false
    | defer =>
      have inside : c.continuations.size < (c.started name).continuations.size :=
        Connector.size_moved (c := c) ▸ Nat.lt_succ_self _
      exact Connector.Steady.of_same ⟨started.keep inside, steady.continuing⟩
        ⟨rfl, rfl, rfl, rfl, rfl, rfl⟩
    | unreadable m => exact ⟨started, steady.continuing⟩
    | proceed success then_ => exact ⟨started, steady.continuing⟩

/-! ## The operations compute the sweep -/

theorem Connector.length_filtersFrom_le (c : Connector) (i : Nat) :
    (c.filtersFrom i).length ≤ c.chain.size := by
  unfold filtersFrom Chain.size
  split
  · rw [List.length_drop]
    exact Nat.sub_le _ _
  · exact Nat.zero_le _

/-- With the steps of a top-level step, a new attempt sweeps the whole chain on a fresh copy of
the account's parameters. -/
theorem beginAttempt_eq {c : Connector} (continuing : c.chain.Continuing)
    (idle : c.state ≠ .connecting) {n : Nat} (enough : stepBudget c ≤ n) :
    (beginAttempt n).run c = (sweep (c.restarted.filtersFrom 0)).run c.restarted := by
  unfold stepBudget at enough
  obtain ⟨m, rfl⟩ : ∃ m, n = m + 1 := ⟨n - 1, by omega⟩
  rw [beginAttempt_idle c idle m]
  have within : (c.restarted.filtersFrom 0).length ≤ c.chain.size :=
    c.restarted.length_filtersFrom_le 0
  exact proceed_eq_sweep _ c.restarted m rfl continuing rfl (by omega)

/-- With the steps of a top-level step, the continuation the attempt waits on continues the
sweep after its filter when it passes success and ends the attempt rejected when it passes
failure; any other continuation changes nothing. -/
theorem resume_eq {c : Connector} (steady : c.Steady) {k n : Nat}
    (inside : k < c.continuations.size) (enough : stepBudget c ≤ n) (success : Bool) :
    (resume n k success).run c =
      if c.Pending k then
        (if success then sweep (c.filtersFrom c.index) else finishAttempt false).run (c.used k)
      else .ok () c := by
  unfold stepBudget at enough
  obtain ⟨m, rfl⟩ : ∃ m, n = m + 1 := ⟨n - 1, by omega⟩
  by_cases pending : c.Pending k
  · have connecting := (steady.orderly.pending k inside pending).1
    rw [if_pos pending, resume_pending c pending m success]
    cases success with
    | false =>
      obtain ⟨j, rfl⟩ : ∃ j, m = j + 1 := ⟨m - 1, by omega⟩
      exact proceed_failure (c.used k) connecting j
    | true =>
      have within := c.length_filtersFrom_le c.index
      exact proceed_eq_sweep _ (c.used k) m rfl steady.continuing connecting (by omega)
  · rw [if_neg pending]
    exact resume_stale c pending _ success

/-- Once an attempt has ended, no continuation changes anything until the next one starts. -/
theorem resume_after_end {c : Connector} (steady : c.Steady) (idle : c.state ≠ .connecting)
    {k : Nat} (inside : k < c.continuations.size) (n : Nat) (success : Bool) :
    (resume n k success).run c = .ok () c :=
  resume_stale c (steady.orderly.clear idle k inside) n success

/-! ## Every step of a session keeps the connector steady -/

/-- From every steady connector satisfying `pre`, a run of `x` leaves a steady connector, whether
it returns or stops with a fault. -/
def Steadies {α : Type} (pre : Connector → Prop) (x : ConnectorM α) : Prop :=
  ∀ c : Connector, pre c → c.Steady → (Connector.ofResult (x.run c)).Steady

namespace Steadies

variable {α β : Type} {pre : Connector → Prop} {x : ConnectorM α}

theorem bind {f : α → ConnectorM β} (first : Steadies pre x)
    (rest : ∀ a, Steadies (fun _ => True) (f a)) : Steadies pre (x >>= f) := by
  intro c holds steady
  have left := first c holds steady
  rw [EStateM.run_bind]
  cases run : x.run c with
  | ok a c₁ =>
    rw [run] at left
    exact rest a c₁ trivial left
  | error e c₁ =>
    rw [run] at left
    exact left

/-- What follows a read of the connector runs on the connector read. -/
theorem of_get_bind {f : Connector → ConnectorM β} (each : ∀ c, pre c → Steadies (· = c) (f c)) :
    Steadies pre (get >>= f) := by
  intro c holds steady
  rw [EStateM.run_bind, EStateM.run_get]
  exact each c holds c rfl steady

theorem weaken {pre' : Connector → Prop} (run : Steadies pre x)
    (implies : ∀ c, pre' c → c.Steady → pre c) : Steadies pre' x :=
  fun c holds steady => run c (implies c holds steady) steady

theorem of_quiet (quiet : Quiet x) : Steadies pre x := by
  intro c _ steady
  obtain ⟨a, c', run, same⟩ := quiet c
  rw [run]
  exact steady.of_same same

theorem of_pure (a : α) : Steadies pre (pure a : ConnectorM α) := of_quiet (Quiet.of_pure a)

theorem of_throw (e : Fault) : Steadies pre (throw e : ConnectorM α) := fun _ _ steady => steady

theorem of_modify {g : Connector → Connector} (keeps : ∀ c : Connector, c.SameAttempt (g c)) :
    Steadies pre (modify g : ConnectorM Unit) := of_quiet (Quiet.of_modify keeps)

end Steadies

/-- A new attempt, given the steps of a top-level step, keeps the connector steady. -/
theorem steadies_beginAttempt (n : Nat) : Steadies (stepBudget · ≤ n) (beginAttempt n) := by
  intro c enough steady
  by_cases connecting : c.state = .connecting
  · rw [beginAttempt_connecting c connecting]
    exact steady
  · rw [beginAttempt_eq steady.continuing connecting enough]
    obtain ⟨orderly, clear⟩ := steady.orderly.restarted
    exact sweep_steady _ _ ⟨orderly, steady.continuing⟩ clear rfl

/-- A call of an existing continuation, given the steps of a top-level step, keeps the connector
steady. -/
theorem steadies_resume (n k : Nat) (success : Bool) :
    Steadies (fun c => stepBudget c ≤ n ∧ k < c.continuations.size) (resume n k success) := by
  intro c ⟨enough, inside⟩ steady
  rw [resume_eq steady inside enough]
  by_cases pending : c.Pending k
  · rw [if_pos pending]
    obtain ⟨orderly, clear⟩ := steady.orderly.used inside pending
    have used : (c.used k).Steady := ⟨orderly, steady.continuing⟩
    cases success with
    | false => exact finishAttempt_steady used clear false
    | true => exact sweep_steady _ _ used clear (steady.orderly.pending k inside pending).1
  · rw [if_neg pending]
    exact steady

theorem Chain.Continuing.register {ch : Chain FilterAction} (continuing : ch.Continuing)
    (name : String) {f : Option FilterAction} (plain : ∀ success next, f ≠ some (.proceed success next)) :
    (ch.register name f).Continuing := by
  intro e member
  unfold Chain.register at member
  split at member
  · obtain ⟨e', old, rfl⟩ := List.mem_map.mp member
    split
    · exact plain
    · exact continuing e' old
  · rcases List.mem_append.mp member with old | new
    · exact continuing e old
    · rw [List.mem_singleton.mp new]
      exact plain

/-- Registering a filter that passes on only through its continuation keeps the connector
steady. -/
theorem steadies_register {pre : Connector → Prop} (name : String) {f : Option FilterAction}
    (plain : ∀ success next, f ≠ some (.proceed success next)) :
    Steadies pre (modify fun c : Connector => { c with chain := c.chain.register name f }) :=
  fun _ _ steady => ⟨⟨steady.orderly.attempts, steady.orderly.position, steady.orderly.current,
    steady.orderly.pending, steady.orderly.kept⟩, steady.continuing.register name plain⟩

/-- Whether a session step advances an attempt other than through a continuation: a `proceed`
step, or the registration of a filter whose script does. -/
def AdvancesDirectly (j : Json) : Prop :=
  kindOf j = "proceed" ∨
    kindOf j = "register" ∧ ∃ success next, decodeFilter j = .ok (some (.proceed success next))

/-- Every step of a connector session that advances attempts only through `Begin` and
continuations keeps the connector steady, whether it returns or stops with a fault.

Proof: one case for each kind of step. Starting an attempt and calling a kept continuation run
the sweep (`steadies_beginAttempt`, `steadies_resume`); the other steps only take notes or change
what attempts do not read, and a registered filter continues like the others. -/
theorem connectorStep_steadies (labels : HandlerLabels) (j : Json) (plain : ¬ AdvancesDirectly j) :
    Steadies (fun _ => True) (connectorStep labels j) := by
  have budgeted : ∀ c : Connector, Steadies (· = c) (beginAttempt (stepBudget c)) :=
    fun c => (steadies_beginAttempt _).weaken fun _ same _ => same ▸ Nat.le_refl _
  unfold connectorStep
  dsimp only
  by_cases begin : (kindOf j == "begin") = true
  · rw [if_pos begin]
    exact .of_get_bind fun c _ => (budgeted c).bind fun _ => .of_pure _
  rw [if_neg begin]
  by_cases online : (kindOf j == "request_online") = true
  · rw [if_pos online]
    split
    · exact .of_pure _
    · refine (Steadies.of_modify ?_).bind fun _ => ?_
      · exact fun _ => ⟨rfl, rfl, rfl, rfl, rfl, rfl⟩
      · exact .of_get_bind fun c _ => (budgeted c).bind fun _ => .of_pure _
  rw [if_neg online]
  by_cases direct : (kindOf j == "proceed") = true
  · exact absurd (Or.inl (beq_iff_eq.mp direct)) plain
  rw [if_neg direct]
  by_cases later : (kindOf j == "continue") = true
  · rw [if_pos later]
    split
    · refine .of_get_bind fun c _ => ?_
      split
      · rename_i cont found
        split
        · exact .of_pure _
        · refine .of_get_bind fun d read => ?_
          refine ((steadies_resume _ cont _).weaken fun e same steady => ?_).bind fun _ => .of_pure _
          subst same read
          exact ⟨Nat.le_refl _, steady.orderly.kept cont (Array.mem_of_getElem? found)⟩
      · exact .of_pure _
    · exact .of_pure _
    · exact .of_pure _
  rw [if_neg later]
  by_cases managed : (kindOf j == "manager_done") = true
  · rw [if_pos managed]
    split
    · refine .of_get_bind fun c _ => ?_
      split
      · exact .of_pure _
      · exact (Steadies.of_quiet (quiet_completeOnline _)).bind fun _ => .of_pure _
    · exact .of_pure _
    · exact .of_pure _
  rw [if_neg managed]
  by_cases registering : (kindOf j == "register") = true
  · rw [if_pos registering]
    split
    · rename_i name f _ decoded
      have plain' : ∀ success next, f ≠ some (.proceed success next) := by
        rintro success next rfl
        exact plain (Or.inr ⟨beq_iff_eq.mp registering, success, next, decoded⟩)
      exact (steadies_register name plain').bind fun _ => .of_pure _
    · exact .of_pure _
    · exact .of_pure _
  rw [if_neg registering]
  by_cases listening : (kindOf j == "on_process") = true
  · rw [if_pos listening]
    split
    · exact .of_pure _
    · refine (Steadies.of_quiet fun c => ⟨_, _, EStateM.run_modifyGet _ c, ?_⟩).bind fun _ =>
        .of_pure _
      exact ⟨rfl, rfl, rfl, rfl, rfl, rfl⟩
  rw [if_neg listening]
  by_cases leaving : (kindOf j == "off_process") = true
  · rw [if_pos leaving]
    split
    · exact .of_pure _
    · refine (Steadies.of_modify ?_).bind fun _ => .of_pure _
      exact fun _ => ⟨rfl, rfl, rfl, rfl, rfl, rfl⟩
  rw [if_neg leaving]
  by_cases setting : (kindOf j == "set_param") = true
  · rw [if_pos setting]
    split
    · refine .of_get_bind fun c _ => ?_
      split
      · refine (Steadies.of_modify ?_).bind fun _ => .of_pure _
        exact fun _ => ⟨rfl, rfl, rfl, rfl, rfl, rfl⟩
      · exact .of_throw _
    · exact .of_pure _
    · exact .of_pure _
  rw [if_neg setting]
  exact .of_pure _

/-! ## Sessions -/

/-- The connector a session reaches after its steps. -/
def Connector.reached (c : Connector) (labels : HandlerLabels) : List Json → Connector
  | [] => c
  | j :: rest => (connectorTurn c labels j).2.reached (connectorTurn c labels j).1.1 rest

theorem connectorTurn_connector (c : Connector) (labels : HandlerLabels) (j : Json) :
    (connectorTurn c labels j).2 =
      Connector.ofResult ((connectorStep labels j).run { c with notes := #[] }) := by
  unfold connectorTurn
  cases (connectorStep labels j).run { c with notes := #[] } with
  | ok v c' => rfl
  | error e c' => cases e <;> rfl

/-- A connector as a session sets it up, before any attempt, is steady when its chain continues. -/
theorem Connector.steady_fresh {c : Connector} (fresh : c.continuations = #[])
    (nothingKept : c.deferred = #[]) (start : c.index = 0) (continuing : c.chain.Continuing) :
    c.Steady := by
  have none : ∀ k, ¬ k < c.continuations.size := fun k => by
    rw [fresh]
    exact Nat.not_lt_zero k
  have noneKept : ∀ d, d ∉ c.deferred := fun d => by
    rw [nothingKept]
    exact Array.not_mem_empty d
  exact ⟨⟨fun k inside => absurd inside (none k), by rw [start]; exact Nat.zero_le _,
    fun k inside => absurd inside (none k), fun k inside => absurd inside (none k),
    fun d kept => absurd kept (noneKept d)⟩, continuing⟩

/-- Every connector a session reaches through steps that advance attempts only through `Begin`
and continuations is steady. -/
theorem Connector.Steady.reached {c : Connector} (steady : c.Steady) (labels : HandlerLabels)
    (steps : List Json) (plain : ∀ j ∈ steps, ¬ AdvancesDirectly j) :
    (c.reached labels steps).Steady := by
  induction steps generalizing c labels with
  | nil => exact steady
  | cons j rest ih =>
    have turned : (connectorTurn c labels j).2.Steady := by
      rw [connectorTurn_connector]
      exact connectorStep_steadies labels j (plain j List.mem_cons_self) _ trivial
        (steady.of_same ⟨rfl, rfl, rfl, rfl, rfl, rfl⟩)
    exact ih turned _ fun j' member => plain j' (List.mem_cons_of_mem _ member)

end MissionControl.Account
