import MissionControl.Proofs.Hub.Registering

/-!
# What the registry hears from the bus daemon

The registry asks the bus daemon for the names with an owner when it starts, and for the names
that can be activated once it has read those. A reply lists names, each of which the registry
sights (`Route.hearings`). A scripted bus may answer a call as soon as it is made: the registry
then hears the reply within the operation that made the call (`Route.callHearings`), and, after
the names with an owner, the activatable names too if those are answered on the spot as well
(`heardListing`).

From a driven registry, each of these operations moves the roll as the roll machine moves on
what the registry hears (`Roll.run`).
-/

set_option autoImplicit false

namespace MissionControl.Hub

/-- The names a listing reply lists; a failed one lists none. -/
def listedNames (result : Except String (List String)) : List String :=
  match result with
  | .ok xs => xs
  | .error _ => []

/-- What the registry hears of a listing by `method` if the bus answers it on the spot: the
names listed, activatable or not. -/
def heardListing (b : Bus.Scripted Route Listener) (method : String) (act : Bool) : List Hearing :=
  match b.responderFor? Bus.daemonName method with
  | some resp => [.listed act (listedNames (resp.answer []).strings?)]
  | none => []

namespace Route

/-- What the registry hears from answer `a` to a call of this route: the names with an owner,
followed by the activatable ones if the bus answers that listing on the spot; or the activatable
names. Other replies tell it nothing. -/
def hearings (b : Bus.Scripted Route Listener) (a : Bus.Answer) : Route → List Hearing
  | .names => .listed false (listedNames a.strings?) :: heardListing b Bus.listActivatableMethod true
  | .activatableNames => [.listed true (listedNames a.strings?)]
  | _ => []

/-- What the registry hears from a call of this route to `dest`: nothing until it is answered,
unless a responder answers it on the spot. -/
def callHearings (b : Bus.Scripted Route Listener) (dest method : String) (args : List Value)
    (route : Route) : List Hearing :=
  match b.responderFor? dest method with
  | some resp => route.hearings b (resp.answer args)
  | none => []

end Route

section Responders

variable {b b' : Bus.Scripted Route Listener} (same : b'.responders = b.responders)
include same

/-- What the registry hears from the bus depends on its responders alone. -/
theorem heardListing_of_responders (method : String) (act : Bool) :
    heardListing b' method act = heardListing b method act := by
  simp only [heardListing, Bus.Scripted.responderFor?, same]

theorem Route.hearings_of_responders (a : Bus.Answer) (route : Route) :
    route.hearings b' a = route.hearings b a := by
  cases route <;> simp only [Route.hearings, heardListing_of_responders same]

theorem Route.callHearings_of_responders (dest method : String) (args : List Value) (route : Route) :
    route.callHearings b' dest method args = route.callHearings b dest method args := by
  simp only [Route.callHearings, Bus.Scripted.responderFor?, same,
    Route.hearings_of_responders same]

end Responders

theorem heardListing_listed (b : Bus.Scripted Route Listener) (method : String) (act : Bool) :
    ∀ x ∈ heardListing b method act, ∃ act' names, x = .listed act' names := by
  unfold heardListing
  split
  · intro x member
    rw [List.mem_singleton.mp member]
    exact ⟨_, _, rfl⟩
  · intro x member
    cases member

theorem callHearings_activatable (b : Bus.Scripted Route Listener) :
    Route.activatableNames.callHearings b Bus.daemonName Bus.listActivatableMethod [] =
      heardListing b Bus.listActivatableMethod true := by
  unfold Route.callHearings heardListing
  split <;> rfl

variable {pre : String} {R : Roll} {rs : List (String × Bus.Responder)}

namespace World.Driving

variable {h : World}

/-- A call recorded on the bus of a driven registry, which asks for names only once started. -/
theorem record (driving : h.Driving pre R rs) (dest path method : String) (args : List Value)
    (route : Route) (asked : route.asksNames = true → R.started = true) :
    World.Driving pre R rs { h with bus := (h.bus.record dest path method args route).1 } := by
  obtain ⟨r, present, -, -, rfl⟩ := driving.registry
  refine ⟨driving.watches.transfer (.of_same rfl rfl rfl rfl rfl),
    driving.roster.record dest path method args fun asks r' present' => ?_, driving.roll,
    driving.responders⟩
  rw [present, Option.some.injEq] at present'
  subst present'
  exact asked asks

theorem markAnswered (driving : h.Driving pre R rs) (i : Nat) :
    World.Driving pre R rs { h with bus := h.bus.markAnswered i } :=
  driving.transfer (h.sameView_markAnswered i) (.of_same rfl rfl rfl rfl rfl)

/-- A started registry that asks for names has started. -/
theorem asked (driving : h.Driving pre R rs) {i : Nat} (inside : i < h.bus.calls.size)
    (asks : (h.bus.calls.getD i default).route.asksNames = true) : R.started = true := by
  obtain ⟨r, present, -, -, rfl⟩ := driving.registry
  exact driving.roster.asked i inside asks r present

end World.Driving

/-! ## Listings read -/

/-- The registry reads the activatable names: while it is open it sights each as activatable,
then releases the first share of its startup lock. -/
theorem activatableListed_roll {n : Nat} {result : Except String (List String)} {h h' : World}
    (driving : h.Driving pre R rs) (started : R.started = true)
    (run : (activatableListed n result).run h = .ok () h') :
    h'.Driving pre (Roll.step (Roll.admits pre) R (.listed true (listedNames result))) rs := by
  have watches : h'.Watches false [] :=
    ((Hub.watches false).kept n).activatableListed [] result rfl (driving.watches.push rfl) run
  cases n with
  | zero => simp [activatableListed] at run
  | succ m =>
  obtain ⟨r, present, -, -, rfl⟩ := driving.registry
  unfold activatableListed at run
  simp only [bind_ok, run_registry?, present, EStateM.Result.ok.injEq, exists_returned] at run
  split at run
  · -- a closed registry reads nothing
    rename_i closed
    rw [ok_pure run, Roll.step_listed_of_shut _ (by simp [Roll.isOpen, closed])]
    exact driving
  · rename_i open'
    have opened : ({ started := r.started, closed := r.closed, members := r.members h } : Roll).isOpen =
        true := Roll.isOpen_iff.mpr ⟨started, by simpa using open'⟩
    -- the names read, a failed listing having been noted, are sighted
    have tail : ∀ h₁ : World, h₁.Driving pre { started := r.started, closed := r.closed, members := r.members h } rs →
        (do registerEach m (listedNames result) "" true; releaseStartupLock : HubM Unit).run h₁ = .ok () h' →
        h'.Driving pre (Roll.step (Roll.admits pre)
          { started := r.started, closed := r.closed, members := r.members h }
          (.listed true (listedNames result))) rs := by
      intro h₁ driving₁ rest
      obtain ⟨⟨⟩, h₂, registered, released⟩ := bind_ok.mp rest
      have driving₂ := registerEach_roll m (listedNames result) "" true ⟨driving₁, opened⟩ registered
      rw [Roll.step_listed_of_open _ opened]
      exact driving₂.transfer (keepsView_releaseStartupLock h₂ () h' released)
        (stays_releaseStartupLock h₂ () h' released)
    split at run
    · obtain ⟨⟨⟩, h₁, noted, rest⟩ := bind_ok.mp run
      exact tail h₁ (driving.transfer (keepsView_note _ h () h₁ noted) (stays_anyNote _ h () h₁ noted)) rest
    · exact tail h driving run

/-! ## Calls answered -/

/-- A call answered is marked answered, once; a reply listing names goes to the registry. -/
theorem answerCall_listing {n i : Nat} {a : Bus.Answer} {h h' : World}
    (run : (answerCall (n + 1) i a).run h = .ok () h') :
    ((h.bus.calls.getD i default).route = .names →
      (namesListed n a.strings?).run { h with bus := h.bus.markAnswered i } = .ok () h') ∧
    ((h.bus.calls.getD i default).route = .activatableNames →
      (activatableListed n a.strings?).run { h with bus := h.bus.markAnswered i } = .ok () h') := by
  simp only [answerCall, bind_ok, run_get, EStateM.Result.ok.injEq, exists_returned] at run
  cases twice : (h.bus.calls.getD i default).answered with
  | true =>
    simp only [twice, ↓reduceIte] at run
    obtain ⟨_, _, thrown, -⟩ := bind_ok.mp run
    exact absurd thrown throw_not_ok
  | false =>
    simp only [twice, Bool.false_eq_true, ↓reduceIte, bind_ok, run_modify,
      EStateM.Result.ok.injEq, exists_returned_unit] at run
    refine ⟨fun route => ?_, fun route => ?_⟩ <;> simpa only [route] using run

theorem record_route (b : Bus.Scripted Route Listener) (dest path method : String) (args : List Value)
    (route : Route) : ((b.record dest path method args route).1.calls.getD b.calls.size default).route = route := by
  simp [Bus.Scripted.record]

theorem responderFor?_record (b : Bus.Scripted Route Listener) (dest path method : String)
    (args : List Value) (route : Route) (dest' method' : String) :
    (b.record dest path method args route).1.responderFor? dest' method' = b.responderFor? dest' method' :=
  rfl

/-- A call made without a transport is recorded, and answered on the spot by a responder for it,
if there is one. -/
theorem call_recorded {n : Nat} {dest path method : String} {args : List Value} {route : Route}
    {h h' : World} (unlinked : h.link = none)
    (run : (call (n + 1) dest path method args route).run h = .ok () h') :
    (∀ resp, h.bus.responderFor? dest method = some resp →
      (answerCall n h.bus.calls.size (resp.answer args)).run
        { h with bus := (h.bus.record dest path method args route).1 } = .ok () h') ∧
    (h.bus.responderFor? dest method = none →
      h' = { h with bus := (h.bus.record dest path method args route).1 }) := by
  simp only [call, bind_ok, run_modifyGet, run_get, EStateM.Result.ok.injEq, exists_returned] at run
  split at run
  · rename_i linked
    simp [unlinked] at linked
  simp only [bind_ok, run_get, EStateM.Result.ok.injEq, exists_returned, responderFor?_record] at run
  refine ⟨fun resp answering => ?_, fun silent => ?_⟩
  · simp only [answering] at run
    exact run
  · simp only [silent] at run
    exact ok_pure run

/-- The activatable names arrive in answer to the registry's call for them. -/
theorem answerCall_activatable {n i : Nat} {a : Bus.Answer} {h h' : World}
    (driving : h.Driving pre R rs) (inside : i < h.bus.calls.size)
    (route : (h.bus.calls.getD i default).route = .activatableNames)
    (run : (answerCall n i a).run h = .ok () h') :
    h'.Driving pre (Roll.step (Roll.admits pre) R (.listed true (listedNames a.strings?))) rs := by
  cases n with
  | zero => simp [answerCall] at run
  | succ m =>
    exact activatableListed_roll (driving.markAnswered i) (driving.asked inside (by rw [route]; rfl))
      ((answerCall_listing run).2 route)

/-- A call of a driven registry, made without a transport, which asks for names only once
started: it is heard as its route hears the answer of a responder for it, on the spot, if the
answer to the call just recorded is. -/
theorem call_heard {n : Nat} {dest path method : String} {args : List Value} {route : Route}
    {h h' : World} (driving : h.Driving pre R rs) (asked : route.asksNames = true → R.started = true)
    (answers : ∀ {m : Nat} {a : Bus.Answer} {h₁ h₂ : World}, h₁.Driving pre R rs →
      h.bus.calls.size < h₁.bus.calls.size →
      (h₁.bus.calls.getD h.bus.calls.size default).route = route →
      (answerCall m h.bus.calls.size a).run h₁ = .ok () h₂ →
      h₂.Driving pre (Roll.run (Roll.admits pre) R (route.hearings h₁.bus a)) rs)
    (run : (call n dest path method args route).run h = .ok () h') :
    h'.Driving pre (Roll.run (Roll.admits pre) R (route.callHearings h.bus dest method args)) rs := by
  cases n with
  | zero => simp [call] at run
  | succ m =>
  have recorded := driving.record dest path method args route asked
  obtain ⟨answered, silent⟩ := call_recorded driving.roster.unlinked run
  unfold Route.callHearings
  split
  · rename_i resp answering
    have heard := answers recorded (by simp [Bus.Scripted.record]) (record_route ..) (answered resp answering)
    have same : (h.bus.record dest path method args route).1.responders = h.bus.responders := rfl
    rwa [Route.hearings_of_responders same] at heard
  · rename_i unanswered
    rw [silent unanswered]
    exact recorded

/-- A driven registry, started, asks for the activatable names: a responder may answer on the
spot. -/
theorem call_activatable {n : Nat} {h h' : World} (driving : h.Driving pre R rs)
    (started : R.started = true)
    (run : (call n Bus.daemonName Bus.daemonPath Bus.listActivatableMethod [] .activatableNames).run h =
      .ok () h') :
    h'.Driving pre (Roll.run (Roll.admits pre) R (heardListing h.bus Bus.listActivatableMethod true)) rs := by
  rw [← callHearings_activatable]
  exact call_heard driving (fun _ => started)
    (fun driving₁ inside routed answered => answerCall_activatable driving₁ inside routed answered) run

/-- The registry reads the names with an owner: while it is open it sights each, then asks for
the activatable names, which a responder may answer on the spot. -/
theorem namesListed_roll {n : Nat} {result : Except String (List String)} {h h' : World}
    (driving : h.Driving pre R rs) (started : R.started = true)
    (run : (namesListed n result).run h = .ok () h') :
    h'.Driving pre (Roll.run (Roll.admits pre) R
      (.listed false (listedNames result) :: heardListing h.bus Bus.listActivatableMethod true)) rs := by
  cases n with
  | zero => simp [namesListed] at run
  | succ m =>
  obtain ⟨r, present, -, -, rfl⟩ := driving.registry
  unfold namesListed at run
  simp only [bind_ok, run_registry?, present, EStateM.Result.ok.injEq, exists_returned] at run
  split at run
  · -- a closed registry reads nothing, and asks for nothing more
    rename_i closed
    rw [ok_pure run, Roll.run_listed_of_shut _ (by simp [Roll.isOpen, closed])]
    · exact driving
    · intro x member
      rcases List.mem_cons.mp member with rfl | later
      · exact ⟨_, _, rfl⟩
      · exact heardListing_listed _ _ _ x later
  · rename_i open'
    have opened : ({ started := r.started, closed := r.closed, members := r.members h } : Roll).isOpen =
        true := Roll.isOpen_iff.mpr ⟨started, by simpa using open'⟩
    -- the names read, a failed listing having been noted, are sighted
    have tail : ∀ h₁ : World, h₁.Driving pre { started := r.started, closed := r.closed, members := r.members h } rs →
        (do
          registerEach m (listedNames result) "" false
          call m Bus.daemonName Bus.daemonPath Bus.listActivatableMethod [] .activatableNames : HubM Unit).run h₁ =
          .ok () h' →
        h'.Driving pre (Roll.run (Roll.admits pre)
          { started := r.started, closed := r.closed, members := r.members h }
          (.listed false (listedNames result) :: heardListing h.bus Bus.listActivatableMethod true)) rs := by
      intro h₁ driving₁ rest
      obtain ⟨⟨⟩, h₂, registered, asked⟩ := bind_ok.mp rest
      have driving₂ := registerEach_roll m (listedNames result) "" false ⟨driving₁, opened⟩ registered
      rw [← Roll.step_listed_of_open _ opened] at driving₂
      have heard := call_activatable driving₂ (by rw [Roll.step_listed_of_open _ opened]; exact started) asked
      rw [heardListing_of_responders (driving₂.responders.trans driving.responders.symm)] at heard
      exact heard
    split at run
    · obtain ⟨⟨⟩, h₁, noted, rest⟩ := bind_ok.mp run
      exact tail h₁ (driving.transfer (keepsView_note _ h () h₁ noted) (stays_anyNote _ h () h₁ noted)) rest
    · exact tail h driving run

/-- A call of a driven registry answered: it hears what the reply lists. -/
theorem answerCall_roll {n i : Nat} {a : Bus.Answer} {h h' : World} (driving : h.Driving pre R rs)
    (inside : i < h.bus.calls.size) (run : (answerCall n i a).run h = .ok () h') :
    h'.Driving pre (Roll.run (Roll.admits pre) R ((h.bus.calls.getD i default).route.hearings h.bus a)) rs := by
  cases route : (h.bus.calls.getD i default).route
  case names =>
    cases n with
    | zero => simp [answerCall] at run
    | succ m =>
      have heard := namesListed_roll (driving.markAnswered i) (driving.asked inside (by rw [route]; rfl))
        ((answerCall_listing run).1 route)
      have same : (h.bus.markAnswered i).responders = h.bus.responders := rfl
      rwa [heardListing_of_responders same] at heard
  case activatableNames => exact answerCall_activatable driving inside route run
  -- any other reply lists no names
  all_goals
    exact World.Driving.of_keeping
      (((rolling pre R rs).kept n).answerCall [] i a ⟨driving.keeping, inside, by rw [route]; rfl⟩ run)
      (((Hub.watches false).kept n).answerCall [] i a ⟨driving.watches, inside, fun _ => rfl⟩ run)

/-- A driven registry calls, asking for names only once started: a responder may answer on the
spot, and the registry hears what the reply lists. -/
theorem call_roll {n : Nat} {dest path method : String} {args : List Value} {route : Route}
    {h h' : World} (driving : h.Driving pre R rs) (asked : route.asksNames = true → R.started = true)
    (run : (call n dest path method args route).run h = .ok () h') :
    h'.Driving pre (Roll.run (Roll.admits pre) R (route.callHearings h.bus dest method args)) rs := by
  refine call_heard driving asked (fun driving₁ inside routed answered => ?_) run
  have heard := answerCall_roll driving₁ inside answered
  rwa [routed] at heard

/-! ## The registry started -/

/-- What the registry hears when it starts: that it starts, and the names with an owner if the bus
lists them on the spot. A registry already started hears nothing. -/
def startHearings (h : World) : List Hearing :=
  if h.roll.started then [] else .start :: Route.names.callHearings h.bus Bus.daemonName Bus.listNamesMethod []

/-- The registry starts and watches every change of owner. -/
theorem openRegistry_roll {h h' : World} (driving : h.Driving pre R rs) (unstarted : R.started = false)
    (run : openRegistry.run h = .ok () h') : h'.Driving pre { R with started := true } rs := by
  obtain ⟨r, present, seated, -, rfl⟩ := driving.registry
  have watches : h'.Watches false [] :=
    watches_openRegistry ⟨driving.watches, present, unstarted⟩ run
  unfold openRegistry at run
  obtain ⟨⟨⟩, h₁, marked, run⟩ := bind_ok.mp run
  obtain ⟨id, h₂, subscribed, watched⟩ := bind_ok.mp run
  simp only [run_modifyRegistry, EStateM.Result.ok.injEq] at marked
  obtain ⟨-, rfl⟩ := marked
  have present₁ : World.registry { h with registry := h.registry.map fun x => { x with started := true } } =
      some { r with started := true } := by
    simp [present]
  -- started, with the same entries and clients
  have roster₁ : World.Roster pre { h with registry := h.registry.map fun x => { x with started := true } } :=
    ⟨⟨_, present₁, seated.clientPrefix, (fun fresh => by cases fresh), seated.admitted, seated.named,
      seated.present, seated.linked⟩, driving.roster.unlinked, driving.roster.rules,
      fun i inside asks r' present' => by
        rw [present₁, Option.some.injEq] at present'
        rw [← present']⟩
  have roster₂ := roster₁.subscribe (l := .registry) rfl subscribed
  obtain ⟨-, d, rfl⟩ := subscribe_run subscribed
  have same := keepsView_modifyRegistry (fun x => { x with nameWatch := some id }) (fun _ => rfl) _ () h'
    watched
  refine ⟨watches, roster₂.transfer same, ?_, same.responders.trans driving.responders⟩
  rw [same.roll]
  exact World.roll_of_registry present₁

/-- Starting the registry, once: it watches every change of owner and asks for the names with an
owner, which a responder may answer on the spot. -/
theorem startRegistry_roll {n : Nat} {h h' : World} (driving : h.Driving pre R rs)
    (run : (startRegistry n).run h = .ok () h') :
    h'.Driving pre (Roll.run (Roll.admits pre) R (startHearings h)) rs := by
  cases n with
  | zero => simp [startRegistry] at run
  | succ m =>
  have roll := driving.roll
  obtain ⟨r, present, -, -, rfl⟩ := driving.registry
  unfold startRegistry at run
  simp only [theRegistry, bind_ok, run_get, present, EStateM.Result.ok.injEq, exists_returned,
    run_pure] at run
  split at run
  · -- a registry already started hears nothing more
    rename_i begun
    rw [ok_pure run, show startHearings h = [] by simp [startHearings, roll, begun]]
    exact driving
  · rename_i unstarted
    rw [show startHearings h = .start :: Route.names.callHearings h.bus Bus.daemonName Bus.listNamesMethod [] by
      simp [startHearings, roll, unstarted]]
    obtain ⟨⟨⟩, h₁, opened, asked⟩ := bind_ok.mp run
    have driving₁ := openRegistry_roll driving (by simpa using unstarted) opened
    have heard := call_roll driving₁ (fun _ => rfl) asked
    rwa [Route.callHearings_of_responders (driving₁.responders.trans driving.responders.symm)] at heard

end MissionControl.Hub
