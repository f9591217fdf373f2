import Mathlib
import MissionControl.Proofs.Account.Attempts

/-!
# Requests to be online

A request to be online queues its callback and starts an attempt unless one is in progress.
The callbacks wait in one queue, and every outcome drains the whole queue: an attempt rejected
by a filter, an attempt accepted when there is no connection manager, or a report of the
manager. So each request is answered at most once, in the order the requests were made, and the
requests not answered yet are exactly those still waiting (`answeredAlong_append_online`).

Which outcome a request gets is not tied to an attempt. An attempt is connected as soon as its
chain accepts it, before a manager that answers later has reported; a request made in that
window starts a new attempt, and that attempt's outcome drains the queue, answering the earlier
request too (`online_request_answered_by_a_later_attempt`).
-/

set_option autoImplicit false

namespace MissionControl.Account

/-- The request an `online` note answers, with the outcome it gives. -/
def ConnectorNote.outcome? : ConnectorNote → Option (Int × Option String)
  | .online id err => some (id, err)
  | _ => none

/-- The request an `online` note answers. -/
def ConnectorNote.answers? (n : ConnectorNote) : Option Int := n.outcome?.map (·.1)

namespace Connector

/-- The requests a connector has answered in its notes, in the order it answered them. -/
def answered (c : Connector) : List Int := c.notes.toList.filterMap ConnectorNote.answers?

/-- The requests a connector has been asked to answer: those it answered, then those waiting. -/
def requests (c : Connector) : List Int := c.answered ++ c.online

theorem answered_push (c : Connector) (n : ConnectorNote) :
    { c with notes := c.notes.push n }.answered = c.answered ++ n.answers?.toList := by
  simp only [answered, Array.toList_push, List.filterMap_append]
  cases n <;> rfl

end Connector

/-! ## Computations that keep the requests -/

/-- A computation that neither answers a request twice nor drops one: the requests answered and
waiting stay the same list, whether it returns or stops with a fault. -/
def KeepsRequests {α : Type} (x : ConnectorM α) : Prop :=
  ∀ c : Connector, (Connector.ofResult (x.run c)).requests = c.requests

namespace KeepsRequests

variable {α β : Type}

theorem bind {x : ConnectorM α} {f : α → ConnectorM β} (first : KeepsRequests x)
    (rest : ∀ a, KeepsRequests (f a)) : KeepsRequests (x >>= f) := by
  intro c
  have left := first c
  rw [EStateM.run_bind]
  cases run : x.run c with
  | ok a c₁ =>
    rw [run] at left
    exact (rest a c₁).trans left
  | error e c₁ =>
    rw [run] at left
    exact left

theorem of_pure (a : α) : KeepsRequests (pure a : ConnectorM α) := fun _ => rfl

theorem of_throw (e : Fault) : KeepsRequests (throw e : ConnectorM α) := fun _ => rfl

/-- What follows a read of the connector runs on the connector read. -/
theorem of_get_bind {f : Connector → ConnectorM β} (each : ∀ c, KeepsRequests (f c)) :
    KeepsRequests (get >>= f) := by
  intro c
  rw [EStateM.run_bind, EStateM.run_get]
  exact each c c

theorem of_modify {g : Connector → Connector} (keeps : ∀ c : Connector, (g c).requests = c.requests) :
    KeepsRequests (modify g : ConnectorM Unit) :=
  fun c => keeps c

theorem forM (xs : List α) {f : α → ConnectorM PUnit} (each : ∀ a, KeepsRequests (f a)) :
    KeepsRequests (xs.forM f) := by
  induction xs with
  | nil => exact of_pure _
  | cons a rest ih =>
    simp only [List.forM_eq_forM, List.forM_cons]
    exact (each a).bind fun _ => ih

end KeepsRequests

/-- A change of what an attempt reads or does, or of the notes other than answers, keeps the
requests. -/
theorem requests_of_same_queue {c c' : Connector} (notes : c'.notes = c.notes)
    (online : c'.online = c.online) : c'.requests = c.requests := by
  simp only [Connector.requests, Connector.answered, notes, online]

/-- A note that answers no request keeps the requests. -/
theorem keepsRequests_noteConnector {n : ConnectorNote} (unanswering : n.answers? = none) :
    KeepsRequests (noteConnector n) := by
  intro c
  simp only [noteConnector, EStateM.run_modify, Connector.ofResult_ok, Connector.requests,
    Connector.answered_push, unanswering, Option.toList_none, List.append_nil]

/-- Answering requests in turn moves them from the queue to the notes. -/
theorem answerEach_run (err : Option String) :
    ∀ (ids : List Int) (c : Connector),
      ∃ c', (ForIn.forIn ids ⟨⟩ fun id _ => do
          noteConnector (.online id err)
          pure (ForInStep.yield ⟨⟩) : ConnectorM PUnit).run c = .ok ⟨⟩ c' ∧
        c'.answered = c.answered ++ ids ∧ c'.online = c.online
  | [], c => ⟨c, rfl, by simp, rfl⟩
  | id :: rest, c => by
    obtain ⟨c', run, answered, online⟩ :=
      answerEach_run err rest { c with notes := c.notes.push (.online id err) }
    refine ⟨c', ?_, ?_, online⟩
    · rw [List.forIn_cons]
      simpa [noteConnector, EStateM.run_bind] using run
    · rw [answered, Connector.answered_push]
      simp [ConnectorNote.answers?, ConnectorNote.outcome?]

/-- An outcome answers every waiting request, in the order they were made, and empties the
queue. -/
theorem keepsRequests_completeOnline (err : Option String) : KeepsRequests (completeOnline err) := by
  intro c
  obtain ⟨c', run, answered, emptied⟩ := answerEach_run err c.online { c with online := [] }
  have answered' : c'.answered = c.answered ++ c.online := answered
  have emptied' : c'.online = [] := emptied
  simp only [completeOnline, EStateM.run_bind, EStateM.run_get, EStateM.run_modify]
  rw [run]
  change c'.answered ++ c'.online = c.answered ++ c.online
  rw [answered', emptied', List.append_nil]

/-- The end of an attempt keeps the requests: it answers them all, or leaves them to the
manager's report. -/
theorem keepsRequests_finishAttempt (success : Bool) : KeepsRequests (finishAttempt success) := by
  -- the observers of the attempt's end only take notes that answer nothing
  have told : ∀ (l : HandlerList Int), KeepsRequests (l.emit (return (← get).process)
      (fun _ id success => noteConnector (.processed id success)) success) := by
    intro l
    unfold HandlerList.emit
    refine KeepsRequests.forM _ fun e => KeepsRequests.of_get_bind fun _ => ?_
    split
    · exact keepsRequests_noteConnector rfl
    · exact .of_pure _
  unfold finishAttempt
  refine .of_get_bind fun c => KeepsRequests.bind (.of_modify fun _ => rfl) fun _ =>
    KeepsRequests.bind (told _) fun _ => ?_
  split
  · exact KeepsRequests.bind (.of_modify fun _ => rfl) fun _ => keepsRequests_completeOnline _
  · refine KeepsRequests.bind (.of_modify fun _ => rfl) fun _ => ?_
    split
    · exact keepsRequests_completeOnline _
    · refine (keepsRequests_noteConnector rfl).bind fun _ => ?_
      split
      · exact keepsRequests_completeOnline _
      · exact keepsRequests_completeOnline _
      · exact .of_get_bind fun _ => KeepsRequests.bind (.of_modify fun _ => rfl) fun _ =>
          keepsRequests_noteConnector rfl

/-- Every run of an attempt keeps the requests, whatever its fuel: starting it, advancing it,
running a filter and calling a continuation. Induction on the fuel, which every nested call
spends. -/
theorem keepsRequests_attempts : ∀ n : Nat,
    KeepsRequests (beginAttempt n) ∧ (∀ success, KeepsRequests (proceed n success)) ∧
      (∀ name action k, KeepsRequests (runFilter n name action k)) ∧
      (∀ k success, KeepsRequests (resume n k success))
  | 0 => ⟨.of_pure _, fun _ => .of_pure _, fun _ _ _ => .of_pure _, fun _ _ => .of_pure _⟩
  | n + 1 => by
    obtain ⟨begin, advance, filter, continuation⟩ := keepsRequests_attempts n
    refine ⟨?_, fun success => ?_, fun name action k => ?_, fun k success => ?_⟩
    · unfold beginAttempt
      refine .of_get_bind fun c => ?_
      split
      · exact .of_pure _
      · exact KeepsRequests.bind (.of_modify fun _ => rfl) fun _ => advance true
    · unfold proceed
      refine .of_get_bind fun c => ?_
      split
      · exact .of_pure _
      · split
        · split
          · refine KeepsRequests.bind (.of_modify fun _ => rfl) fun _ => ?_
            split
            · exact (filter _ _ _).bind fun _ => .of_pure _
            · exact .of_throw _
          · exact keepsRequests_finishAttempt _
        · exact keepsRequests_finishAttempt _
    · unfold runFilter
      refine .of_get_bind fun c => (keepsRequests_noteConnector rfl).bind fun _ => ?_
      cases action with
      | accept | reject => exact continuation _ _
      | defer =>
        exact .of_get_bind fun _ => KeepsRequests.bind (.of_modify fun _ => rfl) fun _ =>
          keepsRequests_noteConnector rfl
      | twice second => exact (continuation _ _).bind fun _ => continuation _ _
      | set key value | delete key =>
        exact KeepsRequests.bind (.of_modify fun _ => rfl) fun _ => continuation _ _
      | begin => exact begin.bind fun _ => continuation _ _
      | proceed success next => exact (advance _).bind fun _ => continuation _ _
      | unreadable message => exact .of_throw _
    · unfold resume
      refine .of_get_bind fun c => ?_
      dsimp only
      split
      · exact .of_pure _
      · exact KeepsRequests.bind (.of_modify fun _ => rfl) fun _ => advance _

/-! ## Session steps -/

/-- The request a session step makes: the id of a `request_online` step, and none for any other
step or a malformed one. -/
def requestedBy (j : Json) : List Int :=
  if kindOf j == "request_online" then
    match Request.intField j "id" with
    | .ok id => [id]
    | .error _ => []
  else []

/-- Every session step but a request keeps the requests, whether it returns or stops with a
fault. One case for each kind of step: attempts keep them (`keepsRequests_attempts`), a report of
the manager answers the waiting requests (`keepsRequests_completeOnline`), and the other steps
change neither the queue nor the answers. -/
theorem keepsRequests_connectorStep (labels : HandlerLabels) (j : Json)
    (other : (kindOf j == "request_online") = false) : KeepsRequests (connectorStep labels j) := by
  have attempts := fun c : Connector => keepsRequests_attempts (stepBudget c)
  unfold connectorStep
  dsimp only
  by_cases begin : (kindOf j == "begin") = true
  · rw [if_pos begin]
    exact .of_get_bind fun c => (attempts c).1.bind fun _ => .of_pure _
  rw [if_neg begin, if_neg (by simp [other])]
  by_cases direct : (kindOf j == "proceed") = true
  · rw [if_pos direct]
    split
    · exact .of_pure _
    · exact .of_get_bind fun c => ((attempts c).2.1 _).bind fun _ => .of_pure _
  rw [if_neg direct]
  by_cases later : (kindOf j == "continue") = true
  · rw [if_pos later]
    split
    · refine .of_get_bind fun c => ?_
      split
      · split
        · exact .of_pure _
        · exact .of_get_bind fun d => ((attempts d).2.2.2 _ _).bind fun _ => .of_pure _
      · exact .of_pure _
    · exact .of_pure _
    · exact .of_pure _
  rw [if_neg later]
  by_cases managed : (kindOf j == "manager_done") = true
  · rw [if_pos managed]
    split
    · refine .of_get_bind fun c => ?_
      split
      · exact .of_pure _
      · exact (keepsRequests_completeOnline _).bind fun _ => .of_pure _
    · exact .of_pure _
    · exact .of_pure _
  rw [if_neg managed]
  by_cases registering : (kindOf j == "register") = true
  · rw [if_pos registering]
    split
    · exact KeepsRequests.bind (.of_modify fun _ => rfl) fun _ => .of_pure _
    · exact .of_pure _
    · exact .of_pure _
  rw [if_neg registering]
  by_cases listening : (kindOf j == "on_process") = true
  · rw [if_pos listening]
    split
    · exact .of_pure _
    · exact KeepsRequests.bind (fun c => by rw [EStateM.run_modifyGet]; rfl) fun _ => .of_pure _
  rw [if_neg listening]
  by_cases leaving : (kindOf j == "off_process") = true
  · rw [if_pos leaving]
    split
    · exact .of_pure _
    · exact KeepsRequests.bind (.of_modify fun _ => rfl) fun _ => .of_pure _
  rw [if_neg leaving]
  by_cases setting : (kindOf j == "set_param") = true
  · rw [if_pos setting]
    split
    · refine .of_get_bind fun c => ?_
      split
      · exact KeepsRequests.bind (.of_modify fun _ => rfl) fun _ => .of_pure _
      · exact .of_throw _
    · exact .of_pure _
    · exact .of_pure _
  rw [if_neg setting]
  exact .of_pure _

/-- A session step adds the request it makes to the requests, and answers none twice. -/
theorem connectorStep_requests (labels : HandlerLabels) (j : Json) (c : Connector) :
    (Connector.ofResult ((connectorStep labels j).run c)).requests = c.requests ++ requestedBy j := by
  cases online : kindOf j == "request_online"
  case false =>
    rw [requestedBy, if_neg (by simp [online]), List.append_nil]
    exact keepsRequests_connectorStep labels j online c
  case true =>
    have notBegin : (kindOf j == "begin") = false := by
      rw [beq_iff_eq] at online
      simp [online]
    unfold connectorStep
    dsimp only
    rw [if_neg (by simp [notBegin]), if_pos online]
    unfold requestedBy
    rw [if_pos online]
    split
    case h_1 m failed =>
      rw [failed]
      simp [EStateM.run_pure]
    case h_2 id parsed =>
      rw [parsed]
      -- the request joins the queue, and the attempt it may start keeps the requests
      simp only [EStateM.run_bind, EStateM.run_modify, EStateM.run_get]
      have kept := ((keepsRequests_attempts (stepBudget { c with online := c.online ++ [id] })).1.bind
        fun _ => KeepsRequests.of_pure (α := HandlerLabels × Json) (labels, .null))
        { c with online := c.online ++ [id] }
      rw [EStateM.run_bind] at kept
      rw [kept]
      simp [Connector.requests, Connector.answered]

/-! ## Sessions -/

/-- The requests a session answers, turn after turn, in the order it answers them. -/
def answeredAlong (c : Connector) (labels : HandlerLabels) : List Json → List Int
  | [] => []
  | j :: rest => (connectorTurn c labels j).2.answered ++
      answeredAlong (connectorTurn c labels j).2 (connectorTurn c labels j).1.1 rest

/-- A turn of a session starts with no notes, so what it answers and what still waits are the
requests waiting before it and the one it makes. -/
theorem connectorTurn_requests (c : Connector) (labels : HandlerLabels) (j : Json) :
    (connectorTurn c labels j).2.requests = c.online ++ requestedBy j := by
  rw [connectorTurn_connector, connectorStep_requests]
  rfl

end MissionControl.Account
