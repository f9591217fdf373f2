import Mathlib
import MissionControl.Loop.Session

/-!
# The dispatch loop runs work in posting order

Work posted to a running loop is queued; a drain takes the whole queue as a batch, runs it, and
goes on with the batch the work it ran has posted, until the queue is empty. The work of a
session is a script of steps; the theorems here are about work that only posts: each of its
steps is a post that can be read, of nothing or of more such work (`PostSteps`).

For such work a drain ends, and the order it runs things in is the posting order: the work
queued when it starts, then what each of those posted, in the order they ran, and so on. That
order is the list `R` with `R = queued ++ R.flatMap Work.posts` (`RunOrder`), and there is only
one such list, since what a piece of work posts is smaller than it (`RunOrder.unique`). The drain
returns the length of `R`, leaves the queue empty, and has taken, in that order, the notes of
every run (`drain_runOrder`). A batch is only a way of walking the order: the proof goes batch
by batch, each batch being the posts of the one before.

Once the loop is stopped, a post fails with `stoppedMessage` and queues nothing, and no step of a
session starts it again or queues anything: every later queue is a suffix of the queue at the
stop (`Halted`, `halted_of_reaches`).

Main statement: `dispatch_loop_order`.
-/

set_option autoImplicit false

namespace MissionControl

namespace Json

/-! ## Sizes of documents -/

theorem size_pos (j : Json) : 0 < j.size := by
  cases j <;> simp [Json.size]

theorem size_le_membersSize {ms : List (String × Json)} {key : String} {v : Json}
    (mem : (key, v) ∈ ms) : v.size ≤ Json.membersSize ms := by
  induction ms with
  | nil => cases mem
  | cons m rest ih =>
    obtain ⟨k, v'⟩ := m
    simp only [Json.membersSize]
    rcases List.mem_cons.mp mem with same | later
    · cases same
      omega
    · have := ih later
      omega

/-- A member of a document is smaller than the document. -/
theorem size_lt_of_member? {j v : Json} {key : String} (found : j.member? key = some v) :
    v.size < j.size := by
  cases j with
  | obj ms =>
    simp only [Json.member?, Option.map_eq_some_iff] at found
    obtain ⟨⟨k, v'⟩, last, rfl⟩ := found
    have mem : (k, v') ∈ ms := List.mem_of_mem_filter (List.mem_of_getLast? last)
    have := size_le_membersSize mem
    simp only [Json.size]
    omega
  | _ => simp [Json.member?] at found

/-- A field of a document is smaller than the document. -/
theorem size_lt_of_field? {j v : Json} {key : String} (found : j.field? key = some v) :
    v.size < j.size := by
  unfold Json.field? at found
  split at found
  · cases found
  · exact size_lt_of_member? found

end Json

namespace Loop

open Request

/-! ## Running session computations -/

section Running

variable {α β : Type}

/-- A sequence goes on from the state its first part left, unless that part failed. -/
theorem run_bind (x : SessionM α) (f : α → SessionM β) (s : Session) :
    (x >>= f).run.run s = match x.run.run s with
      | (.ok a, s') => (f a).run.run s'
      | (.error e, s') => (.error e, s') := by
  simp only [ExceptT.run_bind, StateT.run_bind]
  rcases x.run.run s with ⟨_ | a, s'⟩ <;> rfl

@[simp] theorem run_monadLift (e : Except String α) (s : Session) :
    (monadLift e : SessionM α).run.run s = (e, s) := rfl

@[simp] theorem run_get (s : Session) : (get : SessionM Session).run.run s = (.ok s, s) := rfl

@[simp] theorem run_modify (g : Session → Session) (s : Session) :
    (modify g : SessionM Unit).run.run s = (.ok (), g s) := rfl

@[simp] theorem run_pure (a : α) (s : Session) : (pure a : SessionM α).run.run s = (.ok a, s) :=
  rfl

@[simp] theorem run_throw (e : String) (s : Session) :
    (throw e : SessionM α).run.run s = (.error e, s) := rfl

@[simp] theorem run_note (j : Json) (s : Session) :
    (note j).run.run s = (.ok (), { s with notes := s.notes.push j }) := rfl

/-- A post to a running loop queues the work at the end. -/
theorem run_postWork_running (w : Work) (s : Session) (running : s.queue.stopped = false) :
    (postWork w).run.run s =
      (.ok none, { s with queue := { s.queue with items := s.queue.items ++ [w] } }) := by
  rw [postWork, run_bind, run_get]
  simp only [Queue.post, running, Bool.false_eq_true, if_false, run_bind, run_modify, run_pure]

/-- A post to a stopped loop fails with `stoppedMessage` and changes nothing. -/
theorem run_postWork_stopped (w : Work) (s : Session) (stopped : s.queue.stopped = true) :
    (postWork w).run.run s = (.ok (some stoppedMessage), s) := by
  rw [postWork, run_bind, run_get]
  simp only [Queue.post, stopped, if_true, run_pure]

end Running

/-- The session with work queued at the end and notes taken. -/
def Session.extend (s : Session) (posted : List Work) (noted : List Json) : Session :=
  { s with queue := { s.queue with items := s.queue.items ++ posted },
           notes := s.notes ++ noted.toArray }

@[simp] theorem Session.extend_items (s : Session) (posted : List Work) (noted : List Json) :
    (s.extend posted noted).queue.items = s.queue.items ++ posted := rfl

@[simp] theorem Session.extend_stopped (s : Session) (posted : List Work) (noted : List Json) :
    (s.extend posted noted).queue.stopped = s.queue.stopped := rfl

@[simp] theorem Session.extend_nil (s : Session) : s.extend [] [] = s := by
  simp [Session.extend]

@[simp] theorem Session.extend_extend (s : Session) (posted posted' : List Work)
    (noted noted' : List Json) :
    (s.extend posted noted).extend posted' noted' = s.extend (posted ++ posted') (noted ++ noted') := by
  simp [Session.extend, Array.append_assoc]

/-! ## Work that only posts -/

/-- What a step of work asks for when it is a post that can be read: the id it notes, and the
steps of the work it posts, none for a post of nothing. The posted work takes the post's id. -/
def readPost (a : Json) : Option (Int × Option (List Json)) :=
  match a with
  | .obj _ =>
    if kindOf a = "post" then
      match intField a "id", boolField a "nil", listField a "actions" with
      | .ok id, .ok true, _ => some (id, none)
      | .ok id, .ok false, .ok acts => some (id, some acts)
      | _, _, _ => none
    else none
  | _ => none

/-- A post that can be read is an object naming a post, whose fields read as `readPost` says. -/
theorem readPost_eq_some {a : Json} {id : Int} {posted : Option (List Json)}
    (read : readPost a = some (id, posted)) :
    (∃ ms, a = .obj ms) ∧ kindOf a = "post" ∧ intField a "id" = .ok id ∧
      (posted = none ∧ boolField a "nil" = .ok true ∨
        ∃ acts, posted = some acts ∧ boolField a "nil" = .ok false ∧
          listField a "actions" = .ok acts) := by
  unfold readPost at read
  split at read
  · split at read
    · split at read <;> simp_all
    · cases read
  · cases read

/-- Steps that are all posts that can be read, down to the steps of the work they post. -/
inductive PostSteps : List Json → Prop
  | nil : PostSteps []
  | cons {a : Json} {rest : List Json} {id : Int} {posted : Option (List Json)}
      (read : readPost a = some (id, posted)) (inner : ∀ acts ∈ posted, PostSteps acts)
      (tail : PostSteps rest) : PostSteps (a :: rest)

/-- Work whose steps are all posts; a probe has none. -/
def Work.OnlyPosts : Work → Prop
  | .script _ actions => PostSteps actions
  | .probe => True

/-- The note of running work. -/
def ranNote (id : Int) : Json := .obj [("ran", .ofInt id)]

/-- The note of a post to a running loop. -/
def postedNote (id : Int) : Json := .obj [("posted", .ofInt id), ("err", .null)]

/-- The work that steps post, in order; posts of nothing queue nothing. -/
def postsOf (actions : List Json) : List Work :=
  actions.filterMap fun a => (readPost a).bind fun p => p.2.map (Work.script p.1)

/-- The notes the posts among steps take, in order. -/
def postNotes (actions : List Json) : List Json :=
  actions.filterMap fun a => (readPost a).map fun p => postedNote p.1

/-- The work that running a piece of work posts. -/
def Work.posts : Work → List Work
  | .script _ actions => postsOf actions
  | .probe => []

/-- The notes that running a piece of work takes. -/
def Work.notes : Work → List Json
  | .script id actions => ranNote id :: postNotes actions
  | .probe => []

theorem postsOf_cons {a : Json} {id : Int} {posted : Option (List Json)}
    (read : readPost a = some (id, posted)) (rest : List Json) :
    postsOf (a :: rest) = (posted.map (Work.script id)).toList ++ postsOf rest := by
  cases posted <;> simp [postsOf, read]

theorem postNotes_cons {a : Json} {id : Int} {posted : Option (List Json)}
    (read : readPost a = some (id, posted)) (rest : List Json) :
    postNotes (a :: rest) = postedNote id :: postNotes rest := by
  simp [postNotes, read]

/-- What work that only posts posts only posts in turn. -/
theorem onlyPosts_of_mem_posts {w w' : Work} (tame : w.OnlyPosts) (mem : w' ∈ w.posts) :
    w'.OnlyPosts := by
  cases w with
  | probe => cases mem
  | script id actions =>
    simp only [Work.OnlyPosts] at tame
    simp only [Work.posts] at mem
    induction tame with
    | nil => cases mem
    | @cons a rest id posted read inner tail _ restIh =>
      rw [postsOf_cons read] at mem
      rcases List.mem_append.mp mem with here | later
      · cases posted with
        | none => cases here
        | some acts =>
          obtain rfl : w' = .script id acts := by simpa using here
          exact inner acts rfl
      · exact restIh later

/-! ## Running work that only posts -/

/-- One step that posts, on a running loop: the posted work is queued and the post noted. -/
theorem doActions_post {a : Json} {rest : List Json} {id : Int} {posted : Option (List Json)}
    (read : readPost a = some (id, posted)) (s : Session) (running : s.queue.stopped = false) :
    (doActions (a :: rest)).run.run s =
      (doActions rest).run.run (s.extend (posted.map (Work.script id)).toList [postedNote id]) := by
  obtain ⟨⟨ms, rfl⟩, kind, readId, readRest⟩ := readPost_eq_some read
  rw [doActions]
  simp only [kind, beq_self_eq_true, if_true, run_bind, run_monadLift, readId]
  rcases readRest with ⟨rfl, readNil⟩ | ⟨acts, rfl, readNil, readActions⟩
  · simp only [readNil, if_true, run_pure, run_note, run_bind]
    simp [Session.extend, postedNote, Json.ofOption]
  · simp only [readNil, readActions, Bool.false_eq_true, if_false, run_note, run_bind,
      run_monadLift, run_postWork_running _ _ running]
    simp [Session.extend, postedNote, Json.ofOption]

/-- Steps that only post, on a running loop, queue what they post and note each post, in
order. -/
theorem doActions_postSteps {actions : List Json} (steps : PostSteps actions) (s : Session)
    (running : s.queue.stopped = false) :
    (doActions actions).run.run s = (.ok (), s.extend (postsOf actions) (postNotes actions)) := by
  induction steps generalizing s with
  | nil => rw [doActions, run_pure]; simp [postsOf, postNotes]
  | @cons a rest id posted read _ _ _ restIh =>
    rw [doActions_post read s running, restIh _ (by simpa using running), postsOf_cons read,
      postNotes_cons read]
    simp

/-- Running work that only posts, on a running loop, queues what it posts and takes its
notes. -/
theorem runWork_onlyPosts {w : Work} (tame : w.OnlyPosts) (s : Session)
    (running : s.queue.stopped = false) :
    (runWork w).run.run s = (.ok (), s.extend w.posts w.notes) := by
  cases w with
  | probe => rw [runWork, run_pure]; simp [Work.posts, Work.notes]
  | script id actions =>
    have noted : (note (ranNote id)).run.run s = (.ok (), s.extend [] [ranNote id]) := by
      simp [Session.extend]
    rw [runWork, ← ranNote, run_bind, noted]
    simp only
    rw [doActions_postSteps tame _ (by simpa using running)]
    simp [Work.posts, Work.notes]

/-- A batch of work that only posts, run on a running loop, queues what each posts and takes
their notes, in the order of the batch. -/
theorem forM_runWork {ws : List Work} (tame : ∀ w ∈ ws, w.OnlyPosts) (s : Session)
    (running : s.queue.stopped = false) :
    (ws.forM runWork).run.run s =
      (.ok (), s.extend (ws.flatMap Work.posts) (ws.flatMap Work.notes)) := by
  induction ws generalizing s with
  | nil => rw [List.forM, run_pure]; simp
  | cons w rest ih =>
    rw [List.forM, run_bind, runWork_onlyPosts (tame w List.mem_cons_self) s running]
    simp only
    rw [ih (fun w' mem => tame w' (List.mem_cons_of_mem _ mem)) _ (by simpa using running)]
    simp

/-! ## Sizes

What a post asks to queue is read off the post's own document, so the work it queues is smaller
than the step; a piece of work is larger than all it posts together. -/

/-- The steps a post reads for the work it posts are smaller than the post. -/
theorem itemsSize_lt_of_listField {a : Json} {key : String} {acts : List Json}
    (read : listField a key = .ok acts) : Json.itemsSize acts < a.size := by
  unfold listField at read
  split at read
  · cases read
    have := Json.size_pos a
    simp only [Json.itemsSize]
    omega
  · rename_i xs found
    cases read
    have := Json.size_lt_of_field? found
    simp only [Json.size] at this
    omega
  · cases read

/-- The total size of a list of work. -/
def totalSize (ws : List Work) : Nat := (ws.map Work.size).sum

@[simp] theorem totalSize_nil : totalSize [] = 0 := rfl

@[simp] theorem totalSize_cons (w : Work) (ws : List Work) :
    totalSize (w :: ws) = w.size + totalSize ws := by
  simp [totalSize]

@[simp] theorem totalSize_append (ws ws' : List Work) :
    totalSize (ws ++ ws') = totalSize ws + totalSize ws' := by
  simp [totalSize]

theorem drainBudget_eq (s : Session) : drainBudget s = totalSize s.queue.items + 1 := rfl

theorem totalSize_postsOf (actions : List Json) :
    totalSize (postsOf actions) ≤ Json.itemsSize actions := by
  induction actions with
  | nil => simp [postsOf]
  | cons a rest ih =>
    simp only [Json.itemsSize]
    cases read : readPost a with
    | none =>
      have skipped : postsOf (a :: rest) = postsOf rest := by simp [postsOf, read]
      rw [skipped]
      omega
    | some p =>
      obtain ⟨id, posted⟩ := p
      rw [postsOf_cons read]
      cases posted with
      | none => simpa using Nat.le_add_left_of_le ih
      | some acts =>
        obtain ⟨-, -, -, readRest⟩ := readPost_eq_some read
        obtain ⟨acts', same, -, readActions⟩ : ∃ acts', some acts = some acts' ∧ _ ∧ _ := by
          simpa using readRest
        cases same
        have := itemsSize_lt_of_listField readActions
        simp only [Option.map_some, Option.toList_some, List.singleton_append, totalSize_cons,
          Work.size]
        omega

/-- A piece of work is larger than all it posts together. -/
theorem totalSize_posts (w : Work) : totalSize w.posts + 1 ≤ w.size := by
  cases w with
  | probe => simp [Work.posts, Work.size]
  | script id actions =>
    have := totalSize_postsOf actions
    simp only [Work.posts, Work.size]
    omega

/-- A batch is larger, by at least its length, than all its work posts together. -/
theorem totalSize_flatMap_posts (ws : List Work) :
    totalSize (ws.flatMap Work.posts) + ws.length ≤ totalSize ws := by
  induction ws with
  | nil => simp
  | cons w rest ih =>
    have := totalSize_posts w
    simp only [List.flatMap_cons, totalSize_append, List.length_cons, totalSize_cons]
    omega

/-! ## The order of a drain -/

/-- `R` runs the work `queued` and then, in order, what each piece of work in `R` posts: the
order in which a drain that starts with `queued` runs things. -/
def RunOrder (queued R : List Work) : Prop := R = queued ++ R.flatMap Work.posts

/-- Past the work queued at the start, a run order is a run order of what that work posts. -/
theorem RunOrder.posted {queued R : List Work} (order : RunOrder queued R) :
    RunOrder (queued.flatMap Work.posts) (R.flatMap Work.posts) := by
  unfold RunOrder at order ⊢
  nth_rewrite 1 [order]
  rw [List.flatMap_append]

/-- Nothing runs when nothing is queued: whatever ran would have been posted by something that
ran, which is larger. -/
theorem RunOrder.eq_nil {R : List Work} (order : RunOrder [] R) : R = [] := by
  have bound := totalSize_flatMap_posts R
  have same : R.flatMap Work.posts = R := by simpa [RunOrder] using order.symm
  rw [same] at bound
  exact List.eq_nil_of_length_eq_zero (by omega)

/-- The work queued at the start fixes the run order. By induction on its size: what the queued
work posts is smaller, and fixes the rest of the order. -/
theorem RunOrder.unique {queued R R' : List Work} (order : RunOrder queued R)
    (order' : RunOrder queued R') : R = R' := by
  generalize sized : totalSize queued = size
  induction size using Nat.strong_induction_on generalizing queued R R' with
  | h size ih =>
    cases queued with
    | nil => rw [order.eq_nil, order'.eq_nil]
    | cons w rest =>
      have smaller : totalSize ((w :: rest).flatMap Work.posts) < size := by
        have := totalSize_flatMap_posts (w :: rest)
        simp only [List.length_cons] at this
        omega
      have later := ih _ smaller order.posted order'.posted rfl
      rw [order, order', later]

/-- The notes of a run, in order. -/
def runNotes (R : List Work) : List Json := R.flatMap Work.notes

/-- A drain of a running loop whose queue holds work that only posts runs the queue and all it
posts in run order, and returns how many it ran, added to `count`. By induction on the fuel,
which exceeds the total size of the queue: each batch leaves behind what it posts, which is
smaller by at least the length of the batch. -/
theorem drainFrom_runOrder (n count : Nat) (s : Session) (running : s.queue.stopped = false)
    (tame : ∀ w ∈ s.queue.items, w.OnlyPosts) (fuel : totalSize s.queue.items < n) :
    ∃ R, RunOrder s.queue.items R ∧
      (drainFrom n count).run.run s =
        (.ok (count + R.length),
          ({ s with queue := { s.queue with items := [] } } : Session).extend [] (runNotes R)) := by
  induction n generalizing count s with
  | zero => omega
  | succ n ih =>
    rw [drainFrom, run_bind, run_get]
    simp only [Queue.batch]
    by_cases empty : s.queue.items = []
    · refine ⟨[], by simp [RunOrder, empty], ?_⟩
      simp only [empty, List.isEmpty_nil, if_true, run_pure]
      rcases s with ⟨⟨items, stopped⟩, ran, notes⟩
      simp only at empty
      subst empty
      simp [runNotes, Session.extend]
    · simp only [List.isEmpty_iff, empty, if_false, run_bind, run_modify]
      rw [forM_runWork tame]
      swap
      · exact running
      simp only
      have smaller : totalSize (s.queue.items.flatMap Work.posts) < n := by
        have := totalSize_flatMap_posts s.queue.items
        have : 0 < s.queue.items.length := List.length_pos_of_ne_nil empty
        omega
      have tame' : ∀ w ∈ s.queue.items.flatMap Work.posts, w.OnlyPosts := by
        intro w mem
        obtain ⟨w', queued, posted⟩ := List.mem_flatMap.mp mem
        exact onlyPosts_of_mem_posts (tame w' queued) posted
      obtain ⟨R, order, drained⟩ := ih (count + s.queue.items.length)
        (({ s with queue := { s.queue with items := [] } } : Session).extend
          (s.queue.items.flatMap Work.posts) (s.queue.items.flatMap Work.notes))
        running (by simpa using tame') (by simpa using smaller)
      simp only [Session.extend_items, List.nil_append] at order
      refine ⟨s.queue.items ++ R, ?_, ?_⟩
      · unfold RunOrder at order ⊢
        rw [List.flatMap_append, ← order]
      · rw [drained]
        simp [runNotes, Session.extend, Nat.add_assoc, Array.append_assoc]

/-- A drain of a running loop whose queue holds work that only posts runs the queue and all it
posts in run order, returns how many it ran, leaves the queue empty and has taken the notes of
every run, in order. -/
theorem drain_runOrder (s : Session) (running : s.queue.stopped = false)
    (tame : ∀ w ∈ s.queue.items, w.OnlyPosts) :
    ∃ R, RunOrder s.queue.items R ∧
      drain.run.run s =
        (.ok R.length, ({ s with queue := { s.queue with items := [] } } : Session).extend []
          (runNotes R)) := by
  obtain ⟨R, order, drained⟩ :=
    drainFrom_runOrder (drainBudget s) 0 s running tame (by rw [drainBudget_eq]; omega)
  refine ⟨R, order, ?_⟩
  rw [drain, run_bind, run_get]
  simpa using drained

/-- Work that posts more work, queued before other work: the later post runs last, and the drain
counts all three runs. -/
example :
    (drain.run.run { queue := { items := [.script 1 [.obj [("do", .str "post"), ("id", .num "3")]],
      .script 2 []] } }).1 = .ok 3 := by
  rfl

/-! ## What a computation keeps -/

/-- `x` keeps `inv`: run from a session satisfying `inv`, it leaves one that satisfies it,
whether it returns or fails. -/
def Keeps (inv : Session → Prop) {α : Type} (x : SessionM α) : Prop :=
  ∀ s, inv s → inv (x.run.run s).2

section Keeps

variable {inv : Session → Prop} {α β : Type}

theorem keeps_bind {x : SessionM α} {f : α → SessionM β} (first : Keeps inv x)
    (rest : ∀ a, Keeps inv (f a)) : Keeps inv (x >>= f) := by
  intro s holds
  have kept := first s holds
  rw [run_bind]
  rcases ran : x.run.run s with ⟨_ | a, s'⟩
  · rw [ran] at kept
    exact kept
  · rw [ran] at kept
    exact rest a s' kept

/-- A sequence that starts by reading the session may use that the session satisfies `inv`. -/
theorem keeps_get_bind {f : Session → SessionM β} (rest : ∀ s, inv s → Keeps inv (f s)) :
    Keeps inv (get >>= f) := by
  intro s holds
  rw [run_bind, run_get]
  exact rest s holds s holds

theorem keeps_pure (a : α) : Keeps inv (pure a : SessionM α) := fun _ holds => holds

theorem keeps_throw (e : String) : Keeps inv (throw e : SessionM α) := fun _ holds => holds

theorem keeps_monadLift (e : Except String α) : Keeps inv (monadLift e : SessionM α) :=
  fun _ holds => holds

theorem keeps_modify {g : Session → Session} (kept : ∀ s, inv s → inv (g s)) :
    Keeps inv (modify g) :=
  fun s holds => kept s holds

theorem keeps_forM {l : List α} {f : α → SessionM PUnit} (each : ∀ a ∈ l, Keeps inv (f a)) :
    Keeps inv (l.forM f) := by
  induction l with
  | nil => exact keeps_pure _
  | cons a rest ih =>
    exact keeps_bind (each a List.mem_cons_self)
      fun _ => ih fun b mem => each b (List.mem_cons_of_mem _ mem)

end Keeps

/-! ## A stopped loop -/

/-- The loop is stopped, and its queue is a suffix of `queued`: nothing has been queued since
the queue was `queued`. -/
def Halted (queued : List Work) (s : Session) : Prop :=
  s.queue.stopped = true ∧ s.queue.items <:+ queued

section Halted

variable {queued : List Work}

theorem halted_note (j : Json) : Keeps (Halted queued) (note j) :=
  keeps_modify fun _ halted => halted

theorem halted_postWork (w : Work) : Keeps (Halted queued) (postWork w) := by
  intro s halted
  rw [run_postWork_stopped w s halted.1]
  exact halted

theorem halted_stop : Keeps (Halted queued) (modify fun s => { s with queue := s.queue.stop }) :=
  keeps_modify fun _ halted => ⟨rfl, halted.2⟩

/-- The steps of work keep a stopped loop stopped and queue nothing: their posts fail. -/
theorem halted_doActions : ∀ actions : List Json, Keeps (Halted queued) (doActions actions)
  | [] => by
    rw [doActions]
    exact keeps_pure ()
  | a :: rest => by
    have more : Keeps (Halted queued) (doActions rest) := halted_doActions rest
    cases a with
    | obj ms =>
      rw [doActions]
      split
      · refine keeps_bind (keeps_monadLift _) fun id => keeps_bind (keeps_monadLift _) fun _ => ?_
        split
        · exact keeps_bind (keeps_pure _) fun _ => keeps_bind (halted_note _) fun _ => more
        · exact keeps_bind (keeps_monadLift _) fun _ => keeps_bind (halted_postWork _)
            fun _ => keeps_bind (halted_note _) fun _ => more
      · split
        · exact keeps_bind halted_stop fun _ => more
        · exact keeps_bind (keeps_throw _) fun _ => more
    | _ =>
      rw [doActions]
      · exact keeps_throw _
      · intro _ same
        cases same

theorem halted_runWork (w : Work) : Keeps (Halted queued) (runWork w) := by
  cases w with
  | script id actions =>
    rw [runWork]
    exact keeps_bind (halted_note _) fun _ => halted_doActions actions
  | probe =>
    rw [runWork]
    exact keeps_pure ()

/-- A drain of a stopped loop empties the queue batch by batch and queues nothing. -/
theorem halted_drainFrom : ∀ n count : Nat, Keeps (Halted queued) (drainFrom n count)
  | 0, count => by
    rw [drainFrom]
    exact keeps_pure count
  | n + 1, count => by
    rw [drainFrom]
    refine keeps_get_bind fun s halted => ?_
    dsimp only [Queue.batch]
    by_cases empty : s.queue.items.isEmpty = true
    · rw [if_pos empty]
      exact keeps_pure count
    · rw [if_neg empty]
      have emptied : ∀ s', Halted queued s' →
          Halted queued { s' with queue := { s.queue with items := [] } } :=
        fun _ _ => ⟨halted.1, List.nil_suffix⟩
      exact keeps_bind (keeps_modify emptied) fun _ =>
        keeps_bind (keeps_forM fun w _ => halted_runWork w) fun _ =>
          halted_drainFrom n (count + s.queue.items.length)

theorem halted_drain : Keeps (Halted queued) drain := by
  rw [drain]
  exact keeps_get_bind fun s _ => halted_drainFrom (drainBudget s) 0

/-- Every step of a session keeps a stopped loop stopped and queues nothing. -/
theorem halted_runStep (first : Bool) (j : Json) : Keeps (Halted queued) (runStep first j) := by
  rw [runStep]
  split
  · -- a post: it fails, or posts nothing
    refine keeps_bind (keeps_monadLift _) fun _ => ?_
    split
    · exact keeps_pure _
    · exact keeps_bind (keeps_monadLift _) fun _ => keeps_bind (keeps_monadLift _)
        fun _ => keeps_bind (halted_postWork _) fun _ => keeps_pure _
  split
  · exact keeps_bind halted_drain fun _ => keeps_pure _
  split
  · exact keeps_bind halted_stop fun _ => keeps_pure _
  split
  · refine keeps_get_bind fun s _ => ?_
    split
    · exact keeps_bind (halted_postWork _) fun _ => keeps_pure _
    · have ran : ∀ s', Halted queued s' → Halted queued { s' with ran := true } :=
        fun _ halted => halted
      exact keeps_bind (keeps_modify ran) fun _ => keeps_bind halted_drain
        fun _ => keeps_bind halted_drain fun _ => keeps_pure _
  split
  · split
    · exact keeps_pure _
    · have stopped : ∀ s', Halted queued s' →
          Halted queued { s' with queue := s'.queue.stop, ran := true } :=
        fun _ halted => ⟨rfl, halted.2⟩
      exact keeps_bind halted_drain fun _ => keeps_bind (keeps_modify stopped) fun _ => keeps_pure _
  · exact keeps_throw _

end Halted

/-- One top-level step of a session: the session after it, as the next step finds it. Notes
are taken afresh at each step. -/
def Session.Next (s s' : Session) : Prop :=
  ∃ first j, ((runStep first j).run.run { s with notes := #[] }).2 = s'

/-- Steps after a stop keep the loop stopped and queue nothing: every later queue is a suffix
of the queue at the stop. By induction on the steps, each kept by `halted_runStep`. -/
theorem halted_of_reaches {queued : List Work} {s s' : Session} (halted : Halted queued s)
    (reaches : Relation.ReflTransGen Session.Next s s') : Halted queued s' := by
  induction reaches with
  | refl => exact halted
  | tail _ next ih =>
    obtain ⟨first, j, rfl⟩ := next
    exact halted_runStep first j _ ih

/-! ## Posts of nothing and runs on a cancelled context -/

/-- A post of nothing answers with no error and changes nothing, stopped loop or not. -/
theorem runStep_post_nil (first : Bool) (j : Json) (s : Session) (kind : kindOf j = "post")
    (nothing : boolField j "nil" = .ok true) :
    (runStep first j).run.run s = (.ok (.obj [("err", .null)]), s) := by
  rw [runStep]
  simp only [kind, beq_self_eq_true, if_true, run_bind, run_monadLift, nothing, run_pure]

/-- A run on a cancelled context, as the first step, drains a queue of work that only posts,
then stops the loop and answers with the cancellation. -/
theorem runStep_run_cancelled (j : Json) (s : Session) (kind : kindOf j = "run_cancelled")
    (running : s.queue.stopped = false) (tame : ∀ w ∈ s.queue.items, w.OnlyPosts) :
    ∃ R, RunOrder s.queue.items R ∧
      (runStep true j).run.run s =
        (.ok (.obj [("err", .str "context canceled")]),
          { s with queue := { items := [], stopped := true }, ran := true,
                   notes := s.notes ++ (runNotes R).toArray }) := by
  obtain ⟨R, order, drained⟩ := drain_runOrder s running tame
  refine ⟨R, order, ?_⟩
  rw [runStep]
  simp +decide only [kind, if_false, if_true]
  rw [run_bind, drained]
  simp only [run_bind, run_modify, run_pure]
  simp [Session.extend, Queue.stop]

/-! ## The dispatch loop -/

/-- The dispatch loop runs work in posting order. On a running loop whose queue holds work that
only posts, a drain runs the queue and everything posted while it runs, each once, in the one
order that runs the queue first and then what each run posted, in the order of the runs; it
returns how many ran, leaves the queue empty and has taken the notes of the runs in that
order. A post of nothing changes nothing. Once the loop is stopped, by a stop or by a run on a
cancelled context, a post fails with `stoppedMessage` and queues nothing, and no later step
queues anything: every later queue is a suffix of the queue at the stop. -/
theorem dispatch_loop_order :
    (∀ s : Session, s.queue.stopped = false → (∀ w ∈ s.queue.items, w.OnlyPosts) →
      ∃ R, RunOrder s.queue.items R ∧ (∀ R', RunOrder s.queue.items R' → R' = R) ∧
        drain.run.run s =
          (.ok R.length, { s with queue := { items := [], stopped := false },
                                  notes := s.notes ++ (runNotes R).toArray })) ∧
    (∀ (first : Bool) (j : Json) (s : Session), kindOf j = "post" →
      boolField j "nil" = .ok true → (runStep first j).run.run s = (.ok (.obj [("err", .null)]), s)) ∧
    (∀ (w : Work) (s : Session), s.queue.stopped = true →
      (postWork w).run.run s = (.ok (some stoppedMessage), s)) ∧
    (∀ (j : Json) (s : Session), kindOf j = "run_cancelled" → s.queue.stopped = false →
      (∀ w ∈ s.queue.items, w.OnlyPosts) →
      ((runStep true j).run.run s).1 = .ok (.obj [("err", .str "context canceled")]) ∧
        ((runStep true j).run.run s).2.queue.stopped = true) ∧
    (∀ s s' : Session, s.queue.stopped = true → Relation.ReflTransGen Session.Next s s' →
      s'.queue.stopped = true ∧ s'.queue.items <:+ s.queue.items) := by
  refine ⟨fun s running tame => ?_, runStep_post_nil, run_postWork_stopped,
    fun j s kind running tame => ?_, fun s s' stopped reaches => ?_⟩
  · obtain ⟨R, order, drained⟩ := drain_runOrder s running tame
    refine ⟨R, order, fun R' order' => order'.unique order, ?_⟩
    rw [drained]
    rcases s with ⟨⟨items, stopped⟩, ran, notes⟩
    simp only at running
    subst running
    simp [Session.extend]
  · obtain ⟨R, -, ran⟩ := runStep_run_cancelled j s kind running tame
    rw [ran]
    exact ⟨rfl, rfl⟩
  · exact halted_of_reaches ⟨stopped, List.suffix_refl _⟩ reaches

end Loop

end MissionControl
