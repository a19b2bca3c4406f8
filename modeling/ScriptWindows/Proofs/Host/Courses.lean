import ScriptWindows.Host.EventLoop
import ScriptWindows.Proofs.Bridge.Histories
import ScriptWindows.Proofs.Bridge.Threads

/-!
# What happens in a host

The button is pressed, windows are closed, the worker moves, and the event loop runs what was posted
to it, in any order. To the bridge of a host that is the life with one client who only submits, and
with a UI that answers what the shell says. So everything known of a bridge holds of the bridge of a
host, and what remains is to say what passes between the two:

* **windows** that the worker waits for are posted once, and the shell is called once for each;
* **statuses** are posted when commands finish, and shown in the order in which they were posted.

Main results:

* `Host.Follows.work`, `Host.Follows.loop`: what one step of the worker or the event loop keeps.
* `Host.Course.exists_follows`: every course of events of a host is one of its bridge.
-/

namespace ScriptWindows

variable {μ ρ : Type}

/-! ## Events -/

/-- What happens in a host: a click, with its ticket or why it was refused; a window that the user
closes; a step of the worker, with the tasks it has posted; a task that the event loop has run. -/
inductive HostEvent
  | clicked (request : WindowRequest) (answer : Except BridgeError Nat)
  | closed (place : Nat)
  | worked (posted : List LoopTask)
  | ran (task : LoopTask)

/-- Whether worker or event loop have moved. -/
def HostEvent.isStep : HostEvent → Bool
  | .worked _ | .ran _ => true
  | .clicked .. | .closed _ => false

/-- The window that a task is to make. -/
@[simp] def LoopTask.request? : LoopTask → Option WindowRequest
  | .createWindow request => some request
  | .setStatus _ | .releaseClosed => none

/-- The status that a task is to show. -/
@[simp] def LoopTask.status? : LoopTask → Option String
  | .setStatus text => some text
  | .createWindow _ | .releaseClosed => none

namespace HostEvent

/-- A click that was accepted, with its ticket. -/
@[simp] def accepted? : HostEvent → Option (Nat × WindowRequest)
  | .clicked request (.ok ticket) => some (ticket, request)
  | .clicked _ (.error _) | .closed _ | .worked _ | .ran _ => none

/-- The statuses that the worker has posted. -/
@[simp] def posted : HostEvent → List String
  | .worked tasks => tasks.filterMap LoopTask.status?
  | .clicked .. | .closed _ | .ran _ => []

/-- The status that the event loop has shown. -/
@[simp] def ran? : HostEvent → Option String
  | .ran task => task.status?
  | .clicked .. | .closed _ | .worked _ => none

/-- The status that is shown, be it by the event loop or by a click that was refused. -/
@[simp] def shown? : HostEvent → Option String
  | .clicked _ (.error e) => some e.message
  | .ran task => task.status?
  | .clicked _ (.ok _) | .closed _ | .worked _ => none

end HostEvent

/-- An answer goes on with the command that asked. -/
theorem Bridge.answer_of_running {b : Bridge μ ρ} {ticket : Nat} {request : WindowRequest}
    {resume : UiReply → UiRun (Except BridgeError Outcome × Session μ ρ)}
    (h : b.worker = .running ticket (.ask request resume)) (r : UiReply) :
    b.answer r = { b with worker := .running ticket (resume r) } := by
  rw [answer, h]

/-- A window that is made is one more call of the shell, and no status. -/
theorem Screen.calls_createWindow (s : Screen) (shell : Shell) (request : WindowRequest) :
    (s.createWindow shell request).2.calls =
        s.calls ++ [(request, (s.createWindow shell request).1)] ∧
      (s.createWindow shell request).2.statuses = s.statuses := by
  unfold createWindow
  dsimp only
  split
  · rename_i hMade
    exact ⟨by rw [hMade], rfl⟩
  · rename_i reason hFailed
    exact ⟨by rw [hFailed], rfl⟩

namespace Host

/-- The clicks that were accepted, with their tickets and in their order. -/
def acceptedIn (events : List HostEvent) : List (Nat × WindowRequest) :=
  events.filterMap HostEvent.accepted?

/-- The statuses that the worker has posted, in this order. -/
def postedIn (events : List HostEvent) : List String := events.flatMap HostEvent.posted

/-- Those of them that the event loop has shown. -/
def ranIn (events : List HostEvent) : List String := events.filterMap HostEvent.ran?

/-- All statuses that were shown, in this order. -/
def shownIn (events : List HostEvent) : List String := events.filterMap HostEvent.shown?

theorem filterMap_snoc {α β : Type} (f : α → Option β) (l : List α) (a : α) :
    (l ++ [a]).filterMap f = l.filterMap f ++ (f a).toList := by
  rw [List.filterMap_append, List.filterMap_cons]
  cases f a <;> rfl

@[simp] theorem acceptedIn_snoc (events : List HostEvent) (e : HostEvent) :
    acceptedIn (events ++ [e]) = acceptedIn events ++ e.accepted?.toList :=
  filterMap_snoc _ events e

@[simp] theorem postedIn_snoc (events : List HostEvent) (e : HostEvent) :
    postedIn (events ++ [e]) = postedIn events ++ e.posted := by
  simp [postedIn]

@[simp] theorem ranIn_snoc (events : List HostEvent) (e : HostEvent) :
    ranIn (events ++ [e]) = ranIn events ++ e.ran?.toList :=
  filterMap_snoc _ events e

@[simp] theorem shownIn_snoc (events : List HostEvent) (e : HostEvent) :
    shownIn (events ++ [e]) = shownIn events ++ e.shown?.toList :=
  filterMap_snoc _ events e

/-- One event, and the host after it. -/
inductive Happens (engine : Engine μ ρ) (shell : Shell) (h : Host μ ρ) :
    HostEvent → Host μ ρ → Prop
  | click (request : WindowRequest) :
      Happens engine shell h (.clicked request (h.bridge.submit (windowCommand request)).1)
        (h.click request)
  | close (place : Nat) : Happens engine shell h (.closed place) (h.close place)
  | work {next : Host μ ρ} (hStep : h.workerStep engine = some next) :
      Happens engine shell h (.worked (next.tasks.drop h.tasks.length)) next
  | loop {next : Host μ ρ} {task : LoopTask} {rest : List LoopTask} (hTasks : h.tasks = task :: rest)
      (hStep : h.loopStep shell = some next) : Happens engine shell h (.ran task) next

/-- Events that led from one host to another, in their order. -/
inductive Course (engine : Engine μ ρ) (shell : Shell) (start : Host μ ρ) :
    List HostEvent → Host μ ρ → Prop
  | nil : Course engine shell start [] start
  | snoc {events : List HostEvent} {h next : Host μ ρ} {e : HostEvent}
      (hCourse : Course engine shell start events h) (hHappens : Happens engine shell h e next) :
      Course engine shell start (events ++ [e]) next

/-- A course can be taken in two parts. -/
theorem Course.trans {engine : Engine μ ρ} {shell : Shell} {start middle last : Host μ ρ}
    {events more : List HostEvent} (hFirst : Course engine shell start events middle)
    (hMore : Course engine shell middle more last) :
    Course engine shell start (events ++ more) last := by
  induction hMore with
  | nil => rwa [List.append_nil]
  | snoc hMore hHappens ih =>
    rw [← List.append_assoc]
    exact ih.snoc hHappens

/-- How many steps the command that runs still takes at most, if it asks for one window: the window
is posted and made, and the status is posted and shown. A window that was posted is counted among the
tasks. -/
def stepsAhead (asked : Bool) : WorkerState μ ρ → Nat
  | .running _ (.ask ..) => if asked then 2 else 4
  | .running _ (.done _) => 2
  | .importing _ | .idle _ | .exited _ => 0

/-- A running command has at most four steps ahead. -/
theorem stepsAhead_running_le (ticket : Nat) (run : UiRun (Except BridgeError Outcome × Session μ ρ)) :
    stepsAhead false (.running ticket run) ≤ 4 := by
  cases run <;> simp [stepsAhead]

/-- How many steps worker and event loop still take at most, if every command asks for one window. A
command that is queued has to be taken up as well. -/
def remaining (h : Host μ ρ) : Nat :=
  5 * h.bridge.queue.length + h.tasks.length + stepsAhead h.asked h.bridge.worker

/-- What a step of the worker can be while nobody stops it: it posts the window that it waits for,
takes up a command, or finishes one. -/
inductive Moved (engine : Engine μ ρ) (h : Host μ ρ) : Host μ ρ → Prop
  | asked (request : WindowRequest) (hWants : h.bridge.wants? = some request)
      (hAsked : h.asked = false) :
      Moved engine h { h.post (.createWindow request) with asked := true }
  | tookUp (session : Session μ ρ) (ticket : Nat) (c : PendingCommand) (rest : List Request)
      (hWorker : h.bridge.worker = .idle session) (hQueue : h.bridge.queue = .invoke ticket c :: rest) :
      Moved engine h { h with bridge := { h.bridge with
        queue := rest
        worker := .running ticket (session.invokeCommand engine c) } }
  | finished (ticket : Nat) (result : Except BridgeError Outcome) (session : Session μ ρ)
      (hWorker : h.bridge.worker = .running ticket (.done (result, session))) :
      Moved engine h { h with
        bridge := h.bridge.finishCommand ticket result session
        tasks := h.tasks ++ [.setStatus (windowStatus result)] }

/-- Every event of a course has happened to a host with a course. -/
theorem Course.at_event {engine : Engine μ ρ} {shell : Shell} {start h : Host μ ρ}
    {earlier later : List HostEvent} {e : HostEvent}
    (hCourse : Course engine shell start (earlier ++ e :: later) h) :
    ∃ before after, Course engine shell start earlier before ∧
      Happens engine shell before e after := by
  generalize hEvents : earlier ++ e :: later = events at hCourse
  -- the events after this one are taken off from the end
  induction hCourse generalizing later with
  | nil => simp at hEvents
  | snoc hCourse hHappens ih =>
    rcases List.eq_nil_or_concat' later with rfl | ⟨others, last, rfl⟩
    · obtain ⟨rfl, hLast⟩ := List.append_inj' hEvents rfl
      obtain rfl := List.singleton_inj.1 hLast
      exact ⟨_, _, hCourse, hHappens⟩
    · rw [← List.cons_append, ← List.append_assoc] at hEvents
      exact ih (List.append_inj' hEvents rfl).1

/-! ## Host and bridge -/

/-- What happened in a host happened to its bridge: its one client has submitted the commands of the
clicks that were accepted, and the UI has answered what the shell said. -/
structure Follows (w : BridgeWorld μ ρ) (events : List HostEvent) (h : Host μ ρ) : Prop where
  bridge : w.bridge = h.bridge
  client : (w.clients 0).state = .idle
  accepted : w.accepted.map Accepted.request =
    (acceptedIn events).map fun a => (a.1, windowCommand a.2)
  /-- The shell is called for the windows that commands ask for, and answers them. -/
  calls : w.exchanges.flatten ++ w.current = h.screen.calls.map fun call => (call.1, .ok call.2)
  /-- A window is posted while the worker waits for it, and only then. -/
  asked : h.tasks.filterMap LoopTask.request? = if h.asked then h.bridge.wants?.toList else []
  waiting : h.asked = true → h.bridge.wants?.isSome = true
  /-- One status is posted when a command finishes. -/
  posted : postedIn events = h.bridge.replies.map fun reply => windowStatus reply.2
  /-- Statuses are shown in the order in which they were posted. -/
  order : postedIn events = ranIn events ++ h.tasks.filterMap LoopTask.status?
  shown : h.screen.statuses = shownIn events
  /-- Nobody stops the worker. -/
  serves : h.bridge.Serves
  handles : h.bridge.handles ≠ 0
  going : Request.stop ∉ h.bridge.queue

variable {engine : Engine μ ρ} {shell : Shell} {first w : BridgeWorld μ ρ} {h next : Host μ ρ}
  {events : List HostEvent}

/-- The first task of a loop makes its window and tells the worker. -/
theorem loopStep_createWindow {request : WindowRequest} {rest : List LoopTask}
    (hTasks : h.tasks = .createWindow request :: rest) (shell : Shell) :
    h.loopStep shell = some
      { bridge := h.bridge.answer (.ok (h.screen.createWindow shell request).1)
        screen := (h.screen.createWindow shell request).2
        tasks := rest
        asked := false } := by
  rw [loopStep, hTasks]

namespace Follows

/-- **A click** is a command that the client submits. -/
theorem click (hFollows : Follows w events h) (request : WindowRequest) :
    Follows (w.submit 0 (windowCommand request))
      (events ++ [.clicked request (h.bridge.submit (windowCommand request)).1])
      (h.click request) := by
  -- the worker has not exited, so the queue has room or the click is refused
  by_cases hRoom : h.bridge.queue.length < h.bridge.capacity
  · have hSubmit := Bridge.submit_of_room hFollows.serves.isAlive hRoom (windowCommand request)
    rw [Host.click, BridgeWorld.submit, hFollows.bridge, hSubmit]
    exact {
      bridge := rfl
      client := by simp [BridgeWorld.accept, BridgeWorld.setClient]
      accepted := by
        simp [BridgeWorld.accept, hFollows.accepted, Accepted.request]
      calls := hFollows.calls
      asked := hFollows.asked
      waiting := hFollows.waiting
      posted := by simpa [Bridge.queued] using hFollows.posted
      order := by simpa using hFollows.order
      shown := by simpa using hFollows.shown
      serves := hFollows.serves
      handles := hFollows.handles
      going := by simpa [Bridge.queued] using hFollows.going }
  · have hSubmit := Bridge.submit_of_full hFollows.serves.isAlive (Nat.not_lt.1 hRoom)
      (windowCommand request)
    rw [Host.click, BridgeWorld.submit, hFollows.bridge, hSubmit]
    exact {
      bridge := rfl
      client := by simp [BridgeWorld.refuse, BridgeWorld.setClient]
      accepted := by
        simpa [BridgeWorld.refuse, BridgeWorld.setClient] using hFollows.accepted
      calls := hFollows.calls
      asked := hFollows.asked
      waiting := hFollows.waiting
      posted := by simpa using hFollows.posted
      order := by simpa using hFollows.order
      shown := by simp [Screen.setStatus, hFollows.shown]
      serves := hFollows.serves
      handles := hFollows.handles
      going := hFollows.going }

/-- A window that is closed by the user is none of the worker's. -/
theorem close (hFollows : Follows w events h) (place : Nat) :
    Follows w (events ++ [.closed place]) (h.close place) := by
  have hSame : (h.close place).bridge = h.bridge ∧ (h.close place).asked = h.asked ∧
      (h.close place).screen.calls = h.screen.calls ∧
      (h.close place).screen.statuses = h.screen.statuses ∧
      (h.close place).tasks.filterMap LoopTask.request? = h.tasks.filterMap LoopTask.request? ∧
      (h.close place).tasks.filterMap LoopTask.status? = h.tasks.filterMap LoopTask.status? := by
    unfold Host.close
    split
    · simp [post, Screen.hide, LoopTask.request?, LoopTask.status?]
    · simp
  obtain ⟨hBridge, hAsked, hCalls, hStatuses, hRequests, hTexts⟩ := hSame
  exact {
    bridge := hFollows.bridge.trans hBridge.symm
    client := hFollows.client
    accepted := by simpa using hFollows.accepted
    calls := by simpa [hCalls] using hFollows.calls
    asked := by simpa [hRequests, hAsked, hBridge] using hFollows.asked
    waiting := by simpa [hAsked, hBridge] using hFollows.waiting
    posted := by simpa [hBridge] using hFollows.posted
    order := by simpa [hTexts] using hFollows.order
    shown := by simpa [hStatuses] using hFollows.shown
    serves := by simpa [hBridge] using hFollows.serves
    handles := by simpa [hBridge] using hFollows.handles
    going := by simpa [hBridge] using hFollows.going }

/-- A worker that waits for no window has not posted one. -/
theorem not_asked (hFollows : Follows w events h) (hWants : h.bridge.wants? = none) :
    h.asked = false := by
  by_contra hAsked
  have hSome := hFollows.waiting (by simpa using hAsked)
  simp [hWants] at hSome

/-- Only while a worker has asked for a window does a task for one wait. -/
theorem no_request (hFollows : Follows w events h) (hAsked : h.asked = false) :
    h.tasks.filterMap LoopTask.request? = [] := by
  rw [hFollows.asked, hAsked]
  rfl

/-- The window that the worker waits for is posted once. -/
theorem ask (hFollows : Follows w events h) {request : WindowRequest}
    (hWants : h.bridge.wants? = some request) (hAsked : h.asked = false) :
    Follows w (events ++ [.worked [.createWindow request]])
      { h.post (.createWindow request) with asked := true } where
  bridge := hFollows.bridge
  client := hFollows.client
  accepted := by simpa using hFollows.accepted
  calls := hFollows.calls
  asked := by
    have hNone := hFollows.no_request hAsked
    simp [post, hNone, hWants]
  waiting := by simp [post, hWants]
  posted := by simpa [List.filterMap_cons, post] using hFollows.posted
  order := by
    simpa [List.filterMap_cons, post] using hFollows.order
  shown := by simpa [post] using hFollows.shown
  serves := hFollows.serves
  handles := hFollows.handles
  going := hFollows.going

/-- The worker takes up the command at the head of the queue. -/
theorem takeUp (hFollows : Follows w events h) (engine : Engine μ ρ) {session : Session μ ρ}
    {ticket : Nat} {c : PendingCommand} {rest : List Request}
    (hWorker : h.bridge.worker = .idle session) (hQueue : h.bridge.queue = .invoke ticket c :: rest) :
    Follows (w.takeUp engine session ticket c rest) (events ++ [.worked []])
      { h with bridge := { h.bridge with
        queue := rest
        worker := .running ticket (session.invokeCommand engine c) } } := by
  have hAsked : h.asked = false := hFollows.not_asked (by rw [Bridge.wants?, hWorker])
  have hNone := hFollows.no_request hAsked
  exact {
    bridge := by simp [BridgeWorld.takeUp, hFollows.bridge]
    client := hFollows.client
    accepted := by simpa [BridgeWorld.takeUp] using hFollows.accepted
    calls := hFollows.calls
    asked := by simp [hNone, hAsked]
    waiting := by simp [hAsked]
    posted := by simpa using hFollows.posted
    order := by simpa using hFollows.order
    shown := by simpa using hFollows.shown
    serves := .inr ⟨ticket, _, rfl⟩
    handles := hFollows.handles
    going := fun hStop => hFollows.going (hQueue ▸ List.mem_cons_of_mem _ hStop) }

/-- The worker finishes a command and posts its status. -/
theorem finish (hFollows : Follows w events h) {ticket : Nat} {result : Except BridgeError Outcome}
    {session : Session μ ρ} (hWorker : h.bridge.worker = .running ticket (.done (result, session))) :
    Follows (w.finish ticket result session)
      (events ++ [.worked [.setStatus (windowStatus result)]])
      { h with
        bridge := h.bridge.finishCommand ticket result session
        tasks := h.tasks ++ [.setStatus (windowStatus result)] } := by
  have hAsked : h.asked = false := hFollows.not_asked (by rw [Bridge.wants?, hWorker])
  have hNone := hFollows.no_request hAsked
  exact {
    bridge := by simp [BridgeWorld.finish, hFollows.bridge]
    client := hFollows.client
    accepted := by simpa [BridgeWorld.finish] using hFollows.accepted
    calls := by simpa [BridgeWorld.finish] using hFollows.calls
    asked := by simp [hNone, hAsked, List.filterMap_cons]
    waiting := by simp [hAsked]
    posted := by simp [Bridge.finishCommand, hFollows.posted]
    order := by simp [hFollows.order]
    shown := by simpa using hFollows.shown
    serves := .inl ⟨session, rfl⟩
    handles := hFollows.handles
    going := hFollows.going }

/-- What a step of the worker can be. -/
theorem moved_of_workerStep (hFollows : Follows w events h)
    (hStep : h.workerStep engine = some next) : Moved engine h next := by
  unfold workerStep at hStep
  split at hStep
  · rename_i request hWants
    split at hStep
    · contradiction
    · rename_i hAsked
      obtain rfl := Option.some.inj hStep
      exact .asked request hWants (by simpa using hAsked)
  · rename_i hWants
    obtain ⟨after, hAfter, rfl⟩ := Option.map_eq_some_iff.1 hStep
    -- a worker that nobody stops takes up a command or finishes one
    rcases hFollows.serves with ⟨session, hIdle⟩ | ⟨ticket, run, hRunning⟩
    · rw [Bridge.step, hIdle] at hAfter
      cases hQueue : h.bridge.queue with
      | nil => simp [hQueue, hFollows.handles] at hAfter
      | cons r rest =>
        cases r with
        | stop => exact absurd (hQueue ▸ List.mem_cons_self) hFollows.going
        | invoke ticket c =>
          simp only [hQueue, Option.some.injEq] at hAfter
          subst hAfter
          have hMoved : Moved engine h _ := .tookUp session ticket c rest hIdle hQueue
          simpa using hMoved
    · cases run with
      | ask request resume => simp [Bridge.wants?, hRunning] at hWants
      | done value =>
        rw [Bridge.step, hRunning] at hAfter
        obtain rfl := Option.some.inj hAfter
        have hMoved : Moved engine h _ := .finished ticket value.1 value.2 hRunning
        simpa [Bridge.finishCommand] using hMoved

/-- **A step of the worker** is one of the bridge, or a window is posted. -/
theorem work (hFollows : Follows w events h) (hStep : h.workerStep engine = some next) :
    ∃ after, (after = w ∨ BridgeWorld.Step engine w after) ∧
      Follows after (events ++ [.worked (next.tasks.drop h.tasks.length)]) next := by
  cases hFollows.moved_of_workerStep hStep with
  | asked request hWants hAsked =>
    refine ⟨w, .inl rfl, ?_⟩
    simpa [post] using hFollows.ask hWants hAsked
  | tookUp session ticket c rest hWorker hQueue =>
    have hMove : w.bridge.step engine = some { h.bridge with
        queue := rest
        worker := .running ticket (session.invokeCommand engine c) } := by
      rw [hFollows.bridge, Bridge.step, hWorker, hQueue]
    refine ⟨_, .inr (.work w _ hMove), ?_⟩
    have hTakeUp := hFollows.takeUp engine hWorker hQueue
    simpa [BridgeWorld.work, hFollows.bridge, hWorker, hQueue, BridgeWorld.takeUp] using hTakeUp
  | finished ticket result session hWorker =>
    have hMove : w.bridge.step engine = some (h.bridge.finishCommand ticket result session) := by
      rw [hFollows.bridge, Bridge.step, hWorker]
    refine ⟨_, .inr (.work w _ hMove), ?_⟩
    have hFinish := hFollows.finish hWorker
    simpa [BridgeWorld.work, hFollows.bridge, hWorker, BridgeWorld.finish] using hFinish

/-- A status that was posted is shown. -/
theorem showStatus (hFollows : Follows w events h) {text : String} {rest : List LoopTask}
    (hTasks : h.tasks = .setStatus text :: rest) :
    Follows w (events ++ [.ran (.setStatus text)])
      { h with screen := h.screen.setStatus text, tasks := rest } where
  bridge := hFollows.bridge
  client := hFollows.client
  accepted := by simpa using hFollows.accepted
  calls := hFollows.calls
  asked := by simpa [hTasks, List.filterMap_cons] using hFollows.asked
  waiting := hFollows.waiting
  posted := by simpa using hFollows.posted
  order := by simpa [hTasks] using hFollows.order
  shown := by simp [Screen.setStatus, hFollows.shown]
  serves := hFollows.serves
  handles := hFollows.handles
  going := hFollows.going

/-- Letting go of closed windows is nothing to the worker. -/
theorem release (hFollows : Follows w events h) {rest : List LoopTask}
    (hTasks : h.tasks = .releaseClosed :: rest) :
    Follows w (events ++ [.ran .releaseClosed])
      { h with screen := h.screen.releaseClosed, tasks := rest } where
  bridge := hFollows.bridge
  client := hFollows.client
  accepted := by simpa using hFollows.accepted
  calls := hFollows.calls
  asked := by simpa [hTasks, List.filterMap_cons] using hFollows.asked
  waiting := hFollows.waiting
  posted := by simpa using hFollows.posted
  order := by
    simpa [hTasks, List.filterMap_cons] using hFollows.order
  shown := by simpa [Screen.releaseClosed] using hFollows.shown
  serves := hFollows.serves
  handles := hFollows.handles
  going := hFollows.going

/-- A window that was posted is the one that the worker waits for. -/
theorem wants_of_posted (hFollows : Follows w events h) {request : WindowRequest}
    {rest : List LoopTask} (hTasks : h.tasks = .createWindow request :: rest) :
    h.asked = true ∧ rest.filterMap LoopTask.request? = [] ∧ ∃ ticket resume,
      h.bridge.worker = .running ticket (.ask request resume) := by
  have hPosted : request :: rest.filterMap LoopTask.request? =
      if h.asked then h.bridge.wants?.toList else [] := by
    rw [← hFollows.asked, hTasks]
    rfl
  split at hPosted
  · rename_i hAsked
    rcases hFollows.serves with ⟨session, hIdle⟩ | ⟨ticket, run, hRunning⟩
    · simp [Bridge.wants?, hIdle] at hPosted
    · cases run with
      | done value => simp [Bridge.wants?, hRunning] at hPosted
      | ask asked resume =>
        obtain ⟨rfl, hRest⟩ : request = asked ∧ rest.filterMap LoopTask.request? = [] := by
          simpa [Bridge.wants?, hRunning] using hPosted
        exact ⟨hAsked, hRest, ticket, resume, hRunning⟩
  · contradiction

/-- The shell is called, and the worker is told what it said. -/
theorem makeWindow (hFollows : Follows w events h) {request : WindowRequest} {rest : List LoopTask}
    (hTasks : h.tasks = .createWindow request :: rest) (shell : Shell) :
    Follows (w.reply request (.ok (h.screen.createWindow shell request).1))
      (events ++ [.ran (.createWindow request)])
      { bridge := h.bridge.answer (.ok (h.screen.createWindow shell request).1)
        screen := (h.screen.createWindow shell request).2
        tasks := rest
        asked := false } := by
  obtain ⟨-, hRest, ticket, resume, hRunning⟩ := hFollows.wants_of_posted hTasks
  have hAnswer := Bridge.answer_of_running hRunning
  obtain ⟨hCalls, hStatuses⟩ := h.screen.calls_createWindow shell request
  rw [hAnswer]
  exact {
    bridge := by rw [BridgeWorld.reply, hFollows.bridge, hAnswer]
    client := hFollows.client
    accepted := by simpa [BridgeWorld.reply] using hFollows.accepted
    calls := by simp [BridgeWorld.reply, ← List.append_assoc, hFollows.calls, hCalls]
    asked := by simp [hRest]
    waiting := by simp
    posted := by simpa using hFollows.posted
    order := by
      simpa [hTasks, List.filterMap_cons] using hFollows.order
    shown := by simpa [hStatuses] using hFollows.shown
    serves := .inr ⟨ticket, _, rfl⟩
    handles := hFollows.handles
    going := hFollows.going }

/-- **A task of the event loop** answers the worker, or it is none of the bridge's. -/
theorem loop (hFollows : Follows w events h) {task : LoopTask} {rest : List LoopTask}
    (hTasks : h.tasks = task :: rest) (hStep : h.loopStep shell = some next) :
    ∃ after, (after = w ∨ BridgeWorld.Step engine w after) ∧
      Follows after (events ++ [.ran task]) next := by
  cases task with
  | setStatus text =>
    rw [loopStep, hTasks] at hStep
    obtain rfl := Option.some.inj hStep
    exact ⟨w, .inl rfl, hFollows.showStatus hTasks⟩
  | releaseClosed =>
    rw [loopStep, hTasks] at hStep
    obtain rfl := Option.some.inj hStep
    exact ⟨w, .inl rfl, hFollows.release hTasks⟩
  | createWindow request =>
    rw [loopStep_createWindow hTasks] at hStep
    obtain rfl := Option.some.inj hStep
    obtain ⟨-, -, ticket, resume, hRunning⟩ := hFollows.wants_of_posted hTasks
    have hWants : w.bridge.wants? = some request := by
      rw [hFollows.bridge, Bridge.wants?, hRunning]
    exact ⟨_, .inr (.reply w request _ hWants), hFollows.makeWindow hTasks shell⟩

/-- **Every event is a move of the bridge, or none.** -/
theorem happens (hFollows : Follows w events h) {e : HostEvent}
    (hHappens : Happens engine shell h e next) :
    ∃ after, (after = w ∨ BridgeWorld.Step engine w after) ∧ Follows after (events ++ [e]) next := by
  cases hHappens with
  | click request =>
    exact ⟨_, .inr (.submit w 0 (windowCommand request) hFollows.client), hFollows.click request⟩
  | close place => exact ⟨w, .inl rfl, hFollows.close place⟩
  | work hStep => exact hFollows.work hStep
  | loop hTasks hStep => exact hFollows.loop hTasks hStep

end Follows

/-- **Every course of events of a host is one of its bridge.** -/
theorem Course.exists_follows {start : Host μ ρ} {earlier : List HostEvent}
    (hStart : Follows first earlier start) (hCourse : Course engine shell start events h) :
    ∃ w, BridgeWorld.Reachable engine first w ∧ Follows w (earlier ++ events) h := by
  induction hCourse with
  | nil => exact ⟨first, .refl, by rwa [List.append_nil]⟩
  | snoc hCourse hHappens ih =>
    obtain ⟨w, hReach, hFollows⟩ := ih
    obtain ⟨after, hStep, hAfter⟩ := hFollows.happens hHappens
    rw [List.append_assoc] at hAfter
    rcases hStep with rfl | hStep
    · exact ⟨after, hReach, hAfter⟩
    · exact ⟨after, hReach.step hStep, hAfter⟩

end Host

end ScriptWindows
