import ScriptWindows.Proofs.Bridge.Order

/-!
# Histories of a bridge

Where moves lead tells what has become of the requests, but not who asked for what and when. A
history keeps that: every move, and the world it was made in. What a history leads to is what can
be reached, so a history takes nothing away and adds nothing.

Main results:

* `BridgeWorld.Performed.of_perform`: what an act comes to, by who acts.
* `BridgeWorld.step_iff`: a step is an act that can be performed.
* `BridgeWorld.Reachable.exists_history`: whatever can be reached has a history.
* `BridgeWorld.Flow.of_perform`: what an act can do to the queue.
-/

namespace ScriptWindows

variable {μ ρ : Type}

/-! ## Room in the queue -/

namespace Bridge

variable {b : Bridge μ ρ}

/-- A request goes into a queue that has room. -/
theorem offer_of_room (hAlive : b.isAlive = true) (hRoom : b.queue.length < b.capacity)
    (r : Request) : b.offer r = .ok { b with queue := b.queue ++ [r] } := by
  rw [offer, if_pos hAlive, if_pos hRoom]

/-- A full queue takes no request. -/
theorem offer_of_full (hAlive : b.isAlive = true) (hFull : b.capacity ≤ b.queue.length)
    (r : Request) : b.offer r = .error .full := by
  rw [offer, if_pos hAlive, if_neg (Nat.not_lt.2 hFull)]

/-- Nothing is offered to a worker that has exited. -/
theorem offer_of_exited (hExited : b.isAlive = false) (r : Request) :
    b.offer r = .error .stopped := by
  rw [offer, hExited]
  rfl

/-- There is a worker and room, or a worker and no room, or no worker. -/
theorem room_cases (b : Bridge μ ρ) :
    (b.isAlive = true ∧ b.queue.length < b.capacity) ∨
      (b.isAlive = true ∧ b.capacity ≤ b.queue.length) ∨ b.isAlive = false := by
  cases b.isAlive with
  | false => exact .inr (.inr rfl)
  | true =>
    rcases Nat.lt_or_ge b.queue.length b.capacity with hRoom | hFull
    · exact .inl ⟨rfl, hRoom⟩
    · exact .inr (.inl ⟨rfl, hFull⟩)

/-- A command for which there is room is queued under the next ticket. -/
theorem submit_of_room (hAlive : b.isAlive = true) (hRoom : b.queue.length < b.capacity)
    (c : PendingCommand) : b.submit c = (.ok b.nextTicket, b.queued c) := by
  rw [submit, offerCommand, offer_of_room hAlive hRoom]
  rfl

/-- A command for a worker that has exited is refused, and nothing changes. -/
theorem submit_of_exited (hExited : b.isAlive = false) (c : PendingCommand) :
    b.submit c = (.error .workerStopped, b) := by
  rw [submit, offerCommand, offer_of_exited hExited]

/-- A caller that may wait queues its command like any other. -/
theorem invoke_of_room (hAlive : b.isAlive = true) (hRoom : b.queue.length < b.capacity)
    (c : PendingCommand) : b.invoke false c = (.ok (some b.nextTicket), b.queued c) := by
  rw [invoke, offerCommand, offer_of_room hAlive hRoom]
  rfl

/-- A caller that may wait is not refused by a full queue. -/
theorem invoke_of_full (hAlive : b.isAlive = true) (hFull : b.capacity ≤ b.queue.length)
    (c : PendingCommand) : b.invoke false c = (.ok none, b) := by
  rw [invoke, offerCommand, offer_of_full hAlive hFull]
  rfl

/-- A caller that may wait is told that the worker has exited. -/
theorem invoke_of_exited (hExited : b.isAlive = false) (c : PendingCommand) :
    b.invoke false c = (.error .workerStopped, b) := by
  rw [invoke, offerCommand, offer_of_exited hExited]
  rfl

end Bridge

/-- What the worker is told of a call. -/
def Accepted.request (a : Accepted) : Nat × PendingCommand := (a.ticket, a.command)

namespace BridgeWorld

/-! ## Acts -/

/-- A move by who makes it: a client, a handle that is cloned, given up or asked to stop the
worker, the worker, or the UI. -/
inductive Act
  | submit (i : Nat) (c : PendingCommand)
  | invoke (i : Nat) (onUi : Bool) (c : PendingCommand)
  | retry (i : Nat)
  | hear (i : Nat)
  | clone
  | release
  | shutdown
  | stop
  | work
  | reply (r : UiReply)

/-- The world after an act, unless it cannot be performed yet. -/
def perform (engine : Engine μ ρ) (w : BridgeWorld μ ρ) : Act → Option (BridgeWorld μ ρ)
  | .submit i c =>
    match (w.clients i).state with
    | .idle => some (w.submit i c)
    | _ => none
  | .invoke i onUi c =>
    match (w.clients i).state with
    | .idle => some (w.invoke i onUi c)
    | _ => none
  | .retry i =>
    match (w.clients i).state with
    | .blocked c => some (w.invoke i false c)
    | _ => none
  | .hear i =>
    match (w.clients i).state with
    | .waiting number ticket => (w.bridge.answerTo ticket).map (w.hear i number)
    | _ => none
  | .clone => some { w with bridge := w.bridge.clone }
  | .release => some { w with bridge := w.bridge.release }
  | .shutdown => some { w with bridge := w.bridge.shutdown }
  | .stop => w.bridge.requestStop.map fun b => { w with bridge := b }
  | .work => (w.bridge.step engine).map w.work
  | .reply r => w.bridge.wants?.map fun request => w.reply request r

variable {engine : Engine μ ρ} {start w next : BridgeWorld μ ρ} {act : Act}

/-- What an act comes to when it is performed. -/
inductive Performed (engine : Engine μ ρ) (w : BridgeWorld μ ρ) : Act → BridgeWorld μ ρ → Prop
  | submit (i : Nat) (c : PendingCommand) (hIdle : (w.clients i).state = .idle) :
      Performed engine w (.submit i c) (w.submit i c)
  | invoke (i : Nat) (onUi : Bool) (c : PendingCommand) (hIdle : (w.clients i).state = .idle) :
      Performed engine w (.invoke i onUi c) (w.invoke i onUi c)
  | retry (i : Nat) (c : PendingCommand) (hBlocked : (w.clients i).state = .blocked c) :
      Performed engine w (.retry i) (w.invoke i false c)
  | hear (i number ticket : Nat) (result : Except BridgeError Outcome)
      (hWaiting : (w.clients i).state = .waiting number ticket)
      (hAnswer : w.bridge.answerTo ticket = some result) :
      Performed engine w (.hear i) (w.hear i number result)
  | clone : Performed engine w .clone { w with bridge := w.bridge.clone }
  | release : Performed engine w .release { w with bridge := w.bridge.release }
  | shutdown : Performed engine w .shutdown { w with bridge := w.bridge.shutdown }
  | stop (b : Bridge μ ρ) (hStop : w.bridge.requestStop = some b) :
      Performed engine w .stop { w with bridge := b }
  | work (b : Bridge μ ρ) (hStep : w.bridge.step engine = some b) :
      Performed engine w .work (w.work b)
  | reply (request : WindowRequest) (r : UiReply) (hWants : w.bridge.wants? = some request) :
      Performed engine w (.reply r) (w.reply request r)

/-- An act that can be performed comes to what is told of it. -/
theorem Performed.of_perform (h : w.perform engine act = some next) :
    Performed engine w act next := by
  -- an act of a client asks what the client is doing
  cases act with
  | submit i c =>
    simp only [perform] at h
    split at h
    · rename_i hIdle
      obtain rfl := Option.some.inj h
      exact .submit i c hIdle
    · contradiction
  | invoke i onUi c =>
    simp only [perform] at h
    split at h
    · rename_i hIdle
      obtain rfl := Option.some.inj h
      exact .invoke i onUi c hIdle
    · contradiction
  | retry i =>
    simp only [perform] at h
    split at h
    · rename_i c hBlocked
      obtain rfl := Option.some.inj h
      exact .retry i c hBlocked
    · contradiction
  | hear i =>
    simp only [perform] at h
    split at h
    · rename_i number ticket hWaiting
      obtain ⟨result, hAnswer, rfl⟩ := Option.map_eq_some_iff.1 h
      exact .hear i number ticket result hWaiting hAnswer
    · contradiction
  | clone =>
    obtain rfl := Option.some.inj h
    exact .clone
  | release =>
    obtain rfl := Option.some.inj h
    exact .release
  | shutdown =>
    obtain rfl := Option.some.inj h
    exact .shutdown
  | stop =>
    obtain ⟨b, hStop, rfl⟩ := Option.map_eq_some_iff.1 h
    exact .stop b hStop
  | work =>
    obtain ⟨b, hStep, rfl⟩ := Option.map_eq_some_iff.1 h
    exact .work b hStep
  | reply r =>
    obtain ⟨request, hWants, rfl⟩ := Option.map_eq_some_iff.1 h
    exact .reply request r hWants

/-- An act that can be performed is a step. -/
theorem Step.of_perform (h : w.perform engine act = some next) : Step engine w next := by
  cases Performed.of_perform h with
  | submit i c hIdle => exact .submit w i c hIdle
  | invoke i onUi c hIdle => exact .invoke w i onUi c hIdle
  | retry i c hBlocked => exact .retry w i c hBlocked
  | hear i number ticket result hWaiting hAnswer =>
    exact .hear w i number ticket result hWaiting hAnswer
  | clone => exact .clone w
  | release => exact .release w
  | shutdown => exact .shutdown w
  | stop b hStop => exact .stop w b hStop
  | work b hStep => exact .work w b hStep
  | reply request r hWants => exact .reply w request r hWants

/-- Every step is that of some act. -/
theorem Step.exists_act (h : Step engine w next) : ∃ act, w.perform engine act = some next := by
  cases h with
  | submit i c hIdle => exact ⟨.submit i c, by rw [perform, hIdle]⟩
  | invoke i onUi c hIdle => exact ⟨.invoke i onUi c, by rw [perform, hIdle]⟩
  | retry i c hBlocked => exact ⟨.retry i, by rw [perform, hBlocked]⟩
  | hear i number ticket result hWaiting hAnswer =>
    exact ⟨.hear i, by simp [perform, hWaiting, hAnswer]⟩
  | clone => exact ⟨.clone, rfl⟩
  | release => exact ⟨.release, rfl⟩
  | shutdown => exact ⟨.shutdown, rfl⟩
  | stop b hStop => exact ⟨.stop, by rw [perform, hStop]; rfl⟩
  | work b hStep => exact ⟨.work, by rw [perform, hStep]; rfl⟩
  | reply request r hWants => exact ⟨.reply r, by rw [perform, hWants]; rfl⟩

/-- A step is an act that can be performed. -/
theorem step_iff : Step engine w next ↔ ∃ act, w.perform engine act = some next :=
  ⟨Step.exists_act, fun ⟨_, h⟩ => .of_perform h⟩

/-! ## Histories -/

/-- An act, and the world in which it was performed. -/
structure Moment (μ ρ : Type) where
  world : BridgeWorld μ ρ
  act : Act

/-- The acts that led from one world to another, in their order. -/
inductive History (engine : Engine μ ρ) (start : BridgeWorld μ ρ) :
    List (Moment μ ρ) → BridgeWorld μ ρ → Prop
  | nil : History engine start [] start
  | snoc {past : List (Moment μ ρ)} {w next : BridgeWorld μ ρ} (h : History engine start past w)
      (act : Act) (hAct : w.perform engine act = some next) :
      History engine start (past ++ [⟨w, act⟩]) next

variable {past : List (Moment μ ρ)} {m : Moment μ ρ}

/-- A world with a history is reachable. -/
theorem History.reachable (h : History engine start past w) : Reachable engine start w := by
  induction h with
  | nil => exact .refl
  | snoc h act hAct ih => exact ih.step (.of_perform hAct)

/-- Whatever can be reached has a history. -/
theorem Reachable.exists_history (h : Reachable engine start w) :
    ∃ past, History engine start past w := by
  induction h with
  | refl => exact ⟨[], .nil⟩
  | step h hStep ih =>
    obtain ⟨past, hPast⟩ := ih
    obtain ⟨act, hAct⟩ := hStep.exists_act
    exact ⟨_, hPast.snoc act hAct⟩

/-- Every moment of a history begins in a world with a history, and its act leads on. -/
theorem History.moment (h : History engine start past w) (hIn : m ∈ past) :
    ∃ before next, History engine start before m.world ∧
      m.world.perform engine m.act = some next := by
  induction h with
  | nil => contradiction
  | snoc h act hAct ih =>
    rcases List.mem_append.1 hIn with hEarlier | hLast
    · exact ih hEarlier
    · obtain rfl := List.mem_singleton.1 hLast
      exact ⟨_, _, h, hAct⟩

/-! ## What enters the queue -/

/-- The request that an act would like to have in the queue. -/
def Moment.offered? (m : Moment μ ρ) : Option Request :=
  match m.act with
  | .submit _ c | .invoke _ false c => some (.invoke m.world.bridge.nextTicket c)
  | .retry i =>
    match (m.world.clients i).state with
    | .blocked c => some (.invoke m.world.bridge.nextTicket c)
    | _ => none
  | .shutdown | .stop => some .stop
  | .invoke _ true _ | .hear _ | .clone | .release | .work | .reply _ => none

/-- The request that an act has put at the end of the queue, if there is one. -/
def Moment.entered (m : Moment μ ρ) : List Request :=
  match m.offered? with
  | none => []
  | some r =>
    match m.world.bridge.offer r with
    | .ok _ => [r]
    | .error _ => []

/-- All requests that have entered the queue, commands and requests to stop, in their order. -/
def enteredIn (past : List (Moment μ ρ)) : List Request := past.flatMap Moment.entered

/-- What entered the queue is told moment by moment. -/
theorem enteredIn_snoc (past : List (Moment μ ρ)) (m : Moment μ ρ) :
    enteredIn (past ++ [m]) = enteredIn past ++ m.entered := by
  rw [enteredIn, List.flatMap_append, List.flatMap_singleton]
  rfl

/-- What an act does to the queue: what entered it stands at its end, or the worker takes the
command at its head, or the worker leaves it. -/
inductive Flow (m : Moment μ ρ) (next : BridgeWorld μ ρ) : Prop
  | joined (hQueue : next.bridge.queue = m.world.bridge.queue ++ m.entered)
      (hAlive : next.bridge.isAlive = m.world.bridge.isAlive)
      (hTaken : next.taken = m.world.taken)
      (hAccepted : next.accepted.map Accepted.request =
        m.world.accepted.map Accepted.request ++ m.entered.filterMap Request.command?)
  | took (ticket : Nat) (c : PendingCommand) (hEntered : m.entered = [])
      (hQueue : m.world.bridge.queue = .invoke ticket c :: next.bridge.queue)
      (hBefore : m.world.bridge.isAlive = true) (hAlive : next.bridge.isAlive = true)
      (hTaken : next.taken = m.world.taken ++ [ticket])
      (hAccepted : next.accepted = m.world.accepted)
  | left (hWork : m.act = .work) (hEntered : m.entered = [])
      (hWhy : (∃ rest, m.world.bridge.queue = .stop :: rest) ∨
        m.world.bridge.queue = [] ∧ m.world.bridge.handles = 0)
      (hQueue : next.bridge.queue = []) (hBefore : m.world.bridge.isAlive = true)
      (hAlive : next.bridge.isAlive = false)
      (hTaken : next.taken = m.world.taken) (hAccepted : next.accepted = m.world.accepted)

/-- Nothing enters the queue at a moment at which nothing is offered. -/
theorem Moment.entered_of_none (h : m.offered? = none) : m.entered = [] := by
  rw [entered, h]

/-- What is offered enters a queue that has room. -/
theorem Moment.entered_of_room {r : Request} (h : m.offered? = some r)
    (hAlive : m.world.bridge.isAlive = true)
    (hRoom : m.world.bridge.queue.length < m.world.bridge.capacity) : m.entered = [r] := by
  rw [entered, h]
  simp only [Bridge.offer_of_room hAlive hRoom]

/-- Nothing enters a full queue. -/
theorem Moment.entered_of_full (hAlive : m.world.bridge.isAlive = true)
    (hFull : m.world.bridge.capacity ≤ m.world.bridge.queue.length) : m.entered = [] := by
  rw [entered]
  split
  · rfl
  · rw [Bridge.offer_of_full hAlive hFull]

/-- Nothing enters the queue of a worker that has exited. -/
theorem Moment.entered_of_exited (hExited : m.world.bridge.isAlive = false) : m.entered = [] := by
  rw [entered]
  split
  · rfl
  · rw [Bridge.offer_of_exited hExited]

/-- An act that leaves the queue and the worker alone. -/
theorem Flow.of_same (hEntered : m.entered = [])
    (hQueue : next.bridge.queue = m.world.bridge.queue)
    (hAlive : next.bridge.isAlive = m.world.bridge.isAlive) (hTaken : next.taken = m.world.taken)
    (hAccepted : next.accepted = m.world.accepted) : Flow m next :=
  .joined (by rw [hEntered, hQueue, List.append_nil]) hAlive hTaken (by simp [hEntered, hAccepted])

/-- A command that is accepted goes to the end of the queue, and nothing leaves it. -/
theorem flow_accept {i : Nat} {state : ClientState} {c : PendingCommand}
    (hEntered : m.entered = [.invoke m.world.bridge.nextTicket c]) :
    Flow m (m.world.accept i state m.world.bridge.nextTicket c (m.world.bridge.queued c)) := by
  refine .joined ?_ rfl rfl ?_
  · rw [hEntered]
    rfl
  · simp [accept, hEntered, Accepted.request, Request.command?]

/-- So does one that is submitted, unless it is refused. -/
theorem flow_submit (w : BridgeWorld μ ρ) (i : Nat) (c : PendingCommand) :
    Flow ⟨w, .submit i c⟩ (w.submit i c) := by
  rw [submit]
  rcases w.bridge.room_cases with ⟨hAlive, hRoom⟩ | ⟨hAlive, hFull⟩ | hExited
  · rw [Bridge.submit_of_room hAlive hRoom]
    exact flow_accept (Moment.entered_of_room rfl hAlive hRoom)
  · rw [Bridge.submit_of_full hAlive hFull]
    exact .of_same (Moment.entered_of_full hAlive hFull) rfl rfl rfl rfl
  · rw [Bridge.submit_of_exited hExited]
    exact .of_same (Moment.entered_of_exited hExited) rfl rfl rfl rfl

/-- A call that waits, made for the first time or again. -/
theorem flow_invoke {i : Nat} {c : PendingCommand}
    (hOffered : m.offered? = some (.invoke m.world.bridge.nextTicket c)) :
    Flow m (m.world.invoke i false c) := by
  rw [invoke]
  rcases m.world.bridge.room_cases with ⟨hAlive, hRoom⟩ | ⟨hAlive, hFull⟩ | hExited
  · rw [Bridge.invoke_of_room hAlive hRoom]
    exact flow_accept (Moment.entered_of_room hOffered hAlive hRoom)
  · rw [Bridge.invoke_of_full hAlive hFull]
    exact .of_same (Moment.entered_of_full hAlive hFull) rfl rfl rfl rfl
  · rw [Bridge.invoke_of_exited hExited]
    exact .of_same (Moment.entered_of_exited hExited) rfl rfl rfl rfl

/-- A stop that is asked for on shutting down enters where there is room, and is forgotten where
there is none. -/
theorem flow_shutdown (w : BridgeWorld μ ρ) :
    Flow ⟨w, .shutdown⟩ { w with bridge := w.bridge.shutdown } := by
  rw [Bridge.shutdown]
  rcases w.bridge.room_cases with ⟨hAlive, hRoom⟩ | ⟨hAlive, hFull⟩ | hExited
  · rw [Bridge.offer_of_room hAlive hRoom]
    have hEntered : Moment.entered ⟨w, .shutdown⟩ = [.stop] :=
      Moment.entered_of_room rfl hAlive hRoom
    exact .joined (by rw [hEntered]; rfl) rfl rfl (by simp [hEntered, Request.command?])
  · rw [Bridge.offer_of_full hAlive hFull]
    exact .of_same (Moment.entered_of_full hAlive hFull) rfl rfl rfl rfl
  · rw [Bridge.offer_of_exited hExited]
    exact .of_same (Moment.entered_of_exited hExited) rfl rfl rfl rfl

/-- A stop that waits for room enters once there is some. -/
theorem flow_stop {b : Bridge μ ρ} (hStop : w.bridge.requestStop = some b) :
    Flow ⟨w, .stop⟩ { w with bridge := b } := by
  rw [Bridge.requestStop] at hStop
  rcases w.bridge.room_cases with ⟨hAlive, hRoom⟩ | ⟨hAlive, hFull⟩ | hExited
  · rw [Bridge.offer_of_room hAlive hRoom] at hStop
    obtain rfl := Option.some.inj hStop
    have hEntered : Moment.entered ⟨w, .stop⟩ = [.stop] := Moment.entered_of_room rfl hAlive hRoom
    exact .joined (by rw [hEntered]; rfl) rfl rfl (by simp [hEntered, Request.command?])
  · rw [Bridge.offer_of_full hAlive hFull] at hStop
    contradiction
  · rw [Bridge.offer_of_exited hExited] at hStop
    obtain rfl := Option.some.inj hStop
    exact .of_same (Moment.entered_of_exited hExited) rfl rfl rfl rfl

/-- A worker that goes on takes at most the first request of the queue. -/
theorem flow_work {b : Bridge μ ρ} (hStep : w.bridge.step engine = some b)
    (hImported : ∀ run, w.bridge.worker ≠ .importing run) : Flow ⟨w, .work⟩ (w.work b) := by
  have hEntered : Moment.entered ⟨w, .work⟩ = [] := rfl
  unfold Bridge.step at hStep
  rw [work]
  -- the worker finishes, or it looks at the head of the queue
  cases hWorker : w.bridge.worker with
  | importing run => exact absurd hWorker (hImported run)
  | exited failure =>
    rw [hWorker] at hStep
    contradiction
  | running ticket run =>
    have hAlive : w.bridge.isAlive = true := by rw [Bridge.isAlive, hWorker]
    rw [hWorker] at hStep
    cases run with
    | ask request resume => contradiction
    | done value =>
      obtain rfl := Option.some.inj hStep
      exact .of_same hEntered rfl hAlive.symm rfl rfl
  | idle session =>
    have hAlive : w.bridge.isAlive = true := by rw [Bridge.isAlive, hWorker]
    rw [hWorker] at hStep
    cases hQueue : w.bridge.queue with
    | nil =>
      rw [hQueue] at hStep
      simp only at hStep
      split at hStep
      · rename_i hNobody
        obtain rfl := Option.some.inj hStep
        exact .left rfl hEntered (.inr ⟨hQueue, hNobody⟩) rfl hAlive rfl rfl rfl
      · contradiction
    | cons r rest =>
      rw [hQueue] at hStep
      cases r with
      | stop =>
        obtain rfl := Option.some.inj hStep
        exact .left rfl hEntered (.inl ⟨rest, hQueue⟩) rfl hAlive rfl rfl rfl
      | invoke ticket c =>
        obtain rfl := Option.some.inj hStep
        exact .took ticket c hEntered hQueue hAlive rfl rfl rfl

/-- An answer of the UI leaves the queue alone. -/
theorem flow_reply {request : WindowRequest} (hWants : w.bridge.wants? = some request)
    (r : UiReply) : Flow ⟨w, .reply r⟩ (w.reply request r) := by
  have hEntered : Moment.entered ⟨w, .reply r⟩ = [] := rfl
  -- a worker that is answered goes on with what it does
  unfold Bridge.wants? at hWants
  split at hWants
  · rename_i hWorker
    refine .of_same hEntered ?_ ?_ rfl rfl
    · simp [reply, Bridge.answer, hWorker]
    · simp [reply, Bridge.answer, Bridge.isAlive, hWorker]
  · rename_i hWorker
    refine .of_same hEntered ?_ ?_ rfl rfl
    · simp [reply, Bridge.answer, hWorker]
    · simp [reply, Bridge.answer, Bridge.isAlive, hWorker]
  · contradiction

/-- **What an act can do to the queue** once the import is over. -/
theorem Flow.of_perform (h : w.perform engine act = some next)
    (hImported : ∀ run, w.bridge.worker ≠ .importing run) : Flow ⟨w, act⟩ next := by
  cases Performed.of_perform h with
  | submit i c hIdle => exact flow_submit w i c
  | invoke i onUi c hIdle =>
    cases onUi with
    | true => exact .of_same rfl rfl rfl rfl rfl
    | false => exact flow_invoke rfl
  | retry i c hBlocked =>
    exact flow_invoke (m := ⟨w, .retry i⟩) (by simp only [Moment.offered?, hBlocked])
  | hear i number ticket result hWaiting hAnswer => exact .of_same rfl rfl rfl rfl rfl
  | clone => exact .of_same rfl rfl rfl rfl rfl
  | release => exact .of_same rfl rfl rfl rfl rfl
  | shutdown => exact flow_shutdown w
  | stop b hStop => exact flow_stop hStop
  | work b hStep => exact flow_work hStep hImported
  | reply request r hWants => exact flow_reply hWants r

/-- The acts of a history do nothing else to the queue. -/
theorem History.flow {first : Session μ ρ} (hStart : Kept engine first start)
    (h : History engine start past w) (hAct : w.perform engine act = some next) :
    Flow ⟨w, act⟩ next := by
  obtain ⟨turns, s, hProgress⟩ := (h.reachable.kept hStart).progress
  exact .of_perform hAct hProgress.not_importing

end BridgeWorld

/-! ## A bridge to count touches with -/

/-- The only command of the module. -/
def touchCommand : PendingCommand := { name := "Touch" }

/-- The bridge with the module imported, and nothing asked of it yet. -/
def touchWorld (capacity : Nat) : BridgeWorld Unit Unit :=
  { bridge := { capacity := capacity, worker := .idle (touchSession .ready) } }

theorem launch_touch (capacity : Nat) :
    Bridge.launch touchEngine capacity ((Session.fresh touchEngine).startIn touchEngine touchTree
      ⟨"touch"⟩) = .ok (touchWorld (max capacity 1)).bridge := by
  rw [startIn_touchTree]
  rfl

end ScriptWindows
