import ScriptWindows.Proofs.Bridge.GoingOn
import ScriptWindows.Proofs.Bridge.Tracing

/-!
# Clients of a bridge

Any number of clients hold clones of one handle. Each makes its calls one after another, some of
which wait: for room in the queue, or for an answer. Between them the worker moves, and so does
the UI that it asks for windows. A step is one move of one of these, so a run of steps is any
order of moves.

Beside the bridge itself a `BridgeWorld` keeps what happened: which calls became requests, which
were refused, what the worker took up, what the UI answered, and what clients heard. No step looks
at any of that.

Main results:

* `Bridge.submit_cases`, `Bridge.invoke_cases`: a call either puts one request at the end of the
  queue, or it touches nothing the worker looks at.
* `BridgeWorld.Step.move`: what a step can do once the import is over.
* `BridgeWorld.Reachable.advance`: moves lead wherever the worker goes on to.
-/

namespace ScriptWindows

variable {μ ρ : Type}

/-! ## What happens -/

/-- What a client is doing: nothing, waiting for room in the queue, or waiting for the answer to
the call of this number. -/
inductive ClientState
  | idle
  | blocked (command : PendingCommand)
  | waiting (number ticket : Nat)

/-- A client, and how many calls it has made. -/
structure Client where
  state : ClientState := .idle
  made : Nat := 0

/-- A call that became a request: the client and the number of the call among its calls. -/
structure Accepted where
  client : Nat
  number : Nat
  ticket : Nat
  command : PendingCommand

/-- A call that did not become a request. -/
structure Refused where
  client : Nat
  number : Nat

/-- What a waiting client heard. -/
structure Heard where
  client : Nat
  number : Nat
  result : Except BridgeError Outcome

/-- A bridge with its clients, and what happened so far. -/
structure BridgeWorld (μ ρ : Type) where
  bridge : Bridge μ ρ
  clients : Nat → Client := fun _ => {}
  /-- Requests in the order in which they entered the queue. -/
  accepted : List Accepted := []
  refused : List Refused := []
  /-- Tickets in the order in which the worker took them up. -/
  taken : List Nat := []
  /-- What the UI answered to the commands that have finished, and to the one that runs. -/
  exchanges : List UiExchange := []
  current : UiExchange := []
  heard : List Heard := []

namespace BridgeWorld

/-! ## Moves -/

def setClient (w : BridgeWorld μ ρ) (i : Nat) (c : Client) : BridgeWorld μ ρ :=
  { w with clients := fun j => if j = i then c else w.clients j }

/-- A call of a client became a request. -/
def accept (w : BridgeWorld μ ρ) (i : Nat) (state : ClientState) (ticket : Nat)
    (c : PendingCommand) (b : Bridge μ ρ) : BridgeWorld μ ρ :=
  { w.setClient i ⟨state, (w.clients i).made + 1⟩ with
    bridge := b
    accepted := w.accepted ++ [⟨i, (w.clients i).made, ticket, c⟩] }

/-- A call of a client was refused. -/
def refuse (w : BridgeWorld μ ρ) (i : Nat) (b : Bridge μ ρ) : BridgeWorld μ ρ :=
  { w.setClient i ⟨.idle, (w.clients i).made + 1⟩ with
    bridge := b
    refused := w.refused ++ [⟨i, (w.clients i).made⟩] }

/-- A client submits a command. -/
def submit (w : BridgeWorld μ ρ) (i : Nat) (c : PendingCommand) : BridgeWorld μ ρ :=
  match w.bridge.submit c with
  | (.ok ticket, b) => w.accept i .idle ticket c b
  | (.error _, b) => w.refuse i b

/-- A client calls a command and waits, for room in the queue if there is none. -/
def invoke (w : BridgeWorld μ ρ) (i : Nat) (onUi : Bool) (c : PendingCommand) :
    BridgeWorld μ ρ :=
  match w.bridge.invoke onUi c with
  | (.ok (some ticket), b) => w.accept i (.waiting (w.clients i).made ticket) ticket c b
  | (.ok none, b) => { w.setClient i ⟨.blocked c, (w.clients i).made⟩ with bridge := b }
  | (.error _, b) => w.refuse i b

/-- A waiting client hears what became of its call. -/
def hear (w : BridgeWorld μ ρ) (i number : Nat) (result : Except BridgeError Outcome) :
    BridgeWorld μ ρ :=
  { w.setClient i ⟨.idle, (w.clients i).made⟩ with heard := w.heard ++ [⟨i, number, result⟩] }

/-- The worker moves on its own: it finishes a command, or takes one up, or exits. -/
def work (w : BridgeWorld μ ρ) (b : Bridge μ ρ) : BridgeWorld μ ρ :=
  match w.bridge.worker, w.bridge.queue with
  | .running _ (.done _), _ =>
    { w with bridge := b, exchanges := w.exchanges ++ [w.current], current := [] }
  | .idle _, .invoke ticket _ :: _ => { w with bridge := b, taken := w.taken ++ [ticket] }
  | _, _ => { w with bridge := b }

/-- The UI answers the worker. -/
def reply (w : BridgeWorld μ ρ) (request : WindowRequest) (r : UiReply) : BridgeWorld μ ρ :=
  { w with bridge := w.bridge.answer r, current := w.current ++ [(request, r)] }

/-- One move, of any client, of the worker, or of the UI. -/
inductive Step (engine : Engine μ ρ) : BridgeWorld μ ρ → BridgeWorld μ ρ → Prop
  | submit (w : BridgeWorld μ ρ) (i : Nat) (c : PendingCommand)
      (hIdle : (w.clients i).state = .idle) : Step engine w (w.submit i c)
  | invoke (w : BridgeWorld μ ρ) (i : Nat) (onUi : Bool) (c : PendingCommand)
      (hIdle : (w.clients i).state = .idle) : Step engine w (w.invoke i onUi c)
  | retry (w : BridgeWorld μ ρ) (i : Nat) (c : PendingCommand)
      (hBlocked : (w.clients i).state = .blocked c) : Step engine w (w.invoke i false c)
  | hear (w : BridgeWorld μ ρ) (i number ticket : Nat) (result : Except BridgeError Outcome)
      (hWaiting : (w.clients i).state = .waiting number ticket)
      (hAnswer : w.bridge.answerTo ticket = some result) : Step engine w (w.hear i number result)
  | clone (w : BridgeWorld μ ρ) : Step engine w { w with bridge := w.bridge.clone }
  | release (w : BridgeWorld μ ρ) : Step engine w { w with bridge := w.bridge.release }
  | shutdown (w : BridgeWorld μ ρ) : Step engine w { w with bridge := w.bridge.shutdown }
  | stop (w : BridgeWorld μ ρ) (b : Bridge μ ρ) (hStop : w.bridge.requestStop = some b) :
      Step engine w { w with bridge := b }
  | work (w : BridgeWorld μ ρ) (b : Bridge μ ρ) (hStep : w.bridge.step engine = some b) :
      Step engine w (w.work b)
  | reply (w : BridgeWorld μ ρ) (request : WindowRequest) (r : UiReply)
      (hWants : w.bridge.wants? = some request) : Step engine w (w.reply request r)

/-- What moves in any order can lead to. -/
inductive Reachable (engine : Engine μ ρ) (first : BridgeWorld μ ρ) : BridgeWorld μ ρ → Prop
  | refl : Reachable engine first first
  | step {w next : BridgeWorld μ ρ} (h : Reachable engine first w) (hStep : Step engine w next) :
      Reachable engine first next

end BridgeWorld

/-! ## What calls do to a bridge -/

/-- The command a request is about. -/
def Request.command? : Request → Option (Nat × PendingCommand)
  | .invoke ticket c => some (ticket, c)
  | .stop => none

namespace Bridge

/-- The bridge with one more request at the end of its queue. -/
def queued (b : Bridge μ ρ) (c : PendingCommand) : Bridge μ ρ :=
  { b with queue := b.queue ++ [.invoke b.nextTicket c], nextTicket := b.nextTicket + 1 }

/-- Two bridges whose workers have the same to do and have done the same. -/
structure SameWork (b other : Bridge μ ρ) : Prop where
  worker : other.worker = b.worker
  queue : other.queue.filterMap Request.command? = b.queue.filterMap Request.command?
  replies : other.replies = b.replies
  nextTicket : other.nextTicket = b.nextTicket

theorem SameWork.refl (b : Bridge μ ρ) : SameWork b b := ⟨rfl, rfl, rfl, rfl⟩

/-- A command enters the queue of a worker that is alive, or is refused. -/
theorem offerCommand_cases (b : Bridge μ ρ) (c : PendingCommand) :
    (b.isAlive = true ∧ b.offerCommand c = .ok (b.nextTicket, b.queued c)) ∨
      ∃ e, b.offerCommand c = .error e := by
  -- there is a worker and room, or a worker without room, or no worker
  unfold offerCommand offer
  by_cases hAlive : b.isAlive = true
  · by_cases hRoom : b.queue.length < b.capacity
    · refine .inl ⟨hAlive, ?_⟩
      rw [if_pos hAlive, if_pos hRoom]
      rfl
    · refine .inr ⟨.full, ?_⟩
      rw [if_pos hAlive, if_neg hRoom]
  · refine .inr ⟨.stopped, ?_⟩
    rw [if_neg hAlive]

/-- **A submitted command** enters the queue of a worker that is alive, or it is refused. -/
theorem submit_cases (b : Bridge μ ρ) (c : PendingCommand) :
    (b.isAlive = true ∧ b.submit c = (.ok b.nextTicket, b.queued c)) ∨
      ∃ e after, b.submit c = (.error e, after) ∧ SameWork b after := by
  rw [submit]
  rcases b.offerCommand_cases c with ⟨hAlive, hOk⟩ | ⟨e, hError⟩
  · rw [hOk]
    exact .inl ⟨hAlive, rfl⟩
  · rw [hError]
    cases e with
    | full => exact .inr ⟨_, _, rfl, rfl, rfl, rfl, rfl⟩
    | stopped => exact .inr ⟨_, _, rfl, .refl b⟩

/-- **A command that is waited for** enters the queue of a worker that is alive, or waits for room,
or is refused. -/
theorem invoke_cases (b : Bridge μ ρ) (onUi : Bool) (c : PendingCommand) :
    (b.isAlive = true ∧ b.invoke onUi c = (.ok (some b.nextTicket), b.queued c)) ∨
      b.invoke onUi c = (.ok none, b) ∨ ∃ e, b.invoke onUi c = (.error e, b) := by
  rw [invoke]
  cases onUi with
  | true => exact .inr (.inr ⟨_, rfl⟩)
  | false =>
    rcases b.offerCommand_cases c with ⟨hAlive, hOk⟩ | ⟨e, hError⟩
    · rw [hOk]
      exact .inl ⟨hAlive, rfl⟩
    · rw [hError]
      cases e with
      | full => exact .inr (.inl rfl)
      | stopped => exact .inr (.inr ⟨_, rfl⟩)

/-- A stop that enters the queue adds no command to it. -/
theorem sameWork_offer_stop {b after : Bridge μ ρ} (h : b.offer .stop = .ok after) :
    SameWork b after := by
  -- a request to stop is no command, so no more commands wait than before
  unfold offer at h
  split at h
  · split at h
    · obtain rfl := Except.ok.inj h
      exact ⟨rfl, by simp [Request.command?], rfl, rfl⟩
    · contradiction
  · contradiction

/-- Shutting down changes neither the commands nor the worker. -/
theorem sameWork_shutdown (b : Bridge μ ρ) : SameWork b b.shutdown := by
  unfold shutdown
  split
  · rename_i after hOffer
    obtain ⟨hWorker, hQueue, hReplies, hTicket⟩ := sameWork_offer_stop hOffer
    exact ⟨hWorker, hQueue, hReplies, hTicket⟩
  · exact ⟨rfl, rfl, rfl, rfl⟩

/-- Nor does waiting for room for a stop. -/
theorem sameWork_requestStop {b after : Bridge μ ρ} (h : b.requestStop = some after) :
    SameWork b after := by
  unfold requestStop at h
  split at h
  · rename_i stopped hOffer
    obtain rfl := Option.some.inj h
    obtain ⟨hWorker, hQueue, hReplies, hTicket⟩ := sameWork_offer_stop hOffer
    exact ⟨hWorker, hQueue, hReplies, hTicket⟩
  · contradiction
  · obtain rfl := Option.some.inj h
    exact ⟨rfl, rfl, rfl, rfl⟩

end Bridge

/-! ## Moves of the worker -/

namespace BridgeWorld

/-- The request at the head of the queue is taken up. -/
def takeUp (w : BridgeWorld μ ρ) (engine : Engine μ ρ) (session : Session μ ρ) (ticket : Nat)
    (c : PendingCommand) (rest : List Request) : BridgeWorld μ ρ :=
  { w with
    bridge := { w.bridge with
      queue := rest
      worker := .running ticket (session.invokeCommand engine c) }
    taken := w.taken ++ [ticket] }

/-- The command that runs has finished. -/
def finish (w : BridgeWorld μ ρ) (ticket : Nat) (result : Except BridgeError Outcome)
    (session : Session μ ρ) : BridgeWorld μ ρ :=
  { w with
    bridge := w.bridge.finishCommand ticket result session
    exchanges := w.exchanges ++ [w.current]
    current := [] }

/-- What a step can do to a world whose worker has imported its module. -/
inductive Move (engine : Engine μ ρ) (w : BridgeWorld μ ρ) : BridgeWorld μ ρ → Prop
  | accepted (i : Nat) (state : ClientState) (c : PendingCommand) (hAlive : w.bridge.isAlive = true)
      (hState : state = .idle ∨ state = .waiting (w.clients i).made w.bridge.nextTicket) :
      Move engine w (w.accept i state w.bridge.nextTicket c (w.bridge.queued c))
  | refused (i : Nat) (b : Bridge μ ρ) (hSame : w.bridge.SameWork b) : Move engine w (w.refuse i b)
  | blocked (i : Nat) (c : PendingCommand) :
      Move engine w (w.setClient i ⟨.blocked c, (w.clients i).made⟩)
  | heard (i number ticket : Nat) (result : Except BridgeError Outcome)
      (hWaiting : (w.clients i).state = .waiting number ticket)
      (hAnswer : w.bridge.answerTo ticket = some result) : Move engine w (w.hear i number result)
  | bridged (b : Bridge μ ρ) (hSame : w.bridge.SameWork b) : Move engine w { w with bridge := b }
  | tookUp (session : Session μ ρ) (ticket : Nat) (c : PendingCommand) (rest : List Request)
      (hWorker : w.bridge.worker = .idle session)
      (hQueue : w.bridge.queue = .invoke ticket c :: rest) :
      Move engine w (w.takeUp engine session ticket c rest)
  | finished (ticket : Nat) (result : Except BridgeError Outcome) (session : Session μ ρ)
      (hWorker : w.bridge.worker = .running ticket (.done (result, session))) :
      Move engine w (w.finish ticket result session)
  | exited (session : Session μ ρ) (hWorker : w.bridge.worker = .idle session) :
      Move engine w { w with bridge := w.bridge.exit none }
  | answered (ticket : Nat) (request : WindowRequest)
      (resume : UiReply → UiRun (Except BridgeError Outcome × Session μ ρ)) (r : UiReply)
      (hWorker : w.bridge.worker = .running ticket (.ask request resume)) :
      Move engine w { w with
        bridge := { w.bridge with worker := .running ticket (resume r) }
        current := w.current ++ [(request, r)] }

/-- A submission is a move. -/
theorem move_submit (engine : Engine μ ρ) (w : BridgeWorld μ ρ) (i : Nat) (c : PendingCommand) :
    Move engine w (w.submit i c) := by
  rw [submit]
  rcases w.bridge.submit_cases c with ⟨hAlive, hOk⟩ | ⟨e, after, hError, hSame⟩
  · rw [hOk]
    exact .accepted i .idle c hAlive (.inl rfl)
  · rw [hError]
    exact .refused i after hSame

/-- So is an invocation. -/
theorem move_invoke (engine : Engine μ ρ) (w : BridgeWorld μ ρ) (i : Nat) (onUi : Bool)
    (c : PendingCommand) : Move engine w (w.invoke i onUi c) := by
  rw [invoke]
  rcases w.bridge.invoke_cases onUi c with ⟨hAlive, hOk⟩ | hFull | ⟨e, hError⟩
  · rw [hOk]
    exact .accepted i _ c hAlive (.inr rfl)
  · rw [hFull]
    exact .blocked i c
  · rw [hError]
    exact .refused i _ (.refl _)

/-- So is a step of the worker, once the module is imported. -/
theorem move_work {engine : Engine μ ρ} {w : BridgeWorld μ ρ} {b : Bridge μ ρ}
    (hStep : w.bridge.step engine = some b) (hImported : ∀ run, w.bridge.worker ≠ .importing run) :
    Move engine w (w.work b) := by
  unfold Bridge.step at hStep
  rw [work]
  -- what the worker does on its own is told by its state and the head of the queue
  cases hWorker : w.bridge.worker with
  | importing run => exact absurd hWorker (hImported run)
  | exited failure =>
    rw [hWorker] at hStep
    contradiction
  | running ticket run =>
    rw [hWorker] at hStep
    cases run with
    | ask request resume => contradiction
    | done value =>
      obtain rfl := Option.some.inj hStep
      exact .finished ticket value.1 value.2 hWorker
  | idle session =>
    rw [hWorker] at hStep
    cases hQueue : w.bridge.queue with
    | nil =>
      rw [hQueue] at hStep
      simp only at hStep
      split at hStep
      · obtain rfl := Option.some.inj hStep
        exact .exited session hWorker
      · contradiction
    | cons r rest =>
      rw [hQueue] at hStep
      cases r with
      | stop =>
        obtain rfl := Option.some.inj hStep
        exact .exited session hWorker
      | invoke ticket c =>
        obtain rfl := Option.some.inj hStep
        exact .tookUp session ticket c rest hWorker hQueue

/-- So is an answer of the UI. -/
theorem move_reply {engine : Engine μ ρ} {w : BridgeWorld μ ρ} {request : WindowRequest}
    (hWants : w.bridge.wants? = some request) (hImported : ∀ run, w.bridge.worker ≠ .importing run)
    (r : UiReply) : Move engine w (w.reply request r) := by
  -- only a worker that runs a command waits for a window
  unfold Bridge.wants? at hWants
  split at hWants
  · rename_i hWorker
    exact absurd hWorker (hImported _)
  · rename_i ticket asked resume hWorker
    obtain rfl := Option.some.inj hWants
    rw [reply, Bridge.answer, hWorker]
    exact .answered ticket asked resume r hWorker
  · contradiction

/-- **What a step can do once the import is over.** -/
theorem Step.move {engine : Engine μ ρ} {w next : BridgeWorld μ ρ} (h : Step engine w next)
    (hImported : ∀ run, w.bridge.worker ≠ .importing run) : Move engine w next := by
  cases h with
  | submit i c hIdle => exact move_submit engine w i c
  | invoke i onUi c hIdle => exact move_invoke engine w i onUi c
  | retry i c hBlocked => exact move_invoke engine w i false c
  | hear i number ticket result hWaiting hAnswer =>
    exact .heard i number ticket result hWaiting hAnswer
  | clone => exact .bridged _ ⟨rfl, rfl, rfl, rfl⟩
  | release => exact .bridged _ ⟨rfl, rfl, rfl, rfl⟩
  | shutdown => exact .bridged _ w.bridge.sameWork_shutdown
  | stop b hStop => exact .bridged b (Bridge.sameWork_requestStop hStop)
  | work b hStep => exact move_work hStep hImported
  | reply request r hWants => exact move_reply hWants hImported r

/-! ## The worker going on -/

theorem bridge_work (w : BridgeWorld μ ρ) (b : Bridge μ ρ) : (w.work b).bridge = b := by
  unfold work
  split <;> rfl

/-- What a bridge comes to by itself is reached in the world around it. -/
theorem Reachable.goesOn {engine : Engine μ ρ} {first w : BridgeWorld μ ρ} {now b : Bridge μ ρ}
    (h : Reachable engine first w) (hNow : w.bridge = now) (hGoesOn : now.GoesOn engine b) :
    ∃ next, Reachable engine first next ∧ next.bridge = b := by
  -- each small step is a move of the worker, each answer a move of the UI
  induction hGoesOn generalizing w with
  | refl b => exact ⟨w, h, hNow⟩
  | @step now after last hStep hRest ih =>
    subst hNow
    exact ih (h.step (.work w after hStep)) (bridge_work w after)
  | answer r hWants hRest ih =>
    subst hNow
    exact ih (h.step (.reply w _ r hWants)) rfl

/-- **Moves lead wherever the worker goes on to**, whatever surrounds it. -/
theorem Reachable.advance {σ : Type} {engine : Engine μ ρ} {first w : BridgeWorld μ ρ}
    (h : Reachable engine first w) (env : Bridge.Surroundings σ) (s : σ) :
    ∃ next, Reachable engine first next ∧
      next.bridge = ((w.bridge.advance engine env).run s).1 :=
  h.goesOn rfl (Bridge.goesOn_advance engine env w.bridge s)

end BridgeWorld

end ScriptWindows
