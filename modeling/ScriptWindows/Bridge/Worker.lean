import ScriptWindows.Bridge.Session

/-!
# The bridge to a session

One worker owns a session and runs the commands of all clients in the order in which they
entered its queue. The queue holds so many requests and no more. A client either waits for its
answer, or submits a command and is told later; a command that finds the queue full is refused
and leaves no trace but a count. The worker stops when it takes a request to do so, or when
nobody is left who could send one; what is still queued then is never run.

The worker moves in small steps (`step`, `answer`), which may come in any order with what
clients do. `advance` takes as many of them as it can.

Main results:

* `length_queue_offer`: the queue never holds more than it can.
* `submit_of_full`: a full queue refuses, counts the refusal and changes nothing else.
* `answerTo_of_replied`: a command is answered by its own outcome.
* `answerTo_of_isAwaited`: whoever waits for a command that an exited worker has left hears that the
  worker has stopped.
-/

namespace ScriptWindows

/-- A request to the worker: a command with the ticket of whoever gave it, or to stop. -/
inductive Request
  | invoke (ticket : Nat) (command : PendingCommand)
  | stop

variable {μ ρ σ : Type}

/-- What the worker is doing. -/
inductive WorkerState (μ ρ : Type)
  | importing (run : UiRun (Except BridgeError Unit × Session μ ρ))
  | idle (session : Session μ ρ)
  | running (ticket : Nat) (run : UiRun (Except BridgeError Outcome × Session μ ρ))
  | exited (failure : Option BridgeError)

/-- A bridge: its queue, its worker, the handles that clients hold, how many commands were
refused, and the outcomes so far in the order in which commands finished. -/
structure Bridge (μ ρ : Type) where
  capacity : Nat
  queue : List Request := []
  worker : WorkerState μ ρ
  handles : Nat := 1
  nextTicket : Nat := 0
  dropped : Nat := 0
  replies : List (Nat × Except BridgeError Outcome) := []

namespace Bridge

/-- A bridge whose worker begins with an import. At least one request can be queued. -/
def spawn (capacity : Nat) (run : UiRun (Except BridgeError Unit × Session μ ρ)) : Bridge μ ρ :=
  { capacity := max capacity 1, worker := .importing run }

/-- Whether the worker still takes requests. -/
def isAlive (b : Bridge μ ρ) : Bool :=
  match b.worker with
  | .exited _ => false
  | _ => true

/-- The failure of the import, if that is why the worker has exited. -/
def importFailure? (b : Bridge μ ρ) : Option BridgeError :=
  match b.worker with
  | .exited failure => failure
  | _ => none

/-! ## Clients -/

/-- Why a request does not enter the queue. -/
inductive Refusal
  | full
  | stopped
deriving DecidableEq, Repr

/-- Let a request into the queue if there is room. -/
def offer (b : Bridge μ ρ) (r : Request) : Except Refusal (Bridge μ ρ) :=
  if b.isAlive then
    if b.queue.length < b.capacity then .ok { b with queue := b.queue ++ [r] } else .error .full
  else .error .stopped

/-- Give a command its ticket and let it into the queue. -/
def offerCommand (b : Bridge μ ρ) (c : PendingCommand) : Except Refusal (Nat × Bridge μ ρ) :=
  match b.offer (.invoke b.nextTicket c) with
  | .ok after => .ok (b.nextTicket, { after with nextTicket := b.nextTicket + 1 })
  | .error e => .error e

/-- Queue a command without waiting. A refused one is counted if the queue was full. -/
def submit (b : Bridge μ ρ) (c : PendingCommand) : Except BridgeError Nat × Bridge μ ρ :=
  match b.offerCommand c with
  | .ok (ticket, after) => (.ok ticket, after)
  | .error .full => (.error (.queueFull b.capacity), { b with dropped := b.dropped + 1 })
  | .error .stopped => (.error .workerStopped, b)

/-- Queue a command whose client waits for it, which the UI thread may not do. With a full queue
there is no ticket yet and the client tries again. -/
def invoke (b : Bridge μ ρ) (onUi : Bool) (c : PendingCommand) :
    Except BridgeError (Option Nat) × Bridge μ ρ :=
  if onUi then (.error .blockingOnUiThread, b)
  else match b.offerCommand c with
    | .ok (ticket, after) => (.ok (some ticket), after)
    | .error .full => (.ok none, b)
    | .error .stopped => (.error .workerStopped, b)

/-- What a waiting client hears, once there is something to hear: the outcome of its command, or
that the worker has stopped before it. -/
def answerTo (b : Bridge μ ρ) (ticket : Nat) : Option (Except BridgeError Outcome) :=
  match b.replies.lookup ticket with
  | some result => some result
  | none => if b.isAlive then none else some (.error .workerStopped)

/-- Whether a command is still without an outcome. -/
def isAwaited (b : Bridge μ ρ) (ticket : Nat) : Bool := (b.replies.lookup ticket).isNone

/-- One more handle. -/
def clone (b : Bridge μ ρ) : Bridge μ ρ := { b with handles := b.handles + 1 }

/-- One handle less. -/
def release (b : Bridge μ ρ) : Bridge μ ρ := { b with handles := b.handles - 1 }

/-- Ask the worker to stop, if there is room to ask, and give one's handle up. -/
def shutdown (b : Bridge μ ρ) : Bridge μ ρ :=
  match b.offer .stop with
  | .ok after => after.release
  | .error _ => b.release

/-- Ask the worker to stop as soon as there is room to ask: nothing while the queue is full. -/
def requestStop (b : Bridge μ ρ) : Option (Bridge μ ρ) :=
  match b.offer .stop with
  | .ok after => some after.release
  | .error .full => none
  | .error .stopped => some b.release

/-! ## The worker -/

/-- The bridge whose worker has exited: what was queued is lost. -/
def exit (b : Bridge μ ρ) (failure : Option BridgeError) : Bridge μ ρ :=
  { b with worker := .exited failure, queue := [] }

/-- The import has come to its end. -/
def finishImport (b : Bridge μ ρ) (result : Except BridgeError Unit) (session : Session μ ρ) :
    Bridge μ ρ :=
  match result with
  | .ok () => { b with worker := .idle session }
  | .error e => b.exit (some e)

/-- A command has come to its end. -/
def finishCommand (b : Bridge μ ρ) (ticket : Nat) (result : Except BridgeError Outcome)
    (session : Session μ ρ) : Bridge μ ρ :=
  { b with worker := .idle session, replies := b.replies ++ [(ticket, result)] }

/-- One step of the worker on its own; none if it waits for others or has exited. -/
def step (engine : Engine μ ρ) (b : Bridge μ ρ) : Option (Bridge μ ρ) :=
  match b.worker with
  | .importing (.done (result, session)) => some (b.finishImport result session)
  | .running ticket (.done (result, session)) => some (b.finishCommand ticket result session)
  | .importing (.ask ..) | .running _ (.ask ..) | .exited _ => none
  | .idle session =>
    match b.queue with
    | .invoke ticket c :: rest =>
      some { b with queue := rest, worker := .running ticket (session.invokeCommand engine c) }
    | .stop :: _ => some (b.exit none)
    -- nobody is left who could send anything
    | [] => if b.handles = 0 then some (b.exit none) else none

/-- The window the worker waits for. -/
def wants? (b : Bridge μ ρ) : Option WindowRequest :=
  match b.worker with
  | .importing (.ask request _) | .running _ (.ask request _) => some request
  | _ => none

/-- Tell the worker what became of the window it waits for. -/
def answer (b : Bridge μ ρ) (reply : UiReply) : Bridge μ ρ :=
  match b.worker with
  | .importing (.ask _ resume) => { b with worker := .importing (resume reply) }
  | .running ticket (.ask _ resume) => { b with worker := .running ticket (resume reply) }
  | _ => b

/-- A bridge whose import has come to its end, or the failure of the import. -/
def launch (engine : Engine μ ρ) (capacity : Nat)
    (run : UiRun (Except BridgeError Unit × Session μ ρ)) : Except BridgeError (Bridge μ ρ) :=
  let spawned := spawn capacity run
  let ready := (spawned.step engine).getD spawned
  match ready.importFailure? with
  | some e => .error e
  | none => .ok ready

/-! ## Going on as far as possible -/

/-- What surrounds a worker: how a window is made, unless that has to wait, and what is done
when a command has finished. -/
structure Surroundings (σ : Type) where
  makeWindow : WindowRequest → StateM σ (Option UiReply)
  onReply : Nat → Except BridgeError Outcome → StateM σ Unit

/-- Answer a computation until it is done or has to wait. -/
def pursue {α : Type} (env : Surroundings σ) : UiRun α → StateM σ (UiRun α)
  | .done value => return .done value
  | .ask request resume => do
    match ← env.makeWindow request with
    | some reply => pursue env (resume reply)
    | none => return .ask request resume

/-- Run the requests of a queue in order, until one has to wait. -/
def serve (engine : Engine μ ρ) (env : Surroundings σ) (b : Bridge μ ρ) (session : Session μ ρ) :
    List Request → StateM σ (Bridge μ ρ)
  | [] =>
    let waiting := { b with queue := [], worker := .idle session }
    return if b.handles = 0 then waiting.exit none else waiting
  | .stop :: _ => return b.exit none
  | .invoke ticket c :: rest => do
    match ← pursue env (session.invokeCommand engine c) with
    | .done (result, after) =>
      env.onReply ticket result
      serve engine env (b.finishCommand ticket result after) after rest
    | waiting => return { b with queue := rest, worker := .running ticket waiting }

/-- Let the worker go on until it has to wait. -/
def advance (engine : Engine μ ρ) (env : Surroundings σ) (b : Bridge μ ρ) :
    StateM σ (Bridge μ ρ) := do
  match b.worker with
  | .exited _ => return b
  | .idle session => serve engine env b session b.queue
  | .importing run =>
    match ← pursue env run with
    | .done (.ok (), session) => serve engine env b session b.queue
    | .done (.error e, _) => return b.exit (some e)
    | waiting => return { b with worker := .importing waiting }
  | .running ticket run =>
    match ← pursue env run with
    | .done (result, session) =>
      env.onReply ticket result
      serve engine env (b.finishCommand ticket result session) session b.queue
    | waiting => return { b with worker := .running ticket waiting }

/-! ## Laws -/

/-- The queue never holds more than it can. -/
theorem length_queue_offer {b after : Bridge μ ρ} {r : Request} (h : b.offer r = .ok after) :
    after.queue.length ≤ after.capacity := by
  unfold offer at h
  split at h
  · split at h
    next room =>
      simp only [Except.ok.injEq] at h
      subst h
      simp only [List.length_append, List.length_singleton]
      omega
    · simp at h
  · simp at h

/-- A full queue refuses, counts the refusal and changes nothing else. -/
theorem submit_of_full {b : Bridge μ ρ} (alive : b.isAlive = true)
    (full : b.capacity ≤ b.queue.length) (c : PendingCommand) :
    b.submit c = (.error (.queueFull b.capacity), { b with dropped := b.dropped + 1 }) := by
  have : ¬ b.queue.length < b.capacity := by omega
  simp [submit, offerCommand, offer, alive, this]

/-- A command is answered by its own outcome. -/
theorem answerTo_of_replied {b : Bridge μ ρ} {ticket : Nat} {result : Except BridgeError Outcome}
    (h : b.replies.lookup ticket = some result) : b.answerTo ticket = some result := by
  simp [answerTo, h]

/-- Whoever waits for a command that an exited worker has left hears that the worker has stopped. -/
theorem answerTo_of_isAwaited {b : Bridge μ ρ} {ticket : Nat} (awaited : b.isAwaited ticket = true)
    (exited : b.isAlive = false) : b.answerTo ticket = some (.error .workerStopped) := by
  rw [isAwaited, Option.isNone_iff_eq_none] at awaited
  simp [answerTo, awaited, exited]

end Bridge

end ScriptWindows
