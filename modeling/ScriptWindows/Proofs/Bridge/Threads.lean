import Mathlib
import ScriptWindows.Proofs.Bridge.Clients
import ScriptWindows.Ui.Dispatch

/-!
# The threads of a process

A process has any number of threads and of bridges. Threads spawn workers, submit commands or wait
for them, shut workers down, and ask for work on the UI thread; so do UI tasks while they run, and
what is called when a command has finished. A worker waits for the UI thread when its script wants
a window, or when what it calls after a command does. The steps of all these come in any order.

Main results:

* `Dispatcher.posts_eq`: every thread but the UI thread posts its work.
* `Bridge.worked_of_step`: what a step of a worker on its own can be.
* `Bridge.answer_cases`: only a command that runs can be told of a window.
-/

namespace ScriptWindows

variable {μ ρ : Type}

/-! ## Threads that wait -/

/-- What a thread waits for: the import of a worker that it spawned, room in a queue, the answer to a
command, or the end of a worker. -/
inductive Wait
  | imported (worker : Nat)
  | room (worker : Nat) (command : PendingCommand)
  | answer (worker ticket : Nat)
  | ended (worker : Nat)

/-- The worker that a thread waits for. -/
def Wait.worker : Wait → Nat
  | .imported w | .room w _ | .answer w _ | .ended w => w

/-- Who waits for a task of the UI thread. -/
inductive Caller
  | worker (w : Nat)
  | thread (t : Thread)

/-- Whether work for the UI thread is posted as a task when a thread asks for it. If it is not, it
is done before the thread goes on. -/
def Dispatcher.posts (d : Dispatcher) (t : Thread) : Bool :=
  0 < ((d.onUiThread t fun _ => pure ()).run ({ state := () } : Posting Unit)).2.posted

/-- Every thread but the UI thread posts its work. -/
theorem Dispatcher.posts_eq (d : Dispatcher) (t : Thread) : d.posts t = !d.isUi t := by
  rw [posts]
  cases hUi : d.isUi t with
  | true =>
    rw [onUiThread_of_isUi hUi]
    rfl
  | false =>
    rw [onUiThread_of_not_isUi hUi]
    simp only
    -- whatever becomes of the task, it was counted
    cases d.fate 0 t with
    | refused cause => rfl
    | dropped => rfl
    | ran other =>
      simp only
      cases hOther : d.isUi other with
      | true =>
        simp only [guarded, leave, hOther, if_true]
        rfl
      | false =>
        simp only [guarded_of_not_isUi hOther]
        rfl

/-- A bridge with the thread of its worker. -/
structure WorkerThread (μ ρ : Type) where
  thread : Thread
  bridge : Bridge μ ρ

/-- The threads of a process and the tasks of its UI thread: those that were posted, in order, and
those that it is in the middle of, the innermost first. -/
structure Process (μ ρ : Type) where
  workers : Nat → Option (WorkerThread μ ρ) := fun _ => none
  waits : Thread → Option Wait := fun _ => none
  tasks : List Caller := []
  begun : List Caller := []

namespace Process

/-- Who waits for a task: it was posted and has not come to its end. -/
def AwaitsTask (p : Process μ ρ) (c : Caller) : Prop := c ∈ p.tasks ∨ c ∈ p.begun

/-- A thread waits for a worker. -/
def AwaitsWorker (p : Process μ ρ) (t : Thread) (w : Nat) : Prop :=
  ∃ x, p.waits t = some x ∧ x.worker = w

/-- A thread waits for nothing. -/
def IsFree (p : Process μ ρ) (t : Thread) : Prop := p.waits t = none ∧ ¬ p.AwaitsTask (.thread t)

/-- The handle of a worker was given out, since nobody waits for its import any more. -/
def IsGiven (p : Process μ ρ) (w : Nat) : Prop := ∀ t, p.waits t ≠ some (.imported w)

/-! ## Steps -/

def setWait (p : Process μ ρ) (t : Thread) (x : Option Wait) : Process μ ρ :=
  { p with waits := Function.update p.waits t x }

def setWorker (p : Process μ ρ) (w : Nat) (e : WorkerThread μ ρ) : Process μ ρ :=
  { p with workers := Function.update p.workers w (some e) }

/-- A wait that is there afterwards is the new one, or was there before. -/
theorem waits_setWait {p : Process μ ρ} {t other : Thread} {x : Option Wait} {y : Wait}
    (h : (p.setWait t x).waits other = some y) :
    (other = t ∧ x = some y) ∨ p.waits other = some y := by
  by_cases hSame : other = t
  · subst hSame
    exact .inl ⟨rfl, by simpa [setWait] using h⟩
  · exact .inr (by simpa [setWait, Function.update_of_ne hSame] using h)

theorem workers_setWorker_self (p : Process μ ρ) (w : Nat) (e : WorkerThread μ ρ) :
    (p.setWorker w e).workers w = some e := by
  simp [setWorker]

theorem workers_setWorker_of_ne {p : Process μ ρ} {w v : Nat} (h : v ≠ w) (e : WorkerThread μ ρ) :
    (p.setWorker w e).workers v = p.workers v := by
  simp [setWorker, Function.update_of_ne h]

/-- A worker that is there afterwards is the new one, or was there before. -/
theorem workers_setWorker {p : Process μ ρ} {w v : Nat} {e f : WorkerThread μ ρ}
    (h : (p.setWorker w e).workers v = some f) :
    (v = w ∧ f = e) ∨ (v ≠ w ∧ p.workers v = some f) := by
  by_cases hSame : v = w
  · subst hSame
    rw [workers_setWorker_self] at h
    exact .inl ⟨rfl, (Option.some.inj h).symm⟩
  · rw [workers_setWorker_of_ne hSame] at h
    exact .inr ⟨hSame, h⟩

/-- A worker that is there stays there when one is changed. -/
theorem exists_setWorker {p : Process μ ρ} {v : Nat} {f : WorkerThread μ ρ}
    (h : p.workers v = some f) (w : Nat) (e : WorkerThread μ ρ) :
    ∃ g, (p.setWorker w e).workers v = some g := by
  by_cases hSame : v = w
  · subst hSame
    exact ⟨e, p.workers_setWorker_self v e⟩
  · exact ⟨f, by rw [workers_setWorker_of_ne hSame, h]⟩

/-- Ask for work on the UI thread. -/
def runOnUi (p : Process μ ρ) (d : Dispatcher) (t : Thread) (c : Caller) : Process μ ρ :=
  if d.posts t then { p with tasks := p.tasks ++ [c] } else p

/-- Call a command and wait, for room if there is none. -/
def invoked (p : Process μ ρ) (d : Dispatcher) (t : Thread) (w : Nat) (e : WorkerThread μ ρ)
    (c : PendingCommand) : Process μ ρ :=
  match e.bridge.invoke (d.isUi t) c with
  | (.ok (some ticket), b) =>
    (p.setWorker w { e with bridge := b }).setWait t (some (.answer w ticket))
  | (.ok none, b) => (p.setWorker w { e with bridge := b }).setWait t (some (.room w c))
  | (.error _, b) => (p.setWorker w { e with bridge := b }).setWait t none

/-- A task has come to its end, and whoever waits for it goes on. -/
def answered (p : Process μ ρ) (c : Caller) (r : UiReply) : Process μ ρ :=
  match c with
  | .thread _ => p
  | .worker w =>
    match p.workers w with
    | some e => p.setWorker w { e with bridge := e.bridge.answer r }
    | none => p

/-- One step of a thread, of the UI thread with its tasks, or of a worker. Any thread that does not
wait may do any of these, the UI thread in the middle of a task as well. -/
inductive Step (d : Dispatcher) (engine : Engine μ ρ) (p : Process μ ρ) : Process μ ρ → Prop
  /-- Spawn a worker, and wait until it has imported its module. -/
  | spawn (t thread : Thread) (w capacity : Nat) (tree : FileTree) (path : Path)
      (hFree : p.IsFree t) (hNew : p.workers w = none) :
      Step d engine p ((p.setWorker w ⟨thread, Bridge.spawn capacity
        ((Session.fresh engine).startIn engine tree path)⟩).setWait t (some (.imported w)))
  | spawned (t : Thread) (w : Nat) (e : WorkerThread μ ρ) (hWaits : p.waits t = some (.imported w))
      (hWorker : p.workers w = some e) (hOver : ∀ run, e.bridge.worker ≠ .importing run) :
      Step d engine p (p.setWait t none)
  | submit (t : Thread) (w : Nat) (e : WorkerThread μ ρ) (c : PendingCommand) (hFree : p.IsFree t)
      (hGiven : p.IsGiven w) (hWorker : p.workers w = some e) :
      Step d engine p (p.setWorker w { e with bridge := (e.bridge.submit c).2 })
  | invoke (t : Thread) (w : Nat) (e : WorkerThread μ ρ) (c : PendingCommand) (hFree : p.IsFree t)
      (hGiven : p.IsGiven w) (hWorker : p.workers w = some e) :
      Step d engine p (p.invoked d t w e c)
  | retry (t : Thread) (w : Nat) (e : WorkerThread μ ρ) (c : PendingCommand)
      (hWaits : p.waits t = some (.room w c)) (hWorker : p.workers w = some e) :
      Step d engine p (p.invoked d t w e c)
  | hear (t : Thread) (w ticket : Nat) (e : WorkerThread μ ρ) (result : Except BridgeError Outcome)
      (hWaits : p.waits t = some (.answer w ticket)) (hWorker : p.workers w = some e)
      (hAnswer : e.bridge.answerTo ticket = some result) : Step d engine p (p.setWait t none)
  | clone (t : Thread) (w : Nat) (e : WorkerThread μ ρ) (hFree : p.IsFree t) (hGiven : p.IsGiven w)
      (hWorker : p.workers w = some e) :
      Step d engine p (p.setWorker w { e with bridge := e.bridge.clone })
  | release (t : Thread) (w : Nat) (e : WorkerThread μ ρ) (hFree : p.IsFree t)
      (hGiven : p.IsGiven w) (hWorker : p.workers w = some e) :
      Step d engine p (p.setWorker w { e with bridge := e.bridge.release })
  | shutdown (t : Thread) (w : Nat) (e : WorkerThread μ ρ) (hFree : p.IsFree t)
      (hGiven : p.IsGiven w) (hWorker : p.workers w = some e) :
      Step d engine p (p.setWorker w { e with bridge := e.bridge.shutdown })
  /-- The last part of a shutdown: wait for a worker that has exited. -/
  | join (t : Thread) (w : Nat) (e : WorkerThread μ ρ) (hFree : p.IsFree t)
      (hWorker : p.workers w = some e) (hExited : e.bridge.isAlive = false) :
      Step d engine p (p.setWait t (some (.ended w)))
  | joined (t : Thread) (w : Nat) (e : WorkerThread μ ρ) (hWaits : p.waits t = some (.ended w))
      (hWorker : p.workers w = some e) (hExited : e.bridge.isAlive = false) :
      Step d engine p (p.setWait t none)
  /-- Ask for work on the UI thread, which posts a task or is over with it at once. -/
  | run (t : Thread) (hFree : p.IsFree t) : Step d engine p (p.runOnUi d t (.thread t))
  /-- The UI thread begins with the first task. -/
  | begin (t : Thread) (c : Caller) (rest : List Caller) (hUi : d.isUi t = true)
      (hFree : p.IsFree t) (hTasks : p.tasks = c :: rest) :
      Step d engine p { p with tasks := rest, begun := c :: p.begun }
  | finish (t : Thread) (c : Caller) (rest : List Caller) (r : UiReply) (hUi : d.isUi t = true)
      (hFree : p.IsFree t) (hBegun : p.begun = c :: rest) :
      Step d engine p ({ p with begun := rest }.answered c r)
  /-- A task is dropped, or runs where it may not. -/
  | lose (c : Caller) (before after : List Caller) (cause : BridgeError)
      (hTasks : p.tasks = before ++ c :: after) :
      Step d engine p ({ p with tasks := before ++ after }.answered c (.error cause))
  /-- A worker that does not wait for the UI thread does its next step. -/
  | work (w : Nat) (e : WorkerThread μ ρ) (b : Bridge μ ρ) (hWorker : p.workers w = some e)
      (hRunning : ¬ p.AwaitsTask (.worker w)) (hStep : e.bridge.step engine = some b) :
      Step d engine p (p.setWorker w { e with bridge := b })
  /-- The script of a worker wants a window, and a task is posted for it. -/
  | ask (w : Nat) (e : WorkerThread μ ρ) (request : WindowRequest) (hWorker : p.workers w = some e)
      (hRunning : ¬ p.AwaitsTask (.worker w)) (hWants : e.bridge.wants? = some request)
      (hPosts : d.posts e.thread = true) :
      Step d engine p { p with tasks := p.tasks ++ [.worker w] }
  /-- The script of a worker wants a window, and is told without a task. -/
  | told (w : Nat) (e : WorkerThread μ ρ) (request : WindowRequest) (r : UiReply)
      (hWorker : p.workers w = some e) (hRunning : ¬ p.AwaitsTask (.worker w))
      (hWants : e.bridge.wants? = some request)
      (hTold : d.posts e.thread = false ∨ ∃ cause, r = .error cause) :
      Step d engine p (p.setWorker w { e with bridge := e.bridge.answer r })
  /-- What a worker calls after a command asks for work on the UI thread. -/
  | call (w : Nat) (e : WorkerThread μ ρ) (session : Session μ ρ) (hWorker : p.workers w = some e)
      (hRunning : ¬ p.AwaitsTask (.worker w)) (hIdle : e.bridge.worker = .idle session)
      (hServed : e.bridge.replies ≠ []) :
      Step d engine p (p.runOnUi d e.thread (.worker w))

/-- A thread that waits for a worker goes on, at once or after one step of the worker. -/
def GoesOn (d : Dispatcher) (engine : Engine μ ρ) (p : Process μ ρ) (t : Thread) (w : Nat) : Prop :=
  Step d engine p (p.setWait t none) ∨
    ∃ e b, p.workers w = some e ∧ e.bridge.step engine = some b ∧
      Step d engine p (p.setWorker w { e with bridge := b }) ∧
      Step d engine (p.setWorker w { e with bridge := b })
        ((p.setWorker w { e with bridge := b }).setWait t none)

/-- What steps in any order can lead to. -/
inductive Reachable (d : Dispatcher) (engine : Engine μ ρ) (first : Process μ ρ) :
    Process μ ρ → Prop
  | refl : Reachable d engine first first
  | step {p next : Process μ ρ} (h : Reachable d engine first p) (hStep : Step d engine p next) :
      Reachable d engine first next

end Process

/-! ## Bridges that wait for the UI thread -/

namespace Bridge

/-- A bridge that nobody has given a command: its worker imports, has nothing to do, or has
exited. -/
structure Unused (b : Bridge μ ρ) : Prop where
  queue : b.queue = []
  replies : b.replies = []
  worker : ∀ ticket run, b.worker ≠ .running ticket run

/-- A worker that has imported its module and has not exited. -/
def Serves (b : Bridge μ ρ) : Prop :=
  (∃ session, b.worker = .idle session) ∨ ∃ ticket run, b.worker = .running ticket run

/-- A worker that serves is alive. -/
theorem Serves.isAlive {b : Bridge μ ρ} (h : b.Serves) : b.isAlive = true := by
  rcases h with ⟨session, hIdle⟩ | ⟨ticket, run, hRunning⟩
  · rw [Bridge.isAlive, hIdle]
  · rw [Bridge.isAlive, hRunning]

/-- A submission does not touch the worker. -/
theorem worker_submit (b : Bridge μ ρ) (c : PendingCommand) :
    (b.submit c).2.worker = b.worker := by
  rcases b.submit_cases c with ⟨-, hOk⟩ | ⟨e, after, hError, hSame⟩
  · rw [hOk]
    rfl
  · rw [hError]
    exact hSame.worker

/-- Nor does an invocation. -/
theorem worker_invoke (b : Bridge μ ρ) (onUi : Bool) (c : PendingCommand) :
    (b.invoke onUi c).2.worker = b.worker := by
  rcases b.invoke_cases onUi c with ⟨-, hOk⟩ | hFull | ⟨e, hError⟩
  · rw [hOk]
    rfl
  · rw [hFull]
  · rw [hError]

/-- The UI thread is not made to wait for an answer. -/
theorem invoke_onUi (b : Bridge μ ρ) (c : PendingCommand) :
    b.invoke true c = (.error .blockingOnUiThread, b) := rfl

/-- What a step of the worker on its own can be. -/
inductive Worked (engine : Engine μ ρ) (b : Bridge μ ρ) : Bridge μ ρ → Prop
  | imported (result : Except BridgeError Unit) (session : Session μ ρ)
      (hWorker : b.worker = .importing (.done (result, session))) :
      Worked engine b (b.finishImport result session)
  | finished (ticket : Nat) (result : Except BridgeError Outcome) (session : Session μ ρ)
      (hWorker : b.worker = .running ticket (.done (result, session))) :
      Worked engine b (b.finishCommand ticket result session)
  | tookUp (session : Session μ ρ) (ticket : Nat) (c : PendingCommand) (rest : List Request)
      (hWorker : b.worker = .idle session) (hQueue : b.queue = .invoke ticket c :: rest) :
      Worked engine b
        { b with queue := rest, worker := .running ticket (session.invokeCommand engine c) }
  | exited (session : Session μ ρ) (hWorker : b.worker = .idle session) :
      Worked engine b (b.exit none)

/-- A step of a worker is one of those that are told apart. -/
theorem worked_of_step {engine : Engine μ ρ} {b after : Bridge μ ρ}
    (h : b.step engine = some after) : Worked engine b after := by
  unfold step at h
  cases hWorker : b.worker with
  | exited failure =>
    rw [hWorker] at h
    contradiction
  | importing run =>
    rw [hWorker] at h
    cases run with
    | ask request resume => contradiction
    | done value =>
      obtain rfl := Option.some.inj h
      exact .imported value.1 value.2 hWorker
  | running ticket run =>
    rw [hWorker] at h
    cases run with
    | ask request resume => contradiction
    | done value =>
      obtain rfl := Option.some.inj h
      exact .finished ticket value.1 value.2 hWorker
  | idle session =>
    -- a request is taken up; or the worker is told to stop, or nobody is left to tell it anything
    rw [hWorker] at h
    simp only at h
    split at h
    · rename_i ticket c rest hQueue
      obtain rfl := Option.some.inj h
      exact .tookUp session ticket c rest hWorker hQueue
    · obtain rfl := Option.some.inj h
      exact .exited session hWorker
    · split at h
      · obtain rfl := Option.some.inj h
        exact .exited session hWorker
      · contradiction

/-- No step of a worker begins an import. -/
theorem Worked.not_importing {engine : Engine μ ρ} {b after : Bridge μ ρ}
    (h : Worked engine b after) (run : UiRun (Except BridgeError Unit × Session μ ρ)) :
    after.worker ≠ .importing run := by
  cases h with
  | imported result session hWorker => cases result <;> simp [finishImport, exit]
  | finished ticket result session hWorker => simp [finishCommand]
  | tookUp session ticket c rest hWorker hQueue => simp
  | exited session hWorker => simp [exit]

/-- Only a worker that is alive works. -/
theorem Worked.alive {engine : Engine μ ρ} {b after : Bridge μ ρ} (h : Worked engine b after) :
    b.isAlive = true := by
  cases h with
  | imported result session hWorker => rw [isAlive, hWorker]
  | finished ticket result session hWorker => rw [isAlive, hWorker]
  | tookUp session ticket c rest hWorker hQueue => rw [isAlive, hWorker]
  | exited session hWorker => rw [isAlive, hWorker]

/-- A worker without commands finishes its import, or exits. -/
theorem Unused.worked {engine : Engine μ ρ} {b after : Bridge μ ρ} (h : b.Unused)
    (hWorked : Worked engine b after) : after.Unused := by
  cases hWorked with
  | imported result session hWorker =>
    cases result with
    | ok done => exact ⟨h.queue, h.replies, by simp [finishImport]⟩
    | error e => exact ⟨rfl, h.replies, by simp [finishImport, exit]⟩
  | finished ticket result session hWorker => exact absurd hWorker (h.worker ticket _)
  | tookUp session ticket c rest hWorker hQueue => simp [h.queue] at hQueue
  | exited session hWorker => exact ⟨rfl, h.replies, by simp [exit]⟩

/-- Only a command that runs can be told of a window, once the import asks for none. -/
theorem answer_cases {b : Bridge μ ρ} (hImports : ∀ run, b.worker = .importing run → run.isDone = true)
    (r : UiReply) :
    b.answer r = b ∨ (∃ ticket run, b.worker = .running ticket run) ∧
      ∃ ticket run, (b.answer r).worker = .running ticket run := by
  unfold answer
  split
  · rename_i request resume hWorker
    exact absurd (hImports _ hWorker) (by simp [Dialogue.isDone])
  · rename_i ticket request resume hWorker
    exact .inr ⟨⟨ticket, _, hWorker⟩, ticket, _, rfl⟩
  · exact .inl rfl

/-- Only a command wants a window, once the import is done. -/
theorem running_of_wants {b : Bridge μ ρ}
    (hImports : ∀ run, b.worker = .importing run → run.isDone = true) {request : WindowRequest}
    (h : b.wants? = some request) : ∃ ticket run, b.worker = .running ticket run := by
  unfold wants? at h
  split at h
  · rename_i asked resume hWorker
    exact absurd (hImports _ hWorker) (by simp [Dialogue.isDone])
  · rename_i ticket asked resume hWorker
    exact ⟨ticket, _, hWorker⟩
  · contradiction

end Bridge

end ScriptWindows
