import ScriptWindows.Bridge.Error
import ScriptWindows.Text.Quoted

/-!
# Work on the UI thread

Windows may only be touched on one thread. Work asked for on that thread is done at once; from
any other thread it is posted as a task, and the caller waits until the task has run. What
becomes of a task is up to the dispatcher: it may refuse it, run it on some thread, or drop it.
A task that finds itself on the wrong thread does no work.

Main results:

* `onUiThread_of_isUi`: on the UI thread nothing is posted.
* `onUiThread_of_not_isUi`: anywhere else exactly one task is posted, whatever becomes of it.
-/

namespace ScriptWindows

/-- A thread, perhaps with a name. -/
structure Thread where
  id : Nat
  name : Option String
deriving DecidableEq, Repr

/-- How a thread without a name is called. -/
def Thread.label (t : Thread) : String := t.name.getD "<unnamed>"

/-- What becomes of a posted task. -/
inductive Fate
  | refused (cause : BridgeError)
  | ran (thread : Thread)
  | dropped
deriving DecidableEq, Repr

/-- Which threads count as the UI thread, and what becomes of the task posted after so many
others by a thread. -/
structure Dispatcher where
  isUi : Thread → Bool
  fate : Nat → Thread → Fate

/-- Some state together with the number of tasks posted so far. -/
structure Posting (σ : Type) where
  posted : Nat := 0
  state : σ
deriving Repr

namespace Dispatcher

variable {σ α : Type}

/-- The failure of UI work on a thread that is not the UI thread. -/
def wrongThread (t : Thread) : BridgeError :=
  .crossThread ("UI work on thread " ++ Text.quoted t.label)

/-- The leave to touch windows, which only the UI thread has. -/
def leave (d : Dispatcher) (t : Thread) : Except BridgeError Unit :=
  if d.isUi t then .ok () else .error (wrongThread t)

/-- Do work if the thread may. -/
def guarded (d : Dispatcher) (t : Thread) (work : Thread → StateM (Posting σ) α) :
    StateM (Posting σ) (Except BridgeError α) :=
  match d.leave t with
  | .ok () => do return .ok (← work t)
  | .error e => return .error e

/-- Do work on the UI thread and wait for its result. -/
def onUiThread (d : Dispatcher) (caller : Thread) (work : Thread → StateM (Posting σ) α) :
    StateM (Posting σ) (Except BridgeError α) :=
  -- waiting for a task on the thread that would have to run it would never end
  if d.isUi caller then d.guarded caller work
  else do
    let count := (← get).posted
    modify fun p => { p with posted := count + 1 }
    match d.fate count caller with
    | .refused cause => return .error cause
    | .ran t => d.guarded t work
    | .dropped => return .error (.uiUnavailable "UI task dropped before it ran")

end Dispatcher

/-! ## Nested work -/

/-- Work with a name that itself asks for other work, in order. -/
inductive Work
  | mk (name : String) (calls : List Work)
deriving Repr

/-- What became of work that ran: where that was, and what its own calls came to. -/
inductive Ran
  | mk (thread : Thread) (calls : List (Except BridgeError Ran))

mutual

/-- Do work on a thread, noting its name and the thread. -/
def Work.perform (d : Dispatcher) (t : Thread) :
    Work → StateM (Posting (List (String × Thread))) Ran
  | .mk name calls => do
    modify fun p => { p with state := p.state ++ [(name, t)] }
    return .mk t (← Work.performAll d t calls)

/-- Ask for work in order from one thread. -/
def Work.performAll (d : Dispatcher) (caller : Thread) :
    List Work → StateM (Posting (List (String × Thread))) (List (Except BridgeError Ran))
  | [] => return []
  | work :: rest => do
    let first ← d.onUiThread caller fun t => Work.perform d t work
    return first :: (← Work.performAll d caller rest)

end

/-- Work that asks for the same again, so many times deep. -/
def Work.nested (name : String) : Nat → Work
  | 0 => .mk name []
  | depth + 1 => .mk name [Work.nested name depth]

/-! ## Laws -/

namespace Dispatcher

variable {σ α : Type}

/-- On the UI thread work is done at once and nothing is posted. -/
theorem onUiThread_of_isUi {d : Dispatcher} {caller : Thread} (h : d.isUi caller = true)
    (work : Thread → StateM (Posting σ) α) (p : Posting σ) :
    (d.onUiThread caller work).run p = (.ok ((work caller).run p).1, ((work caller).run p).2) := by
  simp only [onUiThread, h, if_true, guarded, leave]
  rfl

/-- Work on a thread that may not touch windows is not done. -/
theorem guarded_of_not_isUi {d : Dispatcher} {t : Thread} (h : d.isUi t = false)
    (work : Thread → StateM (Posting σ) α) (p : Posting σ) :
    (d.guarded t work).run p = (.error (wrongThread t), p) := by
  simp only [guarded, leave, h]
  rfl

/-- Anywhere else exactly one task is posted before the work, whatever becomes of it. -/
theorem onUiThread_of_not_isUi {d : Dispatcher} {caller : Thread} (h : d.isUi caller = false)
    (work : Thread → StateM (Posting σ) α) (p : Posting σ) :
    (d.onUiThread caller work).run p =
      (match d.fate p.posted caller with
        | .refused cause => (.error cause, { p with posted := p.posted + 1 })
        | .ran t => (d.guarded t work).run { p with posted := p.posted + 1 }
        | .dropped => (.error (.uiUnavailable "UI task dropped before it ran"),
            { p with posted := p.posted + 1 })) := by
  simp only [onUiThread, h]
  change (match d.fate p.posted caller with
    | .refused cause => pure (.error cause)
    | .ran t => d.guarded t work
    | .dropped => pure (.error (.uiUnavailable "UI task dropped before it ran")) :
      StateM (Posting σ) _).run { p with posted := p.posted + 1 } = _
  cases d.fate p.posted caller <;> rfl

end Dispatcher

end ScriptWindows
