import ScriptWindows.Bridge.Config
import ScriptWindows.Bridge.Worker
import ScriptWindows.Host.Screen

/-!
# The host and its event loop

The host has a main window with a button and a status line. The button gives a command to the
bridge and tells of its outcome in the status line. The screen belongs to the event loop: it
runs the tasks posted to it one after the other, while the worker of the bridge posts windows to
make and outcomes to show.

Button, worker and event loop move in steps (`click`, `workerStep`, `loopStep`), which may come
in any order. `work` and `settle` take as many of them as there are to take.

Main results:

* `click_of_refused`: a refused click sets the status at once and posts nothing.
* `tasks_runTasks`: all tasks posted before are run.
-/

namespace ScriptWindows

/-- What the event loop is asked to do. -/
inductive LoopTask
  | createWindow (request : WindowRequest)
  | setStatus (text : String)
  | releaseClosed
deriving DecidableEq, Repr

/-- A running host: the bridge, the screen, the tasks posted to the event loop, and whether the
worker waits for one of them. -/
structure Host (μ ρ : Type) where
  bridge : Bridge μ ρ
  screen : Screen := {}
  tasks : List LoopTask := []
  asked : Bool := false

/-- What the status line says of a command that has finished. Of several errors it tells the
first. -/
def statusOf (command : String) : Except BridgeError Outcome → String
  | .ok outcome =>
    if outcome.hadErrors then
      match outcome.errors with
      | error :: _ => command ++ " failed: " ++ error.message
      | [] => command ++ " reported errors"
    else command ++ " completed"
  | .error e => command ++ " failed: " ++ e.message

namespace Host

variable {μ ρ : Type}

/-- The command behind the button. -/
def windowCommand (request : WindowRequest) : PendingCommand :=
  let command : PendingCommand := { name := HostConfig.createWindowCommand }
  (command.parameter "Title" (.string request.title)).parameter "Message" (.string request.message)

/-- What the status line says when the command behind the button has finished. -/
def windowStatus (result : Except BridgeError Outcome) : String :=
  statusOf HostConfig.createWindowCommand result

/-- Start a host: import its command module and hand the button a way to the bridge. -/
def start {m : Type → Type} [Monad m] [Files m] (engine : Engine μ ρ) (config : HostConfig) :
    m (Except BridgeError (Host μ ρ)) := do
  let run ← (Session.fresh engine).start engine config.descriptorPath
  return (Bridge.launch engine config.queueCapacity run).map fun b => { bridge := b.clone }

/-- Post a task to the event loop. -/
def post (h : Host μ ρ) (task : LoopTask) : Host μ ρ := { h with tasks := h.tasks ++ [task] }

/-! ## Steps -/

/-- The button is pressed. The UI thread does not wait for the command. -/
def click (h : Host μ ρ) (request : WindowRequest) : Host μ ρ :=
  match h.bridge.submit (windowCommand request) with
  | (.ok _, after) => { h with bridge := after }
  | (.error e, after) => { h with bridge := after, screen := h.screen.setStatus e.message }

/-- The user closes the message window at a place of the list. -/
def close (h : Host μ ρ) (place : Nat) : Host μ ρ :=
  if place < h.screen.windows.size then
    { h.post .releaseClosed with screen := h.screen.hide place }
  else h

/-- One step of the worker; none if it waits or has exited. A window it wants is posted once. -/
def workerStep (engine : Engine μ ρ) (h : Host μ ρ) : Option (Host μ ρ) :=
  match h.bridge.wants? with
  | some request =>
    if h.asked then none else some { h.post (.createWindow request) with asked := true }
  | none =>
    (h.bridge.step engine).map fun after =>
      { h with
        bridge := after
        tasks := h.tasks ++ (after.replies.drop h.bridge.replies.length).map fun reply =>
          .setStatus (windowStatus reply.2) }

/-- One step of the event loop: it runs the task that was posted first. -/
def loopStep (shell : Shell) (h : Host μ ρ) : Option (Host μ ρ) :=
  match h.tasks with
  | [] => none
  | .setStatus text :: rest => some { h with screen := h.screen.setStatus text, tasks := rest }
  | .releaseClosed :: rest => some { h with screen := h.screen.releaseClosed, tasks := rest }
  | .createWindow request :: rest =>
    let (result, screen) := h.screen.createWindow shell request
    -- the worker waits for exactly this task
    some { bridge := h.bridge.answer (.ok result), screen := screen, tasks := rest, asked := false }

/-! ## Going on as far as possible -/

/-- Surroundings in which a window has to wait for the event loop. -/
def waiting : Bridge.Surroundings (List LoopTask) where
  makeWindow _ := return none
  onReply _ result := modify (· ++ [.setStatus (windowStatus result)])

/-- Let the worker go on until it waits. -/
def work (engine : Engine μ ρ) (h : Host μ ρ) : Host μ ρ :=
  if h.asked then h
  else
    let (after, tasks) := (h.bridge.advance engine waiting).run h.tasks
    let worked := { h with bridge := after, tasks := tasks }
    (worked.workerStep engine).getD worked

/-- Run the tasks that were posted so far. -/
def runTasks (shell : Shell) (h : Host μ ρ) : Host μ ρ :=
  h.tasks.foldl (fun now _ => (now.loopStep shell).getD now) h

/-- Surroundings in which the event loop runs each task as soon as it is posted. -/
def prompt (shell : Shell) : Bridge.Surroundings Screen where
  makeWindow request := do return some (.ok (← modifyGet (Screen.createWindow shell request)))
  onReply _ result := modify (·.setStatus (windowStatus result))

/-- Let event loop and worker go on until there is nothing left to do. -/
def settle (engine : Engine μ ρ) (shell : Shell) (h : Host μ ρ) : Host μ ρ :=
  let ready := h.runTasks shell
  let (after, screen) := (ready.bridge.advance engine (prompt shell)).run ready.screen
  { ready with bridge := after, screen := screen }

/-- The button is pressed several times before the event loop gets to anything else. -/
def clickAll (engine : Engine μ ρ) (shell : Shell) (h : Host μ ρ) (requests : List WindowRequest) :
    Host μ ρ :=
  (requests.foldl (fun now request => (now.click request).work engine) h).settle engine shell

/-- Several windows are closed before the event loop gets to anything else. -/
def closeAll (engine : Engine μ ρ) (shell : Shell) (h : Host μ ρ) (places : List Nat) :
    Host μ ρ :=
  (places.foldl close h).settle engine shell

/-! ## Laws -/

/-- A refused click sets the status at once and posts nothing. -/
theorem click_of_refused {h : Host μ ρ} {request : WindowRequest} {e : BridgeError}
    (refused : (h.bridge.submit (windowCommand request)).1 = .error e) :
    (h.click request).screen.status = e.message ∧ (h.click request).tasks = h.tasks := by
  unfold click
  split
  next heq => simp [heq] at refused
  next heq =>
    simp only [heq, Except.error.injEq] at refused
    subst refused
    simp [Screen.status, Screen.setStatus]

theorem tasks_loopStep {h after : Host μ ρ} {shell : Shell} (step : h.loopStep shell = some after) :
    after.tasks = h.tasks.tail := by
  unfold loopStep at step
  split at step <;> simp_all
  all_goals
    subst step
    rfl

theorem loopStep_isSome {h : Host μ ρ} (shell : Shell) (some_task : h.tasks ≠ []) :
    (h.loopStep shell).isSome = true := by
  unfold loopStep
  split <;> simp_all

theorem tasks_foldl_loopStep (shell : Shell) (pending : List LoopTask) (h : Host μ ρ) :
    (pending.foldl (fun now _ => (now.loopStep shell).getD now) h).tasks =
      h.tasks.drop pending.length := by
  induction pending generalizing h with
  | nil => rfl
  | cons task rest ih =>
    rw [List.foldl_cons, ih, List.length_cons]
    cases step : h.loopStep shell with
    | some after =>
      rw [Option.getD_some, tasks_loopStep step, List.drop_tail]
    | none =>
      have : h.tasks = [] := by
        false_or_by_contra
        next nonempty =>
          have := loopStep_isSome shell nonempty
          simp [step] at this
      simp [this]

/-- All tasks posted before are run. -/
theorem tasks_runTasks (shell : Shell) (h : Host μ ρ) : (h.runTasks shell).tasks = [] := by
  rw [runTasks, tasks_foldl_loopStep]
  simp

end Host

end ScriptWindows
