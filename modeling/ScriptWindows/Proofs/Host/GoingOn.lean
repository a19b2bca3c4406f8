import ScriptWindows.Proofs.Bridge.GoingOn
import ScriptWindows.Proofs.Host.Accounts

/-!
# A host that is left alone

`Host.clickAll` presses the button several times before the event loop gets to anything else, and
`Host.closeAll` closes several windows; then worker and event loop go on until there is nothing left
to do. All that is a course of events like any other, so what holds after every course holds there.
And since nothing is left to do in the end, all clicks that were accepted have been served.

Main results:

* `Host.exists_course_clickAll`, `Host.exists_course_closeAll`: what is done at once is a course of
  events.
* `Host.workerStep_settle`: worker and event loop have nothing left to do.
* `Host.Course.settle_serves`: with the module that comes with the host all clicks are served.
-/

namespace ScriptWindows.Host

variable {μ ρ : Type} {engine : Engine μ ρ} {shell : Shell} {h next : Host μ ρ}

/-! ## Steps of worker and event loop -/

/-- What steps of worker and event loop lead to. -/
def GoesOn (engine : Engine μ ρ) (shell : Shell) (h last : Host μ ρ) : Prop :=
  ∃ events, Course engine shell h events last ∧ ∀ e ∈ events, e.isStep = true

namespace GoesOn

/-- A host goes on to itself. -/
theorem refl (h : Host μ ρ) : GoesOn engine shell h h := ⟨[], .nil, by simp⟩

/-- A host goes on in several parts. -/
theorem trans {middle last : Host μ ρ} (hFirst : GoesOn engine shell h middle)
    (hMore : GoesOn engine shell middle last) : GoesOn engine shell h last := by
  obtain ⟨events, hCourse, hSteps⟩ := hFirst
  obtain ⟨more, hRest, hMoreSteps⟩ := hMore
  refine ⟨events ++ more, hCourse.trans hRest, ?_⟩
  intro e hIn
  exact (List.mem_append.1 hIn).elim (hSteps e) (hMoreSteps e)

/-- A host goes on by every event that is a step. -/
theorem of_happens {e : HostEvent} (hHappens : Happens engine shell h e next)
    (hStep : e.isStep = true) : GoesOn engine shell h next := by
  refine ⟨[] ++ [e], .snoc .nil hHappens, ?_⟩
  intro other hIn
  obtain rfl := List.mem_singleton.1 hIn
  exact hStep

/-- It goes on when its worker does. -/
theorem work (hStep : h.workerStep engine = some next) : GoesOn engine shell h next :=
  of_happens (.work hStep) rfl

/-- It goes on when its event loop does. -/
theorem loop (hStep : h.loopStep shell = some next) : GoesOn engine shell h next := by
  cases hTasks : h.tasks with
  | nil => simp [loopStep, hTasks] at hStep
  | cons task rest => exact of_happens (.loop hTasks hStep) rfl

theorem loop_getD (h : Host μ ρ) : GoesOn engine shell h ((h.loopStep shell).getD h) := by
  cases hStep : h.loopStep shell with
  | none => exact .refl h
  | some next => exact .loop hStep

theorem work_getD (h : Host μ ρ) : GoesOn engine shell h ((h.workerStep engine).getD h) := by
  cases hStep : h.workerStep engine with
  | none => exact .refl h
  | some next => exact .work hStep

end GoesOn

/-- A step with which no command finishes posts nothing. -/
theorem workerStep_of_step {after : Bridge μ ρ} (hStep : h.bridge.step engine = some after)
    (hReplies : after.replies = h.bridge.replies) :
    h.workerStep engine = some { h with bridge := after } := by
  rw [workerStep, Bridge.wants?_of_step hStep, hStep]
  simp [hReplies]

/-- A worker that is done with its command answers it and has the status shown. -/
theorem workerStep_of_done {ticket : Nat} {result : Except BridgeError Outcome}
    {session : Session μ ρ} (hWorker : h.bridge.worker = .running ticket (.done (result, session))) :
    h.workerStep engine = some { h with
      bridge := h.bridge.finishCommand ticket result session
      tasks := h.tasks ++ [.setStatus (windowStatus result)] } := by
  have hStep : h.bridge.step engine = some (h.bridge.finishCommand ticket result session) := by
    rw [Bridge.step, hWorker]
  rw [workerStep, Bridge.wants?_of_step hStep, hStep]
  simp [Bridge.finishCommand]

/-- A worker that wants a window posts a task for it, once. -/
theorem workerStep_of_wants {request : WindowRequest} (hWants : h.bridge.wants? = some request)
    (hAsked : h.asked = false) :
    h.workerStep engine = some { h.post (.createWindow request) with asked := true } := by
  simp [workerStep, hWants, hAsked]

/-! ## Going on as far as possible -/

/-- While windows have to wait, the worker's own steps are all that happens. -/
theorem leads_waiting (engine : Engine μ ρ) (shell : Shell) (screen : Screen) :
    Bridge.Leads engine waiting fun x y =>
      GoesOn engine shell { bridge := x.1, screen := screen, tasks := x.2 }
        { bridge := y.1, screen := screen, tasks := y.2 } where
  refl x := .refl _
  trans := GoesOn.trans
  step s hStep hReplies := .work (workerStep_of_step hStep hReplies)
  made hWants hMade := by
    have hNone := congrArg Prod.fst hMade
    contradiction
  waits hWants hWaits := by
    obtain rfl := congrArg Prod.snd hWaits
    exact .refl _
  finish s hWorker := .work (workerStep_of_done hWorker)

/-- A window that is made as soon as it is asked for was posted and then made, and a status was
posted and then shown. -/
theorem leads_prompt (engine : Engine μ ρ) (shell : Shell) :
    Bridge.Leads engine (prompt shell) fun x y =>
      GoesOn engine shell { bridge := x.1, screen := x.2 } { bridge := y.1, screen := y.2 } where
  refl x := .refl _
  trans := GoesOn.trans
  step s hStep hReplies := .work (workerStep_of_step hStep hReplies)
  made hWants hMade := by
    obtain rfl := Option.some.inj (congrArg Prod.fst hMade)
    obtain rfl := congrArg Prod.snd hMade
    refine .trans (.work (workerStep_of_wants hWants rfl)) (.loop ?_)
    rw [loopStep_createWindow rfl]
    rfl
  waits hWants hWaits := by
    have hSome := congrArg Prod.fst hWaits
    contradiction
  finish s hWorker := .trans (.work (workerStep_of_done hWorker)) (.loop rfl)

/-- A host goes on until no task is left. -/
theorem goesOn_runTasks (h : Host μ ρ) : GoesOn engine shell h (h.runTasks shell) := by
  rw [runTasks]
  generalize h.tasks = pending
  induction pending generalizing h with
  | nil => exact .refl h
  | cons task rest ih => exact .trans (.loop_getD h) (ih _)

/-- A host goes on until its worker waits. -/
theorem goesOn_work (h : Host μ ρ) : GoesOn engine shell h (h.work engine) := by
  rw [work]
  split
  · exact .refl h
  · rename_i hAsked
    obtain ⟨bridge, screen, tasks, asked⟩ := h
    obtain rfl : asked = false := by simpa using hAsked
    have hAdvance := (leads_waiting engine shell screen).advance bridge tasks
    exact hAdvance.trans (.work_getD _)

/-- Nothing that a worker waits for is among no tasks. -/
theorem Follows.asked_of_tasks {w : BridgeWorld μ ρ} {events : List HostEvent}
    (hFollows : Follows w events h) (hTasks : h.tasks = []) : h.asked = false := by
  by_contra hAsked
  have hAsked : h.asked = true := by simpa using hAsked
  have hSome := hFollows.waiting hAsked
  have hNone := hFollows.asked
  rw [hTasks, hAsked, if_pos rfl, List.filterMap_nil, Eq.comm, Option.toList_eq_nil_iff] at hNone
  rw [hNone] at hSome
  contradiction

/-- **Worker and event loop go on until there is nothing left to do.** -/
theorem goesOn_settle {w : BridgeWorld μ ρ} {events : List HostEvent}
    (hFollows : Follows w events h) : GoesOn engine shell h (h.settle engine shell) := by
  have hRun : GoesOn engine shell h (h.runTasks shell) := goesOn_runTasks h
  refine hRun.trans ?_
  -- all tasks have run, so the worker waits for none of them
  obtain ⟨more, hCourse, -⟩ := hRun
  obtain ⟨after, -, hAfter⟩ := hCourse.exists_follows hFollows
  have hTasks := h.tasks_runTasks shell
  have hAsked := hAfter.asked_of_tasks hTasks
  rw [settle]
  generalize h.runTasks shell = ready at hTasks hAsked ⊢
  obtain ⟨bridge, screen, tasks, asked⟩ := ready
  obtain rfl : tasks = [] := hTasks
  obtain rfl : asked = false := hAsked
  exact (leads_prompt engine shell).advance bridge screen

/-- No task is left in a host that has settled. -/
theorem tasks_settle (engine : Engine μ ρ) (shell : Shell) (h : Host μ ρ) :
    (h.settle engine shell).tasks = [] := h.tasks_runTasks shell

/-- **Worker and event loop have nothing left to do** after that. -/
theorem workerStep_settle (engine : Engine μ ρ) (shell : Shell) (h : Host μ ρ) :
    (h.settle engine shell).workerStep engine = none := by
  have hRests := Bridge.rests_advance engine (prompt shell) (h.runTasks shell).bridge
    (h.runTasks shell).screen
  have hWants : (h.settle engine shell).bridge.wants? = none := hRests.wants fun _ _ => rfl
  have hStep : (h.settle engine shell).bridge.step engine = none := hRests.step
  rw [workerStep, hWants, hStep]
  rfl

/-! ## What is done at once -/

/-- Acts with a course each have a course together. -/
theorem exists_course_foldl {α : Type} {act : Host μ ρ → α → Host μ ρ}
    (hAct : ∀ h a, ∃ more, Course engine shell h more (act h a)) (given : List α) (h : Host μ ρ) :
    ∃ more, Course engine shell h more (given.foldl act h) := by
  induction given generalizing h with
  | nil => exact ⟨[], .nil⟩
  | cons a rest ih =>
    obtain ⟨events, hFirst⟩ := hAct h a
    obtain ⟨more, hRest⟩ := ih (act h a)
    exact ⟨events ++ more, hFirst.trans hRest⟩

/-- A host that was brought to a point by a course is settled by one. -/
theorem exists_course_settle {w : BridgeWorld μ ρ} {events : List HostEvent} {start : Host μ ρ}
    (hFollows : Follows w events start) (hCourse : ∃ more, Course engine shell start more h) :
    ∃ more, Course engine shell start more (h.settle engine shell) := by
  obtain ⟨more, hCourse⟩ := hCourse
  obtain ⟨after, -, hAfter⟩ := hCourse.exists_follows hFollows
  obtain ⟨rest, hRest, -⟩ : GoesOn engine shell h (h.settle engine shell) := goesOn_settle hAfter
  exact ⟨more ++ rest, hCourse.trans hRest⟩

/-- **The button is pressed several times**, and then the host is left alone. -/
theorem exists_course_clickAll {w : BridgeWorld μ ρ} {events : List HostEvent}
    (hFollows : Follows w events h) (requests : List WindowRequest) :
    ∃ more, Course engine shell h more (h.clickAll engine shell requests) := by
  refine exists_course_settle hFollows (exists_course_foldl ?_ requests h)
  intro now request
  obtain ⟨more, hWork, -⟩ : GoesOn engine shell (now.click request) _ := goesOn_work _
  exact ⟨_, (Course.snoc .nil (.click request)).trans hWork⟩

/-- **Several windows are closed**, and then the host is left alone. -/
theorem exists_course_closeAll {w : BridgeWorld μ ρ} {events : List HostEvent}
    (hFollows : Follows w events h) (places : List Nat) :
    ∃ more, Course engine shell h more (h.closeAll engine shell places) :=
  exists_course_settle hFollows
    (exists_course_foldl (fun _ place => ⟨_, .snoc .nil (.close place)⟩) places h)

open Script in
/-- **A host that is left alone serves all its clicks**, with the module that comes with it. -/
theorem Course.settle_serves {catalog : String → Program} {config : HostConfig}
    {events : List HostEvent} {h : Host Memory Routine}
    (hCourse : Course (interpreter catalog) shell (bundledStart config) events h) :
    ∃ more, Course (interpreter catalog) shell h more (h.settle (interpreter catalog) shell) ∧
      (∀ e ∈ more, e.isStep = true) ∧
      (h.settle (interpreter catalog) shell).screen.calls.map Prod.fst =
        (acceptedIn events).map Prod.snd ∧
      (h.settle (interpreter catalog) shell).bridge.replies.length = (acceptedIn events).length := by
  obtain ⟨w, -, hFollows, -⟩ := hCourse.exists_account
  obtain ⟨more, hMore, hSteps⟩ : GoesOn (interpreter catalog) shell h _ := goesOn_settle hFollows
  obtain ⟨w', finished, hFollows', hAccount⟩ := (hCourse.trans hMore).exists_account
  have hServed := hAccount.settled hFollows' (workerStep_settle _ shell h) (tasks_settle _ shell h)
  -- no step is a click
  have hNone : acceptedIn more = [] := by
    rw [acceptedIn, List.filterMap_eq_nil_iff]
    intro e hIn
    have hStep := hSteps e hIn
    cases e with
    | clicked request answer => contradiction
    | closed place => contradiction
    | worked posted => rfl
    | ran task => rfl
  have hSame : acceptedIn (events ++ more) = acceptedIn events := by
    rw [acceptedIn, List.filterMap_append, ← acceptedIn, ← acceptedIn, hNone, List.append_nil]
  rw [hSame] at hServed
  exact ⟨more, hMore, hSteps, hServed⟩

end ScriptWindows.Host
