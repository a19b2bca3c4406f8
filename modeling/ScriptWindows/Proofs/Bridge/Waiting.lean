import Mathlib
import ScriptWindows.Proofs.Bridge.Order
import ScriptWindows.Proofs.Bridge.Threads

/-!
# Who waits for whom

The UI thread never waits for a worker that waits for it. Four things see to that:

* **the import**: a script is refused a window while its module is imported, so `spawn` waits for
  what comes to an end on its own;
* **the call**: the UI thread is refused an answer that it would have to wait for;
* **the queue**: neither submitting a command nor shutting a worker down waits for room;
* **the end**: a worker is waited for at its shutdown only if it has already exited.

Work for the UI thread that is asked for there is done at once, so it waits for no task either.

Main results:

* `Process.Unjammed.step`: what every step keeps of the threads and the workers.
* `ui_thread_never_jams`: the UI thread and a worker never wait for each other, and whenever the UI
  thread waits, it goes on without any of its tasks.
-/

namespace ScriptWindows

variable {μ ρ : Type}

/-! ## What every step keeps -/

namespace Process

/-- What holds of the threads and the workers of a process, whatever happened so far:

* a thread waits for a worker that there is;
* an import asks for no window, and while a thread waits for it nobody has given its worker a command
  and the worker waits for no task;
* whoever waits for room holds a handle that was given out;
* the end of a worker is waited for only if the worker has exited;
* the UI thread waits for an import, for the end of a worker, or for nothing;
* the UI thread waits for no task, and a worker only while it runs commands. -/
structure Unjammed (d : Dispatcher) (p : Process μ ρ) : Prop where
  placed : ∀ t x, p.waits t = some x → ∃ e, p.workers x.worker = some e
  imports : ∀ w e run, p.workers w = some e → e.bridge.worker = .importing run → run.isDone = true
  unused : ∀ t w e, p.waits t = some (.imported w) → p.workers w = some e →
    e.bridge.Unused ∧ ¬ p.AwaitsTask (.worker w)
  room : ∀ t w c, p.waits t = some (.room w c) → p.IsGiven w
  ended : ∀ t w e, p.waits t = some (.ended w) → p.workers w = some e → e.bridge.isAlive = false
  ui : ∀ t x, d.isUi t = true → p.waits t = some x → x = .imported x.worker ∨ x = .ended x.worker
  tasks : ∀ t, d.isUi t = true → ¬ p.AwaitsTask (.thread t)
  serves : ∀ w, p.AwaitsTask (.worker w) → ∃ e, p.workers w = some e ∧ e.bridge.Serves

/-- Nothing is jammed before anything was done. -/
theorem unjammed_start (d : Dispatcher) : Unjammed d ({} : Process μ ρ) where
  placed := by
    intro t x hWaits
    contradiction
  imports := by
    intro w e run hWorker
    contradiction
  unused := by
    intro t w e hWaits
    contradiction
  room := by
    intro t w c hWaits
    contradiction
  ended := by
    intro t w e hWaits
    contradiction
  ui := by
    intro t x hUi hWaits
    contradiction
  tasks := by
    rintro t hUi (hTask | hBegun) <;> contradiction
  serves := by
    intro w hAwaits
    rcases hAwaits with hTask | hBegun <;> contradiction

namespace Unjammed

variable {d : Dispatcher} {p : Process μ ρ}

/-- What a thread may begin to wait for, other than an import. -/
inductive MayWait (d : Dispatcher) (p : Process μ ρ) (t : Thread) : Wait → Prop
  | room (w : Nat) (e : WorkerThread μ ρ) (c : PendingCommand) (hUi : d.isUi t = false)
      (hWorker : p.workers w = some e) (hGiven : p.IsGiven w) : MayWait d p t (.room w c)
  | answer (w ticket : Nat) (e : WorkerThread μ ρ) (hUi : d.isUi t = false)
      (hWorker : p.workers w = some e) : MayWait d p t (.answer w ticket)
  | ended (w : Nat) (e : WorkerThread μ ρ) (hWorker : p.workers w = some e)
      (hExited : e.bridge.isAlive = false) : MayWait d p t (.ended w)

/-- A thread goes on, or begins to wait for something that it may wait for. -/
theorem setWait (h : p.Unjammed d) (t : Thread) {x : Option Wait}
    (hMay : ∀ y, x = some y → MayWait d p t y) : (p.setWait t x).Unjammed d := by
  have hCases : ∀ {other y}, (p.setWait t x).waits other = some y →
      (other = t ∧ MayWait d p t y) ∨ p.waits other = some y := by
    intro other y hWaits
    exact (waits_setWait hWaits).imp_left fun hNew => ⟨hNew.1, hMay y hNew.2⟩
  -- nobody begins to wait for an import here, so no handle is taken back
  have hGiven : ∀ {w}, p.IsGiven w → (p.setWait t x).IsGiven w := by
    intro w hGiven other hWaits
    rcases hCases hWaits with ⟨-, hNew⟩ | hOld
    · cases hNew
    · exact hGiven other hOld
  exact {
    placed := by
      intro other y hWaits
      rcases hCases hWaits with ⟨-, hNew⟩ | hOld
      · cases hNew with
        | room w e c hUi hWorker hGiven => exact ⟨e, hWorker⟩
        | answer w ticket e hUi hWorker => exact ⟨e, hWorker⟩
        | ended w e hWorker hExited => exact ⟨e, hWorker⟩
      · exact h.placed other y hOld
    imports := h.imports
    unused := by
      intro other w e hWaits hWorker
      rcases hCases hWaits with ⟨-, hNew⟩ | hOld
      · cases hNew
      · exact h.unused other w e hOld hWorker
    room := by
      intro other w c hWaits
      rcases hCases hWaits with ⟨-, hNew⟩ | hOld
      · cases hNew with
        | room w e c hUi hWorker hIsGiven => exact hGiven hIsGiven
      · exact hGiven (h.room other w c hOld)
    ended := by
      intro other w e hWaits hWorker
      rcases hCases hWaits with ⟨-, hNew⟩ | hOld
      · cases hNew with
        | ended w e' hWorker' hExited =>
          obtain rfl : e' = e := Option.some.inj (hWorker'.symm.trans hWorker)
          exact hExited
      · exact h.ended other w e hOld hWorker
    ui := by
      intro other y hUi hWaits
      rcases hCases hWaits with ⟨rfl, hNew⟩ | hOld
      · -- of these waits only the one for a worker that has exited is open to the UI thread
        cases hNew with
        | room w e c hNotUi => simp [hUi] at hNotUi
        | answer w ticket e hNotUi => simp [hUi] at hNotUi
        | ended w e hWorker hExited => exact .inr rfl
      · exact h.ui other y hUi hOld
    tasks := h.tasks
    serves := h.serves }

/-- A bridge changes. -/
theorem setWorker (h : p.Unjammed d) {w : Nat} {e : WorkerThread μ ρ} {b : Bridge μ ρ}
    (hWorker : p.workers w = some e)
    (hImports : ∀ run, b.worker = .importing run → e.bridge.worker = .importing run)
    (hUnused : ¬ p.IsGiven w → e.bridge.Unused → b.Unused)
    (hExited : e.bridge.isAlive = false → b.isAlive = false)
    (hServes : p.AwaitsTask (.worker w) → e.bridge.Serves → b.Serves) :
    (p.setWorker w { e with bridge := b }).Unjammed d where
  placed := by
    intro t x hWaits
    obtain ⟨f, hFound⟩ := h.placed t x hWaits
    exact exists_setWorker hFound w _
  imports := by
    intro v f run hFound hImporting
    rcases workers_setWorker hFound with ⟨rfl, rfl⟩ | ⟨-, hOld⟩
    · exact h.imports v e run hWorker (hImports run hImporting)
    · exact h.imports v f run hOld hImporting
  unused := by
    intro t v f hWaits hFound
    rcases workers_setWorker hFound with ⟨rfl, rfl⟩ | ⟨-, hOld⟩
    · -- while its import is waited for, the handle is not given out and no client is at work
      obtain ⟨hOldUnused, hFree⟩ := h.unused t v e hWaits hWorker
      exact ⟨hUnused (fun hGiven => hGiven t hWaits) hOldUnused, hFree⟩
    · exact h.unused t v f hWaits hOld
  room := h.room
  ended := by
    intro t v f hWaits hFound
    rcases workers_setWorker hFound with ⟨rfl, rfl⟩ | ⟨-, hOld⟩
    · exact hExited (h.ended t v e hWaits hWorker)
    · exact h.ended t v f hWaits hOld
  ui := h.ui
  tasks := h.tasks
  serves := by
    intro v hAwaits
    obtain ⟨f, hFound, hOldServes⟩ := h.serves v hAwaits
    -- only the bridge that changes has to serve anew
    by_cases hSame : v = w
    · subst hSame
      obtain rfl : e = f := Option.some.inj (hWorker.symm.trans hFound)
      exact ⟨_, p.workers_setWorker_self v _, hServes hAwaits hOldServes⟩
    · exact ⟨f, by rw [workers_setWorker_of_ne hSame, hFound], hOldServes⟩

/-- A client gives a bridge something to do, and leaves its worker as it is. -/
theorem client (h : p.Unjammed d) {w : Nat} {e : WorkerThread μ ρ} {b : Bridge μ ρ}
    (hWorker : p.workers w = some e) (hGiven : p.IsGiven w) (hSame : b.worker = e.bridge.worker) :
    (p.setWorker w { e with bridge := b }).Unjammed d := by
  refine h.setWorker hWorker ?_ (fun hNot => absurd hGiven hNot) ?_ ?_
  · intro run hImporting
    rw [← hSame]
    exact hImporting
  · intro hExited
    rw [← hExited, Bridge.isAlive, Bridge.isAlive, hSame]
  · intro _ hServes
    rw [Bridge.Serves, hSame]
    exact hServes

/-- An invocation jams nothing. -/
theorem invoked (h : p.Unjammed d) (t : Thread) {w : Nat} {e : WorkerThread μ ρ}
    (hWorker : p.workers w = some e) (hGiven : p.IsGiven w) (c : PendingCommand) :
    (p.invoked d t w e c).Unjammed d := by
  have hSame := e.bridge.worker_invoke (d.isUi t) c
  -- whoever is made to wait is not the UI thread
  have hUi : ∀ {ticket? b}, e.bridge.invoke (d.isUi t) c = (.ok ticket?, b) → d.isUi t = false := by
    intro ticket? b hOk
    cases hUi : d.isUi t with
    | false => rfl
    | true =>
      rw [hUi, Bridge.invoke_onUi] at hOk
      simp at hOk
  unfold Process.invoked
  split
  · rename_i ticket b hOk
    rw [hOk] at hSame
    refine (h.client hWorker hGiven hSame).setWait t ?_
    rintro y ⟨⟩
    exact .answer w ticket { e with bridge := b } (hUi hOk) (p.workers_setWorker_self w _)
  · rename_i b hOk
    rw [hOk] at hSame
    refine (h.client hWorker hGiven hSame).setWait t ?_
    rintro y ⟨⟩
    exact .room w { e with bridge := b } c (hUi hOk) (p.workers_setWorker_self w _) hGiven
  · rename_i cause b hError
    rw [hError] at hSame
    refine (h.client hWorker hGiven hSame).setWait t ?_
    rintro y ⟨⟩

/-- A worker that goes on jams nothing. -/
theorem worked (h : p.Unjammed d) {engine : Engine μ ρ} {w : Nat} {e : WorkerThread μ ρ}
    {b : Bridge μ ρ} (hWorker : p.workers w = some e) (hRunning : ¬ p.AwaitsTask (.worker w))
    (hWorked : e.bridge.Worked engine b) : (p.setWorker w { e with bridge := b }).Unjammed d := by
  refine h.setWorker hWorker ?_ (fun _ hUnused => hUnused.worked hWorked) ?_ ?_
  · intro run hImporting
    exact absurd hImporting (hWorked.not_importing run)
  · intro hExited
    rw [hWorked.alive] at hExited
    contradiction
  · intro hAwaits
    exact absurd hAwaits hRunning

/-- Nor does an answer that a worker is told. -/
theorem told (h : p.Unjammed d) {w : Nat} {e : WorkerThread μ ρ} (hWorker : p.workers w = some e)
    (r : UiReply) : (p.setWorker w { e with bridge := e.bridge.answer r }).Unjammed d := by
  have hImports : ∀ run, e.bridge.worker = .importing run → run.isDone = true :=
    fun run => h.imports w e run hWorker
  rcases Bridge.answer_cases hImports r with hSame | ⟨⟨ticket, run, hRunning⟩, hAnswered⟩
  · rw [hSame]
    exact h.setWorker hWorker (fun _ => id) (fun _ => id) id (fun _ => id)
  · -- a command ran and runs on
    obtain ⟨ticket', run', hAnswered⟩ := hAnswered
    refine h.setWorker hWorker ?_ ?_ ?_ (fun _ _ => .inr ⟨ticket', run', hAnswered⟩)
    · intro run hImporting
      rw [hAnswered] at hImporting
      contradiction
    · intro _ hUnused
      exact absurd hRunning (hUnused.worker ticket run)
    · intro hExited
      rw [Bridge.isAlive, hRunning] at hExited
      contradiction

/-- Tasks come to their end, or change their places. -/
theorem fewer (h : p.Unjammed d) {tasks begun : List Caller}
    (hFewer : ∀ c, c ∈ tasks ∨ c ∈ begun → p.AwaitsTask c) :
    { p with tasks := tasks, begun := begun }.Unjammed d where
  placed := h.placed
  imports := h.imports
  unused := by
    intro t w e hWaits hWorker
    obtain ⟨hUnused, hFree⟩ := h.unused t w e hWaits hWorker
    exact ⟨hUnused, fun hAwaits => hFree (hFewer _ hAwaits)⟩
  room := h.room
  ended := h.ended
  ui := h.ui
  tasks := by
    intro t hUi hAwaits
    exact h.tasks t hUi (hFewer _ hAwaits)
  serves := by
    intro w hAwaits
    exact h.serves w (hFewer _ hAwaits)

/-- Nor does one that is told to any caller. -/
theorem answered (h : p.Unjammed d) (c : Caller) (r : UiReply) : (p.answered c r).Unjammed d := by
  unfold Process.answered
  split
  · exact h
  · split
    · rename_i e hWorker
      exact h.told hWorker r
    · exact h

/-- Who may post a task: a thread other than the UI thread, or a worker that runs commands. -/
inductive MayPost (d : Dispatcher) (p : Process μ ρ) : Caller → Prop
  | thread (t : Thread) (hUi : d.isUi t = false) : MayPost d p (.thread t)
  | worker (w : Nat) (e : WorkerThread μ ρ) (hWorker : p.workers w = some e)
      (hServes : e.bridge.Serves) (hUsed : ¬ e.bridge.Unused) : MayPost d p (.worker w)

/-- Nor does a task, if its caller may post it. -/
theorem posted (h : p.Unjammed d) {c : Caller} (hMay : MayPost d p c) :
    { p with tasks := p.tasks ++ [c] }.Unjammed d := by
  have hCases : ∀ {other}, { p with tasks := p.tasks ++ [c] }.AwaitsTask other →
      p.AwaitsTask other ∨ MayPost d p other := by
    rintro other (hTask | hBegun)
    · rcases List.mem_append.1 hTask with hOld | hNew
      · exact .inl (.inl hOld)
      · obtain rfl := List.mem_singleton.1 hNew
        exact .inr hMay
    · exact .inl (.inr hBegun)
  exact {
    placed := h.placed
    imports := h.imports
    unused := by
      intro t w e hWaits hWorker
      obtain ⟨hUnused, hFree⟩ := h.unused t w e hWaits hWorker
      refine ⟨hUnused, fun hAwaits => ?_⟩
      rcases hCases hAwaits with hOld | hNew
      · exact hFree hOld
      · -- a worker may post only when its bridge is used
        cases hNew with
        | worker w f hFound hServes hUsed =>
          obtain rfl : f = e := Option.some.inj (hFound.symm.trans hWorker)
          exact hUsed hUnused
    room := h.room
    ended := h.ended
    ui := h.ui
    tasks := by
      intro t hUi hAwaits
      rcases hCases hAwaits with hOld | hNew
      · exact h.tasks t hUi hOld
      · cases hNew with
        | thread t hNotUi => simp [hUi] at hNotUi
    serves := by
      intro w hAwaits
      rcases hCases hAwaits with hOld | hNew
      · exact h.serves w hOld
      · cases hNew with
        | worker w e hWorker hServes hUsed => exact ⟨e, hWorker, hServes⟩ }

/-- Nor does work for the UI thread, wherever it is asked for. -/
theorem runOnUi (h : p.Unjammed d) (t : Thread) {c : Caller}
    (hMay : d.isUi t = false → MayPost d p c) : (p.runOnUi d t c).Unjammed d := by
  unfold Process.runOnUi
  rw [Dispatcher.posts_eq]
  cases hUi : d.isUi t with
  | true => exact h
  | false => exact h.posted (hMay hUi)

/-- A thread spawns a worker and waits for it. -/
theorem spawned (h : p.Unjammed d) (engine : Engine μ ρ) (t thread : Thread) {w : Nat}
    (capacity : Nat) (tree : FileTree) (path : Path) (hNew : p.workers w = none) :
    ((p.setWorker w ⟨thread, Bridge.spawn capacity ((Session.fresh engine).startIn engine tree
      path)⟩).setWait t (some (.imported w))).Unjammed d := by
  obtain ⟨result, first, hImport⟩ := Session.exists_startIn engine tree path
  rw [hImport]
  have hApart : ∀ {v f}, p.workers v = some f → v ≠ w := by
    rintro v f hFound rfl
    rw [hNew] at hFound
    contradiction
  -- nobody has waited for a worker that there was not
  have hElse : ∀ {other x}, p.waits other = some x → x.worker ≠ w := by
    intro other x hOld
    obtain ⟨f, hFound⟩ := h.placed other x hOld
    exact hApart hFound
  have hWaiting : ∀ {other x b}, ((p.setWorker w ⟨thread, b⟩).setWait t (some (.imported w))).waits
      other = some x → (other = t ∧ x = .imported w) ∨ p.waits other = some x := by
    intro other x b hWaits
    exact (waits_setWait hWaits).imp_left fun hSpawned =>
      ⟨hSpawned.1, (Option.some.inj hSpawned.2).symm⟩
  exact {
    placed := by
      intro other x hWaits
      rcases hWaiting hWaits with ⟨-, rfl⟩ | hOld
      · exact ⟨_, p.workers_setWorker_self w _⟩
      · obtain ⟨f, hFound⟩ := h.placed other x hOld
        exact exists_setWorker hFound w _
    imports := by
      intro v f run hFound hImporting
      rcases workers_setWorker hFound with ⟨rfl, rfl⟩ | ⟨-, hOld⟩
      · -- the new import asks for no window
        cases hImporting
        rfl
      · exact h.imports v f run hOld hImporting
    unused := by
      intro other v f hWaits hFound
      rcases hWaiting hWaits with ⟨-, hSame⟩ | hOld
      · cases hSame
        rcases workers_setWorker hFound with ⟨-, rfl⟩ | ⟨hOther, -⟩
        · refine ⟨⟨rfl, rfl, by simp [Bridge.spawn]⟩, fun hAwaits => ?_⟩
          obtain ⟨g, hServing, -⟩ := h.serves w hAwaits
          exact hApart hServing rfl
        · exact absurd rfl hOther
      · exact h.unused other v f hOld ((workers_setWorker_of_ne (hElse hOld) _).symm.trans hFound)
    room := by
      intro other v c hWaits another hImporting
      rcases hWaiting hWaits with ⟨-, hSame⟩ | hOld
      · contradiction
      · rcases hWaiting hImporting with ⟨-, hSame⟩ | hOldImporting
        · cases hSame
          exact hElse hOld rfl
        · exact h.room other v c hOld another hOldImporting
    ended := by
      intro other v f hWaits hFound
      rcases hWaiting hWaits with ⟨-, hSame⟩ | hOld
      · contradiction
      · exact h.ended other v f hOld ((workers_setWorker_of_ne (hElse hOld) _).symm.trans hFound)
    ui := by
      intro other x hUi hWaits
      rcases hWaiting hWaits with ⟨-, rfl⟩ | hOld
      · exact .inl rfl
      · exact h.ui other x hUi hOld
    tasks := h.tasks
    serves := by
      intro v hAwaits
      obtain ⟨f, hFound, hServes⟩ := h.serves v hAwaits
      exact ⟨f, (workers_setWorker_of_ne (hApart hFound) _).trans hFound, hServes⟩ }

/-- **Every step keeps what holds of the threads and the workers.** -/
theorem step (h : p.Unjammed d) {engine : Engine μ ρ} {next : Process μ ρ}
    (hStep : Step d engine p next) : next.Unjammed d := by
  have hResumes : ∀ t, (p.setWait t none).Unjammed d := by
    intro t
    refine h.setWait t ?_
    rintro y ⟨⟩
  cases hStep with
  | spawn t thread w capacity tree path hFree hNew =>
    exact h.spawned engine t thread capacity tree path hNew
  | spawned t w e hWaits hWorker hOver => exact hResumes t
  | submit t w e c hFree hGiven hWorker =>
    exact h.client hWorker hGiven (e.bridge.worker_submit c)
  | invoke t w e c hFree hGiven hWorker => exact h.invoked t hWorker hGiven c
  | retry t w e c hWaits hWorker => exact h.invoked t hWorker (h.room t w c hWaits) c
  | hear t w ticket e result hWaits hWorker hAnswer => exact hResumes t
  | clone t w e hFree hGiven hWorker => exact h.client hWorker hGiven rfl
  | release t w e hFree hGiven hWorker => exact h.client hWorker hGiven rfl
  | shutdown t w e hFree hGiven hWorker =>
    exact h.client hWorker hGiven e.bridge.sameWork_shutdown.worker
  | join t w e hFree hWorker hExited =>
    refine h.setWait t ?_
    rintro y ⟨⟩
    exact .ended w e hWorker hExited
  | joined t w e hWaits hWorker hExited => exact hResumes t
  | run t hFree => exact h.runOnUi t (.thread t)
  | begin t c rest hUi hFree hTasks =>
    refine h.fewer ?_
    intro other hOther
    rw [AwaitsTask, hTasks]
    simp only [List.mem_cons] at hOther ⊢
    tauto
  | finish t c rest r hUi hFree hBegun =>
    -- the task is let go of first, and whoever waits for it is told after that
    refine (h.fewer ?_).answered c r
    intro other hOther
    rw [AwaitsTask, hBegun]
    exact hOther.imp_right (List.mem_cons_of_mem _)
  | lose c before after cause hTasks =>
    refine (h.fewer ?_).answered c _
    intro other hOther
    rw [AwaitsTask, hTasks]
    simp only [List.mem_append, List.mem_cons] at hOther ⊢
    tauto
  | work w e b hWorker hRunning hStep => exact h.worked hWorker hRunning (Bridge.worked_of_step hStep)
  | ask w e request hWorker hRunning hWants hPosts =>
    obtain ⟨ticket, run, hRuns⟩ :=
      Bridge.running_of_wants (fun run => h.imports w e run hWorker) hWants
    exact h.posted (.worker w e hWorker (.inr ⟨ticket, run, hRuns⟩)
      fun hUnused => hUnused.worker ticket run hRuns)
  | told w e request r hWorker hRunning hWants hTold => exact h.told hWorker r
  | call w e session hWorker hRunning hIdle hServed =>
    exact h.runOnUi e.thread fun _ => .worker w e hWorker (.inl ⟨session, hIdle⟩)
      fun hUnused => hServed hUnused.replies

/-- **A worker waits for no task while a UI thread waits for it.** -/
theorem not_both (h : p.Unjammed d) {t : Thread} (hUi : d.isUi t = true) (w : Nat) :
    ¬ (p.AwaitsWorker t w ∧ p.AwaitsTask (.worker w)) := by
  rintro ⟨⟨x, hWaits, rfl⟩, hAwaits⟩
  obtain ⟨e, hWorker, hServes⟩ := h.serves _ hAwaits
  -- the UI thread waits for an import or for an end, and neither worker waits for a task
  rcases h.ui t x hUi hWaits with hImported | hEnded
  · rw [hImported] at hWaits
    exact (h.unused t _ e hWaits hWorker).2 hAwaits
  · rw [hEnded] at hWaits
    have hExited := h.ended t _ e hWaits hWorker
    rw [hServes.isAlive] at hExited
    contradiction

/-- An import wants no window, and no task is posted for it. -/
theorem import_alone (h : p.Unjammed d) {w : Nat} {e : WorkerThread μ ρ}
    {run : UiRun (Except BridgeError Unit × Session μ ρ)} (hWorker : p.workers w = some e)
    (hImporting : e.bridge.worker = .importing run) :
    run.isDone = true ∧ ¬ p.AwaitsTask (.worker w) := by
  refine ⟨h.imports w e run hWorker hImporting, fun hAwaits => ?_⟩
  obtain ⟨f, hFound, hServes⟩ := h.serves w hAwaits
  obtain rfl : f = e := Option.some.inj (hFound.symm.trans hWorker)
  rcases hServes with ⟨session, hIdle⟩ | ⟨ticket, other, hRunning⟩
  · rw [hImporting] at hIdle
    contradiction
  · rw [hImporting] at hRunning
    contradiction

/-- A UI thread that waits goes on without any of its tasks. -/
theorem goesOn (h : p.Unjammed d) (engine : Engine μ ρ) {t : Thread} {x : Wait}
    (hUi : d.isUi t = true) (hWaits : p.waits t = some x) : p.GoesOn d engine t x.worker := by
  obtain ⟨e, hWorker⟩ := h.placed t x hWaits
  rcases h.ui t x hUi hWaits with hImported | hEnded
  · rw [hImported] at hWaits
    obtain ⟨hUnused, hRunning⟩ := h.unused t _ e hWaits hWorker
    by_cases hOver : ∀ run, e.bridge.worker ≠ .importing run
    · exact .inl (.spawned t _ e hWaits hWorker hOver)
    · -- the import comes to its end with the next step of its worker
      push Not at hOver
      obtain ⟨run, hImporting⟩ := hOver
      have hDone := h.imports _ e run hWorker hImporting
      cases run with
      | ask request resume => contradiction
      | done value =>
        have hStep : e.bridge.step engine = some (e.bridge.finishImport value.1 value.2) := by
          rw [Bridge.step, hImporting]
        have hOver := (Bridge.worked_of_step hStep).not_importing
        refine .inr ⟨e, e.bridge.finishImport value.1 value.2, hWorker, hStep,
          .work _ e _ hWorker hRunning hStep, ?_⟩
        refine .spawned t _ { e with bridge := e.bridge.finishImport value.1 value.2 } hWaits ?_ hOver
        exact p.workers_setWorker_self _ _
  · rw [hEnded] at hWaits
    exact .inl (.joined t _ e hWaits hWorker (h.ended t _ e hWaits hWorker))

end Unjammed

/-- No process that can be reached is jammed. -/
theorem Reachable.unjammed {d : Dispatcher} {engine : Engine μ ρ} {p : Process μ ρ}
    (h : Reachable d engine {} p) : p.Unjammed d := by
  induction h with
  | refl => exact unjammed_start d
  | step h hStep ih => exact ih.step hStep

end Process

/-- **The UI thread and a worker never wait for each other.** In every state that steps of any threads,
workers and UI tasks lead to, whatever the modules are: the UI thread waits for no task, and if it
waits for a worker, the worker waits for no task either; an import asks for no window and waits for
no task, whoever waits for it; and when the UI thread waits, it goes on at once or after one step of
the worker it waits for. -/
theorem ui_thread_never_jams (d : Dispatcher) (engine : Engine μ ρ) {p : Process μ ρ}
    (hReach : Process.Reachable d engine {} p) :
    (∀ t, d.isUi t = true → ¬ p.AwaitsTask (.thread t) ∧
      ∀ w, ¬ (p.AwaitsWorker t w ∧ p.AwaitsTask (.worker w))) ∧
    (∀ w e run, p.workers w = some e → e.bridge.worker = .importing run →
      run.isDone = true ∧ ¬ p.AwaitsTask (.worker w)) ∧
    ∀ t x, d.isUi t = true → p.waits t = some x → p.GoesOn d engine t x.worker := by
  have hUnjammed := hReach.unjammed
  refine ⟨?_, ?_, ?_⟩
  · intro t hUi
    exact ⟨hUnjammed.tasks t hUi, fun w => hUnjammed.not_both hUi w⟩
  · intro w e run hWorker hImporting
    exact hUnjammed.import_alone hWorker hImporting
  · intro t x hUi hWaits
    exact hUnjammed.goesOn engine hUi hWaits

/-! ## A worker that waits for a window -/

def uiThread : Thread := ⟨0, some "ui"⟩

def bridgeThread : Thread := ⟨1, some "scriptui-bridge"⟩

/-- The UI thread is the one of this name; what becomes of tasks makes no difference here. -/
def oneUiThread : Dispatcher where
  isUi t := t == uiThread
  fate _ _ := .dropped

/-- A process of the UI thread and one worker. -/
def twoThreads (x : Option Wait) (tasks : List Caller) (b : Bridge Unit Unit) :
    Process Unit Unit where
  workers := Function.update (fun _ => none) 0 (some ⟨bridgeThread, b⟩)
  waits := Function.update (fun _ => none) uiThread x
  tasks := tasks

theorem workers_twoThreads (x : Option Wait) (tasks : List Caller) (b : Bridge Unit Unit) :
    (twoThreads x tasks b).workers 0 = some ⟨bridgeThread, b⟩ := by
  simp [twoThreads]

theorem setWait_twoThreads (x y : Option Wait) (tasks : List Caller) (b : Bridge Unit Unit) :
    (twoThreads x tasks b).setWait uiThread y = twoThreads y tasks b := by
  simp [twoThreads, Process.setWait]

theorem setWorker_twoThreads (x : Option Wait) (tasks : List Caller) (b after : Bridge Unit Unit) :
    (twoThreads x tasks b).setWorker 0 ⟨bridgeThread, after⟩ = twoThreads x tasks after := by
  simp [twoThreads, Process.setWorker]

theorem isFree_twoThreads (b : Bridge Unit Unit) : (twoThreads none [] b).IsFree uiThread := by
  simp [Process.IsFree, Process.AwaitsTask, twoThreads]

theorem isGiven_twoThreads (tasks : List Caller) (b : Bridge Unit Unit) :
    (twoThreads none tasks b).IsGiven 0 := by
  intro t
  simp [twoThreads]

/-- The bridge while its module is imported. -/
def importingTouch : Bridge Unit Unit := Bridge.spawn 1 (.done (.ok (), touchSession .ready))

def idleTouch : Bridge Unit Unit := { importingTouch with worker := .idle (touchSession .ready) }

/-- The bridge while its command waits for a window. -/
def runningTouch : Bridge Unit Unit :=
  { idleTouch with
    worker := .running 0 ((touchSession .ready).invokeCommand touchEngine ⟨"Touch", []⟩)
    nextTicket := 1 }

/-- The worker of this process is importing, and the UI thread waits for it. -/
theorem reachable_importingTouch :
    Process.Reachable oneUiThread touchEngine {}
      (twoThreads (some (.imported 0)) [] importingTouch) := by
  have hSpawn : Process.Step oneUiThread touchEngine {} _ :=
    .spawn uiThread bridgeThread 0 1 touchTree ⟨"touch"⟩ ⟨rfl, by simp [Process.AwaitsTask]⟩ rfl
  rw [startIn_touchTree] at hSpawn
  exact .step .refl hSpawn

/-- The worker runs its command, and its task waits for the UI thread. -/
theorem reachable_runningTouch :
    Process.Reachable oneUiThread touchEngine {} (twoThreads none [.worker 0] runningTouch) := by
  have hFree : ∀ x b, ¬ (twoThreads x [] b).AwaitsTask (.worker 0) := by
    simp [Process.AwaitsTask, twoThreads]
  have hImport := reachable_importingTouch.step
    (.work 0 _ idleTouch (workers_twoThreads _ _ _) (hFree _ _) rfl)
  rw [setWorker_twoThreads] at hImport
  have hSpawned := hImport.step
    (.spawned uiThread 0 _ (by simp [twoThreads]) (workers_twoThreads _ _ _) (by simp [idleTouch]))
  rw [setWait_twoThreads] at hSpawned
  have hSubmit := hSpawned.step (.submit uiThread 0 _ ⟨"Touch", []⟩ (isFree_twoThreads _)
    (isGiven_twoThreads _ _) (workers_twoThreads _ _ _))
  rw [setWorker_twoThreads] at hSubmit
  have hTake := hSubmit.step
    (.work 0 _ runningTouch (workers_twoThreads _ _ _) (hFree _ _) rfl)
  rw [setWorker_twoThreads] at hTake
  exact hTake.step (.ask 0 _ ⟨"", ""⟩ (workers_twoThreads _ _ _) (hFree _ _) rfl rfl)

/-- The UI thread waits for a worker, and later the worker waits for the UI thread. -/
theorem ui_thread_never_jams_touch :
    (∃ p, Process.Reachable oneUiThread touchEngine {} p ∧ p.AwaitsWorker uiThread 0 ∧
      ¬ p.AwaitsTask (.worker 0) ∧ p.GoesOn oneUiThread touchEngine uiThread 0) ∧
    ∃ p, Process.Reachable oneUiThread touchEngine {} p ∧ p.AwaitsTask (.worker 0) ∧
      ¬ p.AwaitsWorker uiThread 0 := by
  have hUi : oneUiThread.isUi uiThread = true := by decide
  refine ⟨⟨_, reachable_importingTouch, ?_⟩, _, reachable_runningTouch, ?_⟩
  · have hWaits : (twoThreads (some (.imported 0)) [] importingTouch).waits uiThread =
        some (.imported 0) := by simp [twoThreads]
    obtain ⟨hNever, -, hGoesOn⟩ := ui_thread_never_jams _ _ reachable_importingTouch
    have hAwaits : (twoThreads (some (.imported 0)) [] importingTouch).AwaitsWorker uiThread 0 :=
      ⟨_, hWaits, rfl⟩
    exact ⟨hAwaits, fun hTask => (hNever uiThread hUi).2 0 ⟨hAwaits, hTask⟩,
      hGoesOn uiThread _ hUi hWaits⟩
  · have hTask : (twoThreads none [.worker 0] runningTouch).AwaitsTask (.worker 0) :=
      .inl (List.mem_singleton.2 rfl)
    obtain ⟨hNever, -⟩ := ui_thread_never_jams _ _ reachable_runningTouch
    exact ⟨hTask, fun hAwaits => (hNever uiThread hUi).2 0 ⟨hAwaits, hTask⟩⟩

end ScriptWindows
