import Mathlib
import ScriptWindows.Proofs.Bridge.Tracing
import ScriptWindows.Proofs.Files.Places

/-!
# The life of a session

A session imports one module, then runs commands until a window is touched off the UI thread. It
is never ready again once it is broken or faulted, and it evaluates nothing twice. All of this is
shown of every call in every state that calls can lead to, whatever the files, the scripts and
the answers of the UI are.

Main results:

* `SessionCall.step_of_ends`: what one call can do to a session.
* `Runs.imports`: what every run keeps.
* `session_lifecycle`: the states of a session, and what each of them answers.
-/

namespace ScriptWindows

open Dialogue

variable {μ ρ : Type}

/-- The changes of state that a session can go through. -/
inductive SessionMove : SessionState → SessionState → Prop
  | stay (state : SessionState) : SessionMove state state
  | imported : SessionMove .opened .ready
  | broken (reason : String) : SessionMove .opened (.broken reason)
  | faulted (reason : String) : SessionMove .ready (.faulted reason)

/-- A session that has still to import its module has not moved. -/
theorem SessionMove.opened_of_opened {state next : SessionState} (h : SessionMove state next)
    (hNext : next = .opened) : state = .opened := by
  cases h with
  | stay => exact hNext
  | imported => contradiction
  | broken reason => rfl
  | faulted reason => contradiction

/-- A session that is broken, or has still to import its module, was never ready. -/
theorem SessionMove.unready_of_unready {state next : SessionState} (h : SessionMove state next)
    (hNext : next = .opened ∨ ∃ reason, next = .broken reason) :
    state = .opened ∨ ∃ reason, state = .broken reason := by
  cases h with
  | stay => exact hNext
  | imported => simp at hNext
  | broken reason => exact .inl rfl
  | faulted reason => simp at hNext

/-- How often a module was evaluated. -/
def Session.evaluations (s : Session (Traced μ) ρ) : Nat :=
  (s.memory.2.filter ScriptUse.isModule).length

/-- A call that imported a module without a failure. -/
def SessionEntry.Imported (e : SessionEntry) : Prop :=
  (∃ tree path, e.call = .start tree path) ∧ e.answer = .started (.ok ())

/-- A call that would run a command. -/
def SessionCall.RunsCommand (s : Session μ ρ) : SessionCall → Prop
  | .invoke .. | .invokeCommand _ => True
  | .invokePending => s.pending.isSome
  | .start .. | .addCommand _ | .addParameter .. | .clear => False

/-! ## One call -/

/-- What a call can do to a session: it either evaluates no module and registers no command, or it
is the import. -/
structure SessionStep (s : Session (Traced μ) ρ) (call : SessionCall) (answer : SessionAnswer)
    (next : Session (Traced μ) ρ) : Prop where
  move : SessionMove s.state next.state
  kept : s.state ≠ .opened ∨ next.state = .opened →
    next.commands = s.commands ∧ next.evaluations = s.evaluations
  once : next.evaluations ≤ s.evaluations + 1
  commands : next.commands = s.commands ∨
    next.state = .ready ∧ (∃ tree path, call = .start tree path) ∧ answer = .started (.ok ())

/-- A call that keeps the state, the commands and the memory. -/
theorem SessionStep.of_same {s next : Session (Traced μ) ρ} {call : SessionCall}
    {answer : SessionAnswer} (hState : next.state = s.state) (hCommands : next.commands = s.commands)
    (hMemory : next.memory = s.memory) : SessionStep s call answer next where
  move := by
    rw [hState]
    exact .stay _
  kept := by
    intro _
    exact ⟨hCommands, by rw [Session.evaluations, hMemory]; rfl⟩
  once := by
    rw [Session.evaluations, hMemory]
    exact Nat.le_succ _
  commands := .inl hCommands

/-- The import: the module is evaluated once, and the session is ready or broken. -/
theorem step_of_importModule {engine : Engine μ ρ} {s : Session (Traced μ) ρ} {tree : FileTree}
    {path : Path} {d : ModuleDescriptor} {source : String}
    {exchange : UiExchange} {result : Except BridgeError Unit}
    {next : Session (Traced μ) ρ} (hOpened : s.state = .opened)
    (h : (s.importModule engine.traced path d source).Ends exchange (result, next)) :
    SessionStep s (.start tree path) (.started result) next := by
  rw [Session.importModule_traced] at h
  obtain ⟨r, -, hAfter⟩ := ends_bind_done.1 h
  have hMemory := s.memory_afterImport path d r.1.1 (r.1.2, s.memory.2 ++ [.module source]) r.2
  rw [hAfter] at hMemory
  -- the source is the one thing written down
  have hOnce : next.evaluations = s.evaluations + 1 := by
    rw [Session.evaluations, hMemory, List.filter_append, List.length_append]
    rfl
  rcases s.afterImport_cases path d _ _ _ hAfter with ⟨rfl, hReady⟩ | ⟨e, rfl, hBroken, hNone⟩
  · refine ⟨?_, ?_, Nat.le_of_eq hOnce, .inr ⟨hReady, ⟨tree, path, rfl⟩, rfl⟩⟩
    · rw [hOpened, hReady]
      exact .imported
    · simp [hOpened, hReady]
  · refine ⟨?_, ?_, Nat.le_of_eq hOnce, .inl hNone⟩
    · rw [hOpened, hBroken]
      exact .broken _
    · simp [hOpened, hBroken]

/-- An import is a step of a session. -/
theorem step_of_startIn {engine : Engine μ ρ} {s : Session (Traced μ) ρ} {tree : FileTree}
    {path : Path} {exchange : UiExchange} {result : Except BridgeError Unit}
    {next : Session (Traced μ) ρ}
    (h : (s.startIn engine.traced tree path).Ends exchange (result, next)) :
    SessionStep s (.start tree path) (.started result) next := by
  rw [Session.startIn_eq] at h
  -- only an opened session goes on to its module
  have hSame : ∀ {e : BridgeError},
      (Dialogue.done (Except.error e, s) : UiRun (Except BridgeError Unit × _)).Ends exchange
        (result, next) → SessionStep s (.start tree path) (.started result) next := by
    intro e hEnds
    obtain ⟨-, -, rfl⟩ := ends_done_mk.1 hEnds
    exact .of_same rfl rfl rfl
  cases hState : s.state with
  | ready => exact hSame (by simpa only [hState] using h)
  | broken reason => exact hSame (by simpa only [hState] using h)
  | faulted reason => exact hSame (by simpa only [hState] using h)
  | opened =>
    simp only [hState] at h
    cases hLoad : ((loadModule (m := StateM FileTree) path).run.run tree).1 with
    | error e =>
      rw [hLoad] at h
      obtain ⟨-, -, rfl⟩ := ends_done_mk.1 h
      refine ⟨?_, ?_, Nat.le_succ _, .inl rfl⟩
      · rw [hState]
        exact .broken _
      · simp [hState, Session.breakWith]
    | ok found =>
      rw [hLoad] at h
      exact step_of_importModule hState h

/-- So is an invocation. -/
theorem step_of_invokeCommand {engine : Engine μ ρ} {s : Session (Traced μ) ρ}
    {c : PendingCommand} (call : SessionCall) {exchange : UiExchange}
    {result : Except BridgeError Outcome} {next : Session (Traced μ) ρ}
    (h : (s.invokeCommand engine.traced c).Ends exchange (result, next)) :
    SessionStep s call (.invoked result) next := by
  rw [Session.invokeCommand] at h
  cases hReason : s.unavailable? with
  | some e =>
    rw [hReason] at h
    obtain ⟨-, -, rfl⟩ := ends_done_mk.1 h
    exact .of_same rfl rfl rfl
  | none =>
    rw [hReason] at h
    -- a command is only run by a session that is ready
    have hReady : s.state = .ready := Session.ready_of_available hReason
    obtain ⟨log, hLog, hRun⟩ := s.runCommand_traced engine c
    simp only at h
    rw [hRun] at h
    obtain ⟨r, -, hConclude⟩ := ends_bind_done.1 h
    have hMemory := s.cleared.memory_conclude c r.1.1 (r.1.2, log) r.2
    obtain ⟨hState, hCommands⟩ := s.cleared.conclude_cases c r.1.1 (r.1.2, log) r.2
    rw [hConclude] at hMemory hState hCommands
    -- what is written down is a command if anything, and no module
    have hEvaluations : next.evaluations = s.evaluations := by
      rw [Session.evaluations, hMemory]
      rcases hLog with rfl | rfl
      · rfl
      · simp [Session.evaluations, ScriptUse.isModule]
    refine ⟨?_, fun _ => ⟨hCommands, hEvaluations⟩, by omega, .inl hCommands⟩
    rcases hState with hStill | ⟨reason, hFaulted⟩
    · rw [show next.state = s.state from hStill]
      exact .stay _
    · rw [hReady, show next.state = .faulted reason from hFaulted]
      exact .faulted reason

/-- **What one call can do to a session.** -/
theorem SessionCall.step_of_ends {engine : Engine μ ρ} {s : Session (Traced μ) ρ}
    {call : SessionCall} {exchange : UiExchange} {answer : SessionAnswer}
    {next : Session (Traced μ) ρ} (h : (call.run engine.traced s).Ends exchange (answer, next)) :
    SessionStep s call answer next := by
  -- one case for each call: the import, the three ways to run a command, and what only edits
  cases call with
  | start tree path =>
    obtain ⟨result, hEnds, rfl⟩ := ends_bind_done_mk.1 h
    exact step_of_startIn hEnds
  | invoke name parameters =>
    obtain ⟨result, hEnds, rfl⟩ := ends_bind_done_mk.1 h
    exact step_of_invokeCommand _ hEnds
  | invokeCommand c =>
    obtain ⟨result, hEnds, rfl⟩ := ends_bind_done_mk.1 h
    exact step_of_invokeCommand _ hEnds
  | addCommand name =>
    obtain ⟨-, -, rfl⟩ := ends_done_mk.1 h
    exact .of_same rfl rfl rfl
  | addParameter name value =>
    rw [run, Session.addParameter] at h
    cases hPending : s.pending with
    | none =>
      rw [hPending] at h
      obtain ⟨-, -, rfl⟩ := ends_done_mk.1 h
      exact .of_same rfl rfl rfl
    | some c =>
      rw [hPending] at h
      obtain ⟨-, -, rfl⟩ := ends_done_mk.1 h
      exact .of_same rfl rfl rfl
  | invokePending =>
    obtain ⟨result, hEnds, rfl⟩ := ends_bind_done_mk.1 h
    rw [Session.invokePending] at hEnds
    cases hPending : s.pending with
    | none =>
      rw [hPending] at hEnds
      obtain ⟨-, -, rfl⟩ := ends_done_mk.1 hEnds
      exact .of_same rfl rfl rfl
    | some c =>
      rw [hPending] at hEnds
      exact step_of_invokeCommand _ hEnds
  | clear =>
    obtain ⟨-, -, rfl⟩ := ends_done_mk.1 h
    exact .of_same rfl rfl rfl

/-! ## Runs -/

/-- What every run keeps: a module is evaluated at most once, not before the import, and there are
no commands without an import that succeeded. -/
structure Runs.Imports (entries : List SessionEntry) (s : Session (Traced μ) ρ) : Prop where
  unopened : s.state = .opened → s.evaluations = 0
  once : s.evaluations ≤ 1
  none : (s.state = .opened ∨ ∃ reason, s.state = .broken reason) → s.commands = []
  imported : s.commands = [] ∨ ∃ e ∈ entries, e.Imported

/-- One step keeps what is known of imports. -/
theorem Runs.Imports.step {entries : List SessionEntry} {s next : Session (Traced μ) ρ}
    {e : SessionEntry} (h : Runs.Imports entries s) (hStep : SessionStep s e.call e.answer next) :
    Runs.Imports (entries ++ [e]) next where
  unopened := by
    intro hOpened
    rw [(hStep.kept (.inr hOpened)).2]
    exact h.unopened (hStep.move.opened_of_opened hOpened)
  once := by
    -- before the import nothing was evaluated, and it evaluates once
    by_cases hOpened : s.state = .opened
    · have hZero := h.unopened hOpened
      have hOnce := hStep.once
      omega
    · rw [(hStep.kept (.inl hOpened)).2]
      exact h.once
  none := by
    intro hState
    rcases hStep.commands with hSame | ⟨hReady, -⟩
    · rw [hSame]
      exact h.none (hStep.move.unready_of_unready hState)
    · rw [hReady] at hState
      simp at hState
  imported := by
    rcases hStep.commands with hSame | ⟨-, hImport, hAnswer⟩
    · rw [hSame]
      rcases h.imported with hNone | ⟨earlier, hIn, hImported⟩
      · exact .inl hNone
      · exact .inr ⟨earlier, List.mem_append_left _ hIn, hImported⟩
    · exact .inr ⟨e, List.mem_append_right _ (List.mem_singleton.2 rfl), hImport, hAnswer⟩

/-- So it is known of every run. -/
theorem Runs.imports {engine : Engine μ ρ} {entries : List SessionEntry}
    {s : Session (Traced μ) ρ} (h : Runs engine.traced (.fresh engine.traced) entries s) :
    Runs.Imports entries s := by
  -- along the run, by what one call can do
  induction h with
  | nil => exact ⟨fun _ => rfl, Nat.zero_le _, fun _ => rfl, .inl rfl⟩
  | snoc h hEnds ih => exact ih.step (SessionCall.step_of_ends hEnds)

/-! ## Answers without running anything -/

/-- A session that is ready imports nothing more. -/
theorem run_start_of_ready {engine : Engine μ ρ} {s : Session μ ρ} (h : s.state = .ready)
    (tree : FileTree) (path : Path) :
    (SessionCall.start tree path).run engine s =
      .done (.started (.error .alreadyInitialized), s) := by
  rw [SessionCall.run, Session.startIn_eq, h]
  rfl

/-- A session that is broken or faulted says why it imports nothing. -/
theorem run_start_of_reason {engine : Engine μ ρ} {s : Session μ ρ} {reason : String}
    (h : s.state = .broken reason ∨ s.state = .faulted reason) (tree : FileTree) (path : Path) :
    (SessionCall.start tree path).run engine s =
      .done (.started (.error (.sessionUnavailable reason)), s) := by
  rw [SessionCall.run, Session.startIn_eq]
  rcases h with h | h <;> rw [h] <;> rfl

/-- Why a session runs no commands is told by its state. -/
theorem unavailable?_of_ne_ready {s : Session μ ρ} (h : s.state ≠ .ready) :
    ∃ reason, s.unavailable? = some (.sessionUnavailable reason) ∧
      ∀ stored, s.state = .broken stored ∨ s.state = .faulted stored → reason = stored := by
  rw [Session.unavailable?]
  cases hState : s.state with
  | ready => exact absurd hState h
  | opened => exact ⟨_, rfl, by simp⟩
  | broken reason => exact ⟨reason, rfl, by simp⟩
  | faulted reason => exact ⟨reason, rfl, by simp⟩

/-- A command for a session that is not ready is answered at once, and only forgotten. -/
theorem run_of_ne_ready {engine : Engine μ ρ} {s : Session μ ρ} (h : s.state ≠ .ready)
    {call : SessionCall} (hCall : call.RunsCommand s) :
    ∃ reason, (∀ stored, s.state = .broken stored ∨ s.state = .faulted stored → reason = stored) ∧
      call.run engine s = .done (.invoked (.error (.sessionUnavailable reason)), s.clear) := by
  obtain ⟨reason, hReason, hStored⟩ := unavailable?_of_ne_ready h
  refine ⟨reason, hStored, ?_⟩
  have hInvoke := Session.invokeCommand_of_not_ready hReason engine
  cases call with
  | invoke name parameters =>
    rw [SessionCall.run, Session.invoke, hInvoke]
    rfl
  | invokeCommand c =>
    rw [SessionCall.run, hInvoke]
    rfl
  | invokePending =>
    obtain ⟨c, hPending⟩ := Option.isSome_iff_exists.1 hCall
    rw [SessionCall.run, Session.invokePending_of_pending hPending, hInvoke]
    rfl
  | start tree path => exact hCall.elim
  | addCommand name => exact hCall.elim
  | addParameter name value => exact hCall.elim
  | clear => exact hCall.elim

/-- **The life of a session**, in every state that any calls can lead to: how often it evaluated a
module and where its commands come from, which states a call can lead to, and what is answered
without running a script or asking the UI. -/
theorem session_lifecycle (engine : Engine μ ρ) {entries : List SessionEntry} {s : Session μ ρ}
    (hRun : Runs engine (.fresh engine) entries s) :
    ∃ t : Session (Traced μ) ρ, t.erase = s ∧ Runs engine.traced (.fresh engine.traced) entries t ∧
      t.evaluations ≤ 1 ∧
      ((t.state = .opened ∨ ∃ reason, t.state = .broken reason) → t.commands = []) ∧
      (t.commands = [] ∨ ∃ e ∈ entries, e.Imported) ∧
      (∀ (call : SessionCall) exchange answer next,
        (call.run engine.traced t).Ends exchange (answer, next) →
        SessionMove t.state next.state ∧ (t.state ≠ .opened → next.commands = t.commands)) ∧
      (t.state = .ready → ∀ tree path, (SessionCall.start tree path).run engine.traced t =
        .done (.started (.error .alreadyInitialized), t)) ∧
      (∀ reason, t.state = .broken reason ∨ t.state = .faulted reason → ∀ tree path,
        (SessionCall.start tree path).run engine.traced t =
          .done (.started (.error (.sessionUnavailable reason)), t)) ∧
      (t.state ≠ .ready → ∀ call : SessionCall, call.RunsCommand t → ∃ reason,
        (∀ stored, t.state = .broken stored ∨ t.state = .faulted stored → reason = stored) ∧
        call.run engine.traced t =
          .done (.invoked (.error (.sessionUnavailable reason)), t.clear)) := by
  obtain ⟨t, hSame, hTraced⟩ : ∃ t : Session (Traced μ) ρ, t.erase = s ∧
      Runs engine.traced (.fresh engine.traced) entries t := Runs.exists_traced hRun
  have hImports := hTraced.imports
  refine ⟨t, hSame, hTraced, hImports.once, hImports.none, hImports.imported, ?_,
    run_start_of_ready, fun reason => run_start_of_reason, fun h call => run_of_ne_ready h⟩
  intro call exchange answer next hEnds
  have hStep := SessionCall.step_of_ends hEnds
  exact ⟨hStep.move, fun hOpened => (hStep.kept (.inl hOpened)).1⟩

/-! ## A module with any script -/

/-- The description of a module that does not say which commands it has. -/
def touchModule : ModuleDescriptor := { name := "Touch", rootModule := "touch.js" }

/-- The description as it is written. -/
def touchText : String := "\x7b\"name\":\"Touch\",\"root_module\":\"touch.js\"\x7d"

/-- The module lies in a tree: its description, and some script beside it. -/
def moduleTree (script : String) : FileTree where
  entries := [(["touch"], .file touchText.toUTF8), (["touch.js"], .file script.toUTF8)]

/-- An import reads the description, and then the script. -/
theorem loadModule_moduleTree (script : String) :
    ((loadModule (m := StateM FileTree) ⟨"touch"⟩).run.run (moduleTree script)).1 =
      .ok (touchModule, script) := by
  have hDescription : (Files.readText ⟨"touch"⟩ : StateM FileTree _).run (moduleTree script) =
      (.ok touchText, moduleTree script) := by
    show ((moduleTree script).readText ⟨"touch"⟩, _) = _
    rw [FileTree.readText_of_name (by decide) (by decide) (by decide) (by decide) rfl]
  have hScript : (Files.readText ⟨"touch.js"⟩ : StateM FileTree _).run (moduleTree script) =
      (.ok script, moduleTree script) := by
    show ((moduleTree script).readText ⟨"touch.js"⟩, _) = _
    rw [FileTree.readText_of_name (by decide) (by decide) (by decide) (by decide) rfl]
  have hParse : ModuleDescriptor.parse touchText = .ok touchModule := by cbv
  have hRoot : touchModule.rootModulePath ⟨"touch"⟩ = ⟨"touch.js"⟩ := by decide
  have hLoad : (ModuleDescriptor.load (m := StateM FileTree) ⟨"touch"⟩).run.run
      (moduleTree script) = (.ok touchModule, moduleTree script) := by
    refine (run_lift_bind hDescription).trans ?_
    simp only [hParse]
    rfl
  rw [loadModule, run_bind_of_ok hLoad]
  simp only [hRoot]
  rw [run_lift_bind hScript]
  rfl

/-- A new session imports the module by evaluating its script. -/
theorem startIn_moduleTree (engine : Engine μ ρ) (script : String) :
    (Session.fresh engine).startIn engine (moduleTree script) ⟨"touch"⟩ =
      (Session.fresh engine).importModule engine ⟨"touch"⟩ touchModule script := by
  rw [Session.startIn_eq, loadModule_moduleTree]
  rfl

/-- An import of the module that succeeds without asking for anything. -/
def moduleImport (script : String) : SessionEntry where
  call := .start (moduleTree script) ⟨"touch"⟩
  exchange := []
  answer := .started (.ok ())

/-- A run that begins with this import. -/
theorem runs_moduleImport {engine : Engine μ ρ} {script : String} {s : Session μ ρ}
    (h : (Session.fresh engine).importModule engine ⟨"touch"⟩ touchModule script =
      .done (.ok (), s)) : Runs engine (.fresh engine) [moduleImport script] s := by
  have hImport : ((moduleImport script).call.run engine (.fresh engine)).Ends []
      ((moduleImport script).answer, s) := by
    rw [moduleImport, SessionCall.run, startIn_moduleTree, h]
    exact .refl _
  exact .snoc .nil hImport

/-! ## A session that faults -/

/-- The script of a module whose one command asks for a window. -/
def touchScript : String := "exports.Touch = () => host.createWindow(\"\", \"\");\n"

/-- An engine that knows this script. Any other one gives out nothing. -/
def touchEngine : Engine Unit Unit where
  memory := ()
  evaluate source memory :=
    .done (.ok (if source = touchScript then [("Touch", .routine ())] else []), memory)
  call _ _ memory := .ask (.createWindow ⟨"", ""⟩) fun _ => .done (.ok [], memory)

/-- The module with this script. -/
def touchTree : FileTree := moduleTree touchScript

/-- The session after its module was imported, in some state. -/
def touchSession (state : SessionState) : Session Unit Unit where
  state := state
  commands := ["Touch"]
  streams := { registry := .table [("Touch", ())] true }
  memory := ()

/-- The command of the module touches a window off the UI thread. -/
def touchFault : BridgeError := .crossThread "createWindow"

/-- The import of the module. -/
def touchImport : SessionEntry := moduleImport touchScript

/-- The engine evaluates the script that it knows. -/
theorem evaluate_touchScript (memory : Unit) :
    touchEngine.evaluate touchScript memory = .done (.ok [("Touch", .routine ())], memory) := by
  show Dialogue.done (Except.ok (if touchScript = touchScript then _ else _), memory) = _
  rw [if_pos rfl]

/-- The module is imported, and its command registered. -/
theorem importModule_touchScript :
    (Session.fresh touchEngine).importModule touchEngine ⟨"touch"⟩ touchModule touchScript =
      .done (.ok (), touchSession .ready) := by
  rw [Session.importModule, evaluate_touchScript]
  rfl

/-- A new session imports the module. -/
theorem startIn_touchTree :
    (Session.fresh touchEngine).startIn touchEngine touchTree ⟨"touch"⟩ =
      .done (.ok (), touchSession .ready) := by
  rw [touchTree, startIn_moduleTree, importModule_touchScript]

/-- The command asks for a window and is told that it stands on the wrong thread. -/
def touchRun : SessionEntry where
  call := .invoke "Touch" []
  exchange := [(⟨"", ""⟩, .error touchFault)]
  answer := .invoked (.error touchFault)

/-- The command faults the session right after the import. -/
theorem runs_touch :
    Runs touchEngine (.fresh touchEngine) [touchImport, touchRun]
      (touchSession (.faulted touchFault.message)) := by
  have hImport : Runs touchEngine (.fresh touchEngine) [touchImport] (touchSession .ready) :=
    runs_moduleImport importModule_touchScript
  have hTouch : (touchRun.call.run touchEngine (touchSession .ready)).Ends touchRun.exchange
      (touchRun.answer, touchSession (.faulted touchFault.message)) :=
    .ask (.refl _)
  exact hImport.snoc hTouch

theorem session_lifecycle_touch :
    Runs touchEngine (.fresh touchEngine) [touchImport, touchRun]
        (touchSession (.faulted touchFault.message)) ∧
      ∃ t : Session (Traced Unit) Unit, t.erase = touchSession (.faulted touchFault.message) ∧
        t.evaluations ≤ 1 ∧
        ∃ reason, (SessionCall.invoke "Touch" []).run touchEngine.traced t =
          .done (.invoked (.error (.sessionUnavailable reason)), t.clear) := by
  obtain ⟨t, hSame, -, hOnce, -, -, -, -, -, hRefused⟩ := session_lifecycle touchEngine runs_touch
  have hState : t.state = .faulted touchFault.message := congrArg Session.state hSame
  obtain ⟨reason, -, hAnswer⟩ := hRefused (by simp [hState]) (.invoke "Touch" []) trivial
  exact ⟨runs_touch, t, hSame, hOnce, reason, hAnswer⟩

end ScriptWindows
