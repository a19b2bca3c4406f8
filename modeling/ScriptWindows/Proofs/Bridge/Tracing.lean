import ScriptWindows.Bridge.Session
import ScriptWindows.Files.Tree
import ScriptWindows.Proofs.Ui.Exchanges

/-!
# Calls of a session and the scripts they run

Everything a host does with a session is one of seven calls. A call has an exchange with the UI,
an answer, and a session after it. Which scripts it runs is told by an engine that writes down
what it is made to run and otherwise does as another engine does.

Main results:

* `SessionCall.run_erase`: writing down changes nothing else.
* `Runs.exists_traced`: every run of calls is the run of an engine that writes down.
-/

namespace ScriptWindows

open Dialogue

variable {μ ρ α β : Type}

/-! ## An engine that writes down -/

/-- What an engine was made to run: a module from its source, or a command. -/
inductive ScriptUse
  | module (source : String)
  | command (parameters : Parameters)

def ScriptUse.isModule : ScriptUse → Bool
  | .module _ => true
  | .command _ => false

/-- Memory with what was run so far, in order. -/
abbrev Traced (μ : Type) := μ × List ScriptUse

/-- An engine that does as another one and writes down what it runs. -/
def Engine.traced (engine : Engine μ ρ) : Engine (Traced μ) ρ where
  memory := (engine.memory, [])
  evaluate source memory := (engine.evaluate source memory.1).bind fun r =>
    .done (r.1, r.2, memory.2 ++ [.module source])
  call routine parameters memory := (engine.call routine parameters memory.1).bind fun r =>
    .done (r.1, r.2, memory.2 ++ [.command parameters])

/-- A session without what was written down. -/
def Session.erase (s : Session (Traced μ) ρ) : Session μ ρ where
  state := s.state
  pending := s.pending
  commands := s.commands
  streams := s.streams
  memory := s.memory.1

/-! ## Parts of calls -/

/-- Scripts that follow one another are served one after the other. -/
theorem Streams.serve_bind (s : Streams ρ) (run : ScriptRun ρ α) (next : α → ScriptRun ρ β) :
    s.serve (run.bind next) = (s.serve run).bind fun r => r.2.serve (next r.1) := by
  -- along the calls of the host: none of them looks at what comes after the script
  induction run generalizing s with
  | done a => rfl
  | ask call resume ih =>
    cases call with
    | writeError message => exact ih _ _
    | editRegistry edit => exact ih _ _
    | createWindow request =>
      rw [Dialogue.bind, serve, serve]
      split
      · exact ih _ _
      · rw [Dialogue.bind]
        congr 1
        funext reply
        exact ih _ _

/-- What is done with the value of a script is done with it after it was served. -/
theorem Streams.serve_bind_done (s : Streams ρ) (run : ScriptRun ρ α) (f : α → β) :
    s.serve (run.bind fun a => .done (f a)) = (s.serve run).bind fun r => .done (f r.1, r.2) :=
  s.serve_bind run _

namespace Session

/-- The session after a module was evaluated. -/
def afterImport (s : Session μ ρ) (path : Path) (d : ModuleDescriptor)
    (exports : Except CommandError (List (String × Exported ρ))) (memory : μ)
    (streams : Streams ρ) : Except BridgeError Unit × Session μ ρ :=
  let (names?, registry) := commandsOf d streams.registry exports
  let after := { s with
    streams := { streams with importing := false, errors := [], registry := registry }
    memory := memory }
  match names? with
  | .ok names => (.ok (), { after.clear with state := .ready, commands := names })
  | .error reason =>
    (.error (.importFailure path reason), after.breakWith (.importFailure path reason))

/-- An import evaluates the script, and then looks at what it gives out. -/
theorem importModule_eq (s : Session μ ρ) (engine : Engine μ ρ) (path : Path)
    (d : ModuleDescriptor) (source : String) :
    s.importModule engine path d source =
      ({ s.streams with importing := true }.serve (engine.evaluate source s.memory)).bind fun r =>
        .done (s.afterImport path d r.1.1 r.1.2 r.2) := rfl

/-- The memory after an import is that of the script. -/
theorem memory_afterImport (s : Session μ ρ) (path : Path) (d : ModuleDescriptor)
    (exports : Except CommandError (List (String × Exported ρ))) (memory : μ)
    (streams : Streams ρ) : (s.afterImport path d exports memory streams).2.memory = memory := by
  unfold afterImport
  simp only
  split <;> rfl

/-- An import leaves a session ready, or broken for the reason that is answered. -/
theorem afterImport_cases (s : Session μ ρ) (path : Path) (d : ModuleDescriptor)
    (exports : Except CommandError (List (String × Exported ρ))) (memory : μ)
    (streams : Streams ρ) {result : Except BridgeError Unit} {next : Session μ ρ}
    (h : s.afterImport path d exports memory streams = (result, next)) :
    (result = .ok () ∧ next.state = .ready) ∨
      ∃ e, result = .error e ∧ next.state = .broken e.message ∧ next.commands = s.commands := by
  unfold afterImport at h
  simp only at h
  split at h
  · obtain ⟨rfl, rfl⟩ := Prod.mk.inj h
    exact .inl ⟨rfl, rfl⟩
  · obtain ⟨rfl, rfl⟩ := Prod.mk.inj h
    exact .inr ⟨_, rfl, rfl, rfl⟩

/-- The session before a command is run. -/
def cleared (s : Session μ ρ) : Session μ ρ :=
  { s.clear with streams := { s.streams with errors := [] } }

/-- A command is looked up and called with no errors left, and then concluded. -/
theorem runCommand_eq (s : Session μ ρ) (engine : Engine μ ρ) (c : PendingCommand) :
    s.runCommand engine c = (s.cleared.execute engine c).bind fun r =>
      .done (s.cleared.conclude c r.1.1 r.1.2 r.2) := rfl

/-- What a call of a function comes to. -/
def executionOf (result : Except CommandError (List Json)) : Execution :=
  match result with
  | .ok results => .completed results
  | .error error => .failed error

/-- A command that is found is called with its parameters. -/
theorem execute_eq_call {s : Session μ ρ} {c : PendingCommand} {routine : ρ}
    (h : s.streams.registry.find c.name = .ok (some routine)) (engine : Engine μ ρ) :
    s.execute engine c = (s.streams.serve (engine.call routine c.parameters s.memory)).bind
      fun r => .done ((executionOf r.1.1, r.1.2), r.2) := by
  rw [execute, h]
  rfl

/-- A session is available exactly when it is ready. -/
theorem ready_of_available {s : Session μ ρ} (h : s.unavailable? = none) : s.state = .ready := by
  unfold unavailable? at h
  split at h <;> simp_all

/-- The memory after a command is that of the command. -/
theorem memory_conclude (s : Session μ ρ) (c : PendingCommand) (execution : Execution) (memory : μ)
    (streams : Streams ρ) : (s.conclude c execution memory streams).2.memory = memory := by
  unfold conclude
  simp only
  split
  · rfl
  · split <;> rfl

/-- A command leaves the state of a session as it is, unless it touched a window off the UI
thread. -/
theorem conclude_cases (s : Session μ ρ) (c : PendingCommand) (execution : Execution) (memory : μ)
    (streams : Streams ρ) :
    ((s.conclude c execution memory streams).2.state = s.state ∨
      ∃ reason, (s.conclude c execution memory streams).2.state = .faulted reason) ∧
      (s.conclude c execution memory streams).2.commands = s.commands := by
  unfold conclude
  simp only
  split
  · exact ⟨.inr ⟨_, rfl⟩, rfl⟩
  · split <;> exact ⟨.inl rfl, rfl⟩

/-! ## Writing down changes nothing else -/

/-- What follows an import does not look at the log. -/
theorem afterImport_erase (s : Session (Traced μ) ρ) (path : Path) (d : ModuleDescriptor)
    (exports : Except CommandError (List (String × Exported ρ))) (memory : Traced μ)
    (streams : Streams ρ) :
    ((s.afterImport path d exports memory streams).1,
      (s.afterImport path d exports memory streams).2.erase) =
      s.erase.afterImport path d exports memory.1 streams := by
  unfold afterImport
  simp only
  split <;> rfl

/-- Nor does the conclusion of a command. -/
theorem conclude_erase (s : Session (Traced μ) ρ) (c : PendingCommand) (execution : Execution)
    (memory : Traced μ) (streams : Streams ρ) :
    ((s.conclude c execution memory streams).1, (s.conclude c execution memory streams).2.erase) =
      s.erase.conclude c execution memory.1 streams := by
  unfold conclude
  simp only
  split
  · rfl
  · split <;> rfl

/-- An import of a traced module logs one evaluation. -/
theorem importModule_traced (engine : Engine μ ρ) (s : Session (Traced μ) ρ) (path : Path)
    (d : ModuleDescriptor) (source : String) :
    s.importModule engine.traced path d source =
      ({ s.streams with importing := true }.serve (engine.evaluate source s.memory.1)).bind fun r =>
        .done (s.afterImport path d r.1.1 (r.1.2, s.memory.2 ++ [ScriptUse.module source]) r.2) := by
  rw [importModule_eq, Engine.traced]
  simp only
  rw [Streams.serve_bind_done, Dialogue.bind_assoc]
  rfl

/-- Without the log a traced import is the import itself. -/
theorem importModule_erase (engine : Engine μ ρ) (s : Session (Traced μ) ρ) (path : Path)
    (d : ModuleDescriptor) (source : String) :
    ((s.importModule engine.traced path d source).bind fun r => .done (r.1, r.2.erase)) =
      s.erase.importModule engine path d source := by
  rw [importModule_traced, Dialogue.bind_assoc, importModule_eq]
  congr 1
  funext r
  exact congrArg Dialogue.done (s.afterImport_erase ..)

/-- What is written down when a command is run: the command, if there is one of its name. -/
theorem execute_traced (engine : Engine μ ρ) (s : Session (Traced μ) ρ) (c : PendingCommand) :
    ∃ log, (log = s.memory.2 ∨ log = s.memory.2 ++ [.command c.parameters]) ∧
      s.execute engine.traced c = (s.erase.execute engine c).bind fun r =>
        .done ((r.1.1, (r.1.2, log)), r.2) := by
  -- nothing is run unless there is a function of this name
  cases hFind : s.streams.registry.find c.name with
  | error message =>
    refine ⟨s.memory.2, .inl rfl, ?_⟩
    rw [execute, execute, hFind, show s.erase.streams.registry.find c.name = _ from hFind]
    rfl
  | ok found =>
    cases found with
    | none =>
      refine ⟨s.memory.2, .inl rfl, ?_⟩
      rw [execute, execute, hFind, show s.erase.streams.registry.find c.name = _ from hFind]
      rfl
    | some routine =>
      refine ⟨s.memory.2 ++ [.command c.parameters], .inr rfl, ?_⟩
      rw [execute_eq_call hFind, execute_eq_call (s := s.erase) hFind, Engine.traced]
      simp only
      rw [Streams.serve_bind_done, Dialogue.bind_assoc, Dialogue.bind_assoc]
      rfl

/-- A traced command logs at most one call. -/
theorem runCommand_traced (engine : Engine μ ρ) (s : Session (Traced μ) ρ) (c : PendingCommand) :
    ∃ log, (log = s.memory.2 ∨ log = s.memory.2 ++ [.command c.parameters]) ∧
      s.runCommand engine.traced c = (s.erase.cleared.execute engine c).bind fun r =>
        .done (s.cleared.conclude c r.1.1 (r.1.2, log) r.2) := by
  obtain ⟨log, hLog, hExecute⟩ := s.cleared.execute_traced engine c
  refine ⟨log, hLog, ?_⟩
  rw [runCommand_eq, hExecute, Dialogue.bind_assoc]
  rfl

/-- Without the log a traced command is the command itself. -/
theorem runCommand_erase (engine : Engine μ ρ) (s : Session (Traced μ) ρ) (c : PendingCommand) :
    ((s.runCommand engine.traced c).bind fun r => .done (r.1, r.2.erase)) =
      s.erase.runCommand engine c := by
  obtain ⟨log, -, hRun⟩ := s.runCommand_traced engine c
  rw [hRun, Dialogue.bind_assoc, runCommand_eq]
  congr 1
  funext r
  exact congrArg Dialogue.done (s.cleared.conclude_erase ..)

/-- So is a traced invocation. -/
theorem invokeCommand_erase (engine : Engine μ ρ) (s : Session (Traced μ) ρ)
    (c : PendingCommand) :
    ((s.invokeCommand engine.traced c).bind fun r => .done (r.1, r.2.erase)) =
      s.erase.invokeCommand engine c := by
  -- whether commands are run does not depend on the memory
  have hSame : s.erase.unavailable? = s.unavailable? := rfl
  rw [invokeCommand, invokeCommand, hSame]
  cases s.unavailable? with
  | some e => rfl
  | none => exact s.runCommand_erase engine c

end Session

/-! ## Calls -/

/-- A call on a session. An import reads the files that are there when it is made. -/
inductive SessionCall
  | start (tree : FileTree) (path : Path)
  | invoke (name : String) (parameters : Parameters)
  | invokeCommand (c : PendingCommand)
  | addCommand (name : String)
  | addParameter (name : String) (value : Json)
  | invokePending
  | clear

inductive SessionAnswer
  | started (result : Except BridgeError Unit)
  | invoked (result : Except BridgeError Outcome)
  | edited (result : Except BridgeError Unit)

/-- The import of a module whose files are in a tree. -/
def Session.startIn (s : Session μ ρ) (engine : Engine μ ρ) (tree : FileTree) (path : Path) :
    UiRun (Except BridgeError Unit × Session μ ρ) :=
  ((s.start (m := StateM FileTree) engine path).run tree).1

/-- Make a call on a session. -/
def SessionCall.run (engine : Engine μ ρ) (s : Session μ ρ) :
    SessionCall → UiRun (SessionAnswer × Session μ ρ)
  | .start tree path => (s.startIn engine tree path).bind fun r => .done (.started r.1, r.2)
  | .invoke name parameters =>
    (s.invoke engine name parameters).bind fun r => .done (.invoked r.1, r.2)
  | .invokeCommand c => (s.invokeCommand engine c).bind fun r => .done (.invoked r.1, r.2)
  | .addCommand name => .done (.edited (.ok ()), s.addCommand name)
  | .addParameter name value =>
    match s.addParameter name value with
    | .ok after => .done (.edited (.ok ()), after)
    | .error e => .done (.edited (.error e), s)
  | .invokePending => (s.invokePending engine).bind fun r => .done (.invoked r.1, r.2)
  | .clear => .done (.edited (.ok ()), s.clear)

namespace Session

/-- What an import does in each state. -/
theorem startIn_eq (s : Session μ ρ) (engine : Engine μ ρ) (tree : FileTree) (path : Path) :
    s.startIn engine tree path =
      match s.state with
      | .ready => .done (.error .alreadyInitialized, s)
      | .broken reason | .faulted reason => .done (.error (.sessionUnavailable reason), s)
      | .opened =>
        match ((loadModule (m := StateM FileTree) path).run.run tree).1 with
        | .error e => .done (.error e, s.breakWith e)
        | .ok (d, source) => s.importModule engine path d source := by
  unfold startIn start
  cases s.state with
  | ready => rfl
  | broken reason => rfl
  | faulted reason => rfl
  | opened =>
    -- the files are read before any script is run
    simp only
    rw [StateT.run_bind]
    cases (loadModule (m := StateM FileTree) path).run.run tree with
    | mk loaded after =>
      cases loaded with
      | error e => rfl
      | ok found => rfl

/-- So is the whole start of a traced session. -/
theorem startIn_erase (engine : Engine μ ρ) (s : Session (Traced μ) ρ) (tree : FileTree)
    (path : Path) :
    ((s.startIn engine.traced tree path).bind fun r => .done (r.1, r.2.erase)) =
      s.erase.startIn engine tree path := by
  rw [startIn_eq, startIn_eq, show s.erase.state = s.state from rfl]
  cases s.state with
  | ready => rfl
  | broken reason => rfl
  | faulted reason => rfl
  | opened =>
    simp only
    cases ((loadModule (m := StateM FileTree) path).run.run tree).1 with
    | error e => rfl
    | ok found => exact s.importModule_erase engine path found.1 found.2

end Session

namespace SessionCall

/-- **Writing down changes nothing else** of what a call does. -/
theorem run_erase (engine : Engine μ ρ) (s : Session (Traced μ) ρ) (call : SessionCall) :
    ((call.run engine.traced s).bind fun r => .done (r.1, r.2.erase)) =
      call.run engine s.erase := by
  -- an answer is only put in its constructor
  have hAnswered : ∀ {γ : Type} (f : γ → SessionAnswer) {traced : UiRun (γ × Session (Traced μ) ρ)}
      {plain : UiRun (γ × Session μ ρ)},
      (traced.bind fun r => .done (r.1, r.2.erase)) = plain →
      ((traced.bind fun r => Dialogue.done (f r.1, r.2)).bind fun r => .done (r.1, r.2.erase)) =
        plain.bind fun r => .done (f r.1, r.2) := by
    rintro γ f traced plain rfl
    rw [Dialogue.bind_assoc, Dialogue.bind_assoc]
    rfl
  cases call with
  | start tree path => exact hAnswered .started (s.startIn_erase engine tree path)
  | invoke name parameters => exact hAnswered .invoked (s.invokeCommand_erase engine _)
  | invokeCommand c => exact hAnswered .invoked (s.invokeCommand_erase engine c)
  | addCommand name => rfl
  | addParameter name value =>
    rw [run, run, Session.addParameter, Session.addParameter,
      show s.erase.pending = s.pending from rfl]
    cases s.pending <;> rfl
  | invokePending =>
    refine hAnswered .invoked ?_
    rw [Session.invokePending, Session.invokePending, show s.erase.pending = s.pending from rfl]
    cases s.pending with
    | none => rfl
    | some c => exact s.invokeCommand_erase engine c
  | clear => rfl

end SessionCall

/-! ## Runs of calls -/

/-- What the UI was asked and answered, in order. -/
abbrev UiExchange := List (WindowRequest × UiReply)

/-- A call that has ended: the exchange it had with the UI, and its answer. -/
structure SessionEntry where
  call : SessionCall
  exchange : UiExchange
  answer : SessionAnswer

/-- Calls made on a session, one after another, each of which has ended. The UI may have answered
anything. -/
inductive Runs (engine : Engine μ ρ) (first : Session μ ρ) :
    List SessionEntry → Session μ ρ → Prop
  | nil : Runs engine first [] first
  | snoc {entries : List SessionEntry} {s next : Session μ ρ} {e : SessionEntry}
      (h : Runs engine first entries s)
      (hEnds : (e.call.run engine s).Ends e.exchange (e.answer, next)) :
      Runs engine first (entries ++ [e]) next

/-- **Every run is the run of an engine that writes down.** -/
theorem Runs.exists_traced {engine : Engine μ ρ} {first : Session (Traced μ) ρ}
    {entries : List SessionEntry} {s : Session μ ρ} (h : Runs engine first.erase entries s) :
    ∃ t : Session (Traced μ) ρ, t.erase = s ∧ Runs engine.traced first entries t := by
  -- each call in turn ends for the engine that writes down as it does for the other
  induction h with
  | nil => exact ⟨first, rfl, .nil⟩
  | snoc h hEnds ih =>
    obtain ⟨t, rfl, hTraced⟩ := ih
    rw [← SessionCall.run_erase] at hEnds
    obtain ⟨⟨answer, next⟩, hNext, hSame⟩ := Dialogue.ends_bind_done.1 hEnds
    obtain ⟨rfl, rfl⟩ := Prod.mk.inj hSame
    exact ⟨next, rfl, .snoc hTraced hNext⟩

end ScriptWindows
