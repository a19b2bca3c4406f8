import ScriptWindows.Bridge.Descriptor
import ScriptWindows.Bridge.Engine

/-!
# Script sessions

A session imports one command module and then runs its commands, one at a time. An import that
fails leaves the session broken; a window that was touched off the UI thread leaves it faulted;
neither runs commands any more. Windows are asked for by the session's dialogues: everything
else a script asks of its host is settled inside the session.

Main results:

* `serve_importing_isDone`: while a module is imported no window is asked for, whatever the
  script does.
* `invokeCommand_of_not_ready`: a session that is not ready runs nothing and forgets what was
  staged.
-/

namespace ScriptWindows

/-! ## What the UI answers -/

/-- The answer to a request for a window: the failure of getting to the UI thread, or what the
shell said there. -/
abbrev UiReply := Except BridgeError (Except String Unit)

/-- A computation that asks for windows. -/
abbrev UiRun (α : Type) := Dialogue WindowRequest UiReply α

/-! ## Parts of a session -/

inductive SessionState
  | opened
  | ready
  | broken (reason : String)
  | faulted (reason : String)
deriving DecidableEq, Repr

/-- A command with its parameters. -/
structure PendingCommand where
  name : String
  parameters : Parameters := []

/-- Set a parameter; of values set under one name the last counts. -/
def PendingCommand.parameter (c : PendingCommand) (name : String) (value : Json) :
    PendingCommand :=
  { c with parameters := Json.insertField name value c.parameters }

/-- What scripts and host share: whether a module is being imported, the errors reported, the
first touch of a window off the UI thread, and the registry. -/
structure Streams (ρ : Type) where
  importing : Bool := false
  errors : List CommandError := []
  violation : Option String := none
  registry : Registry ρ := .empty

/-- A session: the state of its engine and of the commands given to it. -/
structure Session (μ ρ : Type) where
  state : SessionState := .opened
  pending : Option PendingCommand := none
  commands : List String := []
  streams : Streams ρ := {}
  memory : μ

variable {μ ρ α : Type}

/-! ## Serving a script -/

namespace Streams

/-- What is told to a script that wants a window while its module is imported. -/
def importingMessage : String :=
  "UI commands are unavailable while the command module is being imported"

/-- What the script hears of a request for a window. The first touch off the UI thread is kept,
whatever the script does with the error. -/
def afterWindow (s : Streams ρ) (reply : UiReply) : HostReply × Streams ρ :=
  match reply with
  | .ok (.ok ()) => (.ok (), s)
  | .ok (.error reason) => (.error ("window creation failed: " ++ reason), s)
  | .error (.crossThread operation) =>
    (.error (BridgeError.crossThread operation).message,
      { s with violation := some (s.violation.getD operation) })
  | .error e => (.error e.message, s)

/-- Serve a script: reports and edits are settled at once, windows are passed on. -/
def serve (s : Streams ρ) : ScriptRun ρ α → UiRun (α × Streams ρ)
  | .done value => .done (value, s)
  | .ask (.writeError message) resume =>
    serve { s with errors := s.errors ++ [⟨message, false⟩] } (resume (.ok ()))
  | .ask (.editRegistry edit) resume =>
    serve { s with registry := edit s.registry } (resume (.ok ()))
  | .ask (.createWindow request) resume =>
    if s.importing then serve s (resume (.error importingMessage))
    -- only this question leaves the script; its answer is what the shell or the dispatcher says
    else .ask request fun reply =>
      serve (s.afterWindow reply).2 (resume (s.afterWindow reply).1)

end Streams

/-! ## Importing a module -/

/-- Register what a module gives out, as far as its description allows. What was registered
before a failure stays registered. -/
def registerExports (d : ModuleDescriptor) (r : Registry ρ) :
    List (String × Exported ρ) → Except String (List String) × Registry ρ
  | [] => (.ok [], r)
  | (_, .failing error) :: _ => (.error error.message, r)
  | (_, .value) :: rest => registerExports d r rest
  | (name, .routine routine) :: rest =>
    if d.allows name then
      match r.register name routine with
      | .error reason => (.error reason, r)
      | .ok after =>
        let (names, last) := registerExports d after rest
        (names.map (name :: ·), last)
    else registerExports d r rest

/-- The commands a module gives out, once it was evaluated. Every command its description lists
has to be there. -/
def commandsOf (d : ModuleDescriptor) (r : Registry ρ)
    (exports : Except CommandError (List (String × Exported ρ))) :
    Except String (List String) × Registry ρ :=
  match exports with
  | .error error => (.error error.message, r)
  | .ok entries =>
    match r with
    | .replaced kind => (.error (Registry.wrongKind kind "object"), r)
    | .table .. =>
      match registerExports d r entries with
      | (.error reason, after) => (.error reason, after)
      | (.ok names, after) =>
        match d.commands.find? (!names.contains ·) with
        | none => (.ok names, after)
        | some missing =>
          (.error ("module " ++ d.name ++ " does not define exported command " ++ missing), after)

/-- Read the description of a module and its script. -/
def loadModule {m : Type → Type} [Monad m] [Files m] (path : Path) :
    ExceptT BridgeError m (ModuleDescriptor × String) := do
  let d ← ModuleDescriptor.load path
  match ← (Files.readText (d.rootModulePath path) : m _) with
  | .ok source => pure (d, source)
  | .error cause =>
    throw (.importFailure path
      ("cannot read root module " ++ (d.rootModulePath path).text ++ ": " ++ cause.message))

namespace Session

/-- A session without a module. -/
def fresh (engine : Engine μ ρ) : Session μ ρ := { memory := engine.memory }

/-- Forget the command that was staged. -/
def clear (s : Session μ ρ) : Session μ ρ := { s with pending := none }

/-- The session in which the import has failed. -/
def breakWith (s : Session μ ρ) (e : BridgeError) : Session μ ρ :=
  { s.clear with state := .broken e.message }

/-- Evaluate a module and register its commands. What the script reported on the way is
dropped. -/
def importModule (s : Session μ ρ) (engine : Engine μ ρ) (path : Path) (d : ModuleDescriptor)
    (source : String) : UiRun (Except BridgeError Unit × Session μ ρ) :=
  ({ s.streams with importing := true }.serve (engine.evaluate source s.memory)).bind
    fun ((exports, memory), streams) =>
      let (names?, registry) := commandsOf d streams.registry exports
      let after := { s with
        streams := { streams with importing := false, errors := [], registry := registry }
        memory := memory }
      .done (match names? with
        | .ok names => (.ok (), { after.clear with state := .ready, commands := names })
        | .error reason =>
          (.error (.importFailure path reason), after.breakWith (.importFailure path reason)))

/-- Import a command module. A session does that once. -/
def start {m : Type → Type} [Monad m] [Files m] (s : Session μ ρ) (engine : Engine μ ρ)
    (path : Path) : m (UiRun (Except BridgeError Unit × Session μ ρ)) := do
  match s.state with
  | .ready => return .done (.error .alreadyInitialized, s)
  | .broken reason | .faulted reason => return .done (.error (.sessionUnavailable reason), s)
  | .opened =>
    match ← (loadModule path).run with
    | .error e => return .done (.error e, s.breakWith e)
    | .ok (d, source) => return s.importModule engine path d source

/-! ## Running commands -/

/-- Why a session runs no commands, if it does not. -/
def unavailable? (s : Session μ ρ) : Option BridgeError :=
  match s.state with
  | .ready => none
  | .opened => some (.sessionUnavailable "command module has not been imported")
  | .broken reason | .faulted reason => some (.sessionUnavailable reason)

/-- How the running of a command ended. -/
inductive Execution
  | notFound
  | completed (results : List Json)
  | failed (error : CommandError)

/-- Find a command and call it. -/
def execute (s : Session μ ρ) (engine : Engine μ ρ) (c : PendingCommand) :
    UiRun ((Execution × μ) × Streams ρ) :=
  match s.streams.registry.find c.name with
  | .error message => .done ((.failed ⟨message, false⟩, s.memory), s.streams)
  | .ok none => .done ((.notFound, s.memory), s.streams)
  | .ok (some routine) =>
    (s.streams.serve (engine.call routine c.parameters s.memory)).bind
      fun ((result, memory), streams) =>
        .done ((match result with
          | .ok results => .completed results
          | .error error => .failed error, memory), streams)

/-- What a command comes to. A touch off the UI thread outweighs everything else. -/
def conclude (s : Session μ ρ) (c : PendingCommand) (execution : Execution) (memory : μ)
    (streams : Streams ρ) : Except BridgeError Outcome × Session μ ρ :=
  let after := { s with
    streams := { streams with errors := [], violation := none }
    memory := memory }
  match streams.violation with
  | some operation =>
    -- even a script that caught the error has touched a window where it must not
    (.error (.crossThread operation),
      { after with state := .faulted (BridgeError.crossThread operation).message })
  | none =>
    match execution with
    | .notFound => (.error (.commandNotFound c.name), after)
    | .completed results => (.ok ⟨results, !streams.errors.isEmpty, streams.errors⟩, after)
    | .failed error => (.ok ⟨[], true, streams.errors ++ [error]⟩, after)

/-- Run a command in a session that is ready. Errors reported before do not count. -/
def runCommand (s : Session μ ρ) (engine : Engine μ ρ) (c : PendingCommand) :
    UiRun (Except BridgeError Outcome × Session μ ρ) :=
  let cleared := { s.clear with streams := { s.streams with errors := [] } }
  (cleared.execute engine c).bind fun ((execution, memory), streams) =>
    .done (cleared.conclude c execution memory streams)

/-- Run a command. Whatever comes of it, no command is staged afterwards. -/
def invokeCommand (s : Session μ ρ) (engine : Engine μ ρ) (c : PendingCommand) :
    UiRun (Except BridgeError Outcome × Session μ ρ) :=
  match s.unavailable? with
  | some e => .done (.error e, s.clear)
  | none => s.runCommand engine c

/-- Run a command by its name. -/
def invoke (s : Session μ ρ) (engine : Engine μ ρ) (name : String) (parameters : Parameters) :
    UiRun (Except BridgeError Outcome × Session μ ρ) :=
  s.invokeCommand engine ⟨name, parameters⟩

/-! ## Staging a command -/

/-- Stage a command without parameters, in place of one staged before. -/
def addCommand (s : Session μ ρ) (name : String) : Session μ ρ :=
  { s with pending := some { name } }

/-- Set a parameter of the staged command. -/
def addParameter (s : Session μ ρ) (name : String) (value : Json) :
    Except BridgeError (Session μ ρ) :=
  match s.pending with
  | none => .error .noPendingCommand
  | some c => .ok { s with pending := some (c.parameter name value) }

/-- Run the staged command. -/
def invokePending (s : Session μ ρ) (engine : Engine μ ρ) :
    UiRun (Except BridgeError Outcome × Session μ ρ) :=
  match s.pending with
  | none => .done (.error .noPendingCommand, s)
  | some c => s.invokeCommand engine c

end Session

/-! ## Laws -/

/-- While a module is imported no window is asked for, whatever the script does. -/
theorem Streams.serve_importing_isDone (s : Streams ρ) (h : s.importing = true)
    (run : ScriptRun ρ α) : (s.serve run).isDone = true := by
  induction run generalizing s with
  | done value => rfl
  | ask call resume ih =>
    cases call with
    | createWindow request =>
      simp only [serve, h, if_true]
      exact ih _ s h
    | writeError message => exact ih _ _ h
    | editRegistry edit => exact ih _ _ h

namespace Session

/-- A session that is not ready runs nothing, and forgets what was staged. -/
theorem invokeCommand_of_not_ready {s : Session μ ρ} {e : BridgeError}
    (h : s.unavailable? = some e) (engine : Engine μ ρ) (c : PendingCommand) :
    s.invokeCommand engine c = .done (.error e, s.clear) := by
  simp [invokeCommand, h]

/-- A command that was staged runs as one that is given at once. -/
theorem invokePending_of_pending {s : Session μ ρ} {c : PendingCommand}
    (h : s.pending = some c) (engine : Engine μ ρ) :
    s.invokePending engine = s.invokeCommand engine c := by
  simp [invokePending, h]

end Session

end ScriptWindows
