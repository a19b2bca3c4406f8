import ScriptWindows.Proofs.Bridge.Tracing

/-!
# Scripts as they are served

A session serves a script call by call. What a script asked and was told is written beside what
the UI was asked and what the streams have become, so that the reports and the edits of one script
can be told from those of another.

Main results:

* `Streams.ends_serve`: serving a script comes to what the script comes to when it is told these
  answers.
* `Streams.Served.errors`: the errors that a script adds are its reports, in order.
* `SessionCall.comesTo_of_ends`: what a call comes to, by what it makes the engine do.
* `Runs.settled`: nothing of one call reaches the next through the streams.
-/

namespace ScriptWindows

open Dialogue

variable {μ ρ α : Type}

/-- What a script asked of its host, each with what it was told. -/
abbrev HostExchange (ρ : Type) := List (HostCall ρ × HostReply)

/-- The error that a call of a script reports, if it is a report. -/
def HostCall.report? : HostCall ρ → Option CommandError
  | .writeError message => some ⟨message, false⟩
  | .createWindow _ | .editRegistry _ => none

/-- What a script reported, in order. -/
def reportsOf (calls : HostExchange ρ) : List CommandError :=
  calls.filterMap fun call => call.1.report?

/-- No call of the script edits the registry. -/
def LeavesRegistry (calls : HostExchange ρ) : Prop :=
  ∀ call ∈ calls, ∀ edit, call.1 ≠ .editRegistry edit

/-! ## Serving -/

namespace Streams

/-- The calls of a script, the exchange with the UI they lead to, and the streams after them. -/
inductive Served : Streams ρ → HostExchange ρ → UiExchange → Streams ρ → Prop
  | done (s : Streams ρ) : Served s [] [] s
  | writeError {s after : Streams ρ} {calls : HostExchange ρ} {exchange : UiExchange}
      (message : String)
      (h : Served { s with errors := s.errors ++ [⟨message, false⟩] } calls exchange after) :
      Served s ((.writeError message, .ok ()) :: calls) exchange after
  | editRegistry {s after : Streams ρ} {calls : HostExchange ρ} {exchange : UiExchange}
      (edit : Registry ρ → Registry ρ)
      (h : Served { s with registry := edit s.registry } calls exchange after) :
      Served s ((.editRegistry edit, .ok ()) :: calls) exchange after
  -- while a module is imported a window is refused without asking
  | refused {s after : Streams ρ} {calls : HostExchange ρ} {exchange : UiExchange}
      (request : WindowRequest) (hImporting : s.importing = true)
      (h : Served s calls exchange after) :
      Served s ((.createWindow request, .error importingMessage) :: calls) exchange after
  | passed {s after : Streams ρ} {calls : HostExchange ρ} {exchange : UiExchange}
      (request : WindowRequest) (reply : UiReply) (hImporting : s.importing = false)
      (h : Served (s.afterWindow reply).2 calls exchange after) :
      Served s ((.createWindow request, (s.afterWindow reply).1) :: calls)
        ((request, reply) :: exchange) after

/-- **Serving a script** comes to what the script comes to when it is told these answers. -/
theorem ends_serve {s after : Streams ρ} {run : ScriptRun ρ α} {exchange : UiExchange} {a : α} :
    (s.serve run).Ends exchange (a, after) ↔
      ∃ calls, run.Ends calls a ∧ s.Served calls exchange after := by
  -- along the script: only a window that is passed on is a question of the whole
  induction run generalizing s exchange with
  | done value =>
    rw [serve, ends_done_mk]
    constructor
    · rintro ⟨rfl, rfl, rfl⟩
      exact ⟨[], .refl _, .done _⟩
    · rintro ⟨calls, hEnds, hServed⟩
      obtain ⟨rfl, rfl⟩ := ends_done.1 hEnds
      cases hServed with
      | done => exact ⟨rfl, rfl, rfl⟩
  | ask call resume ih =>
    cases call with
    | writeError message =>
      rw [serve, ih]
      constructor
      · rintro ⟨calls, hEnds, hServed⟩
        exact ⟨_, .ask hEnds, .writeError message hServed⟩
      · rintro ⟨calls, hEnds, hServed⟩
        obtain ⟨reply, rest, rfl, hRest⟩ := ends_ask.1 hEnds
        cases hServed with
        | writeError message hServed => exact ⟨rest, hRest, hServed⟩
    | editRegistry edit =>
      rw [serve, ih]
      constructor
      · rintro ⟨calls, hEnds, hServed⟩
        exact ⟨_, .ask hEnds, .editRegistry edit hServed⟩
      · rintro ⟨calls, hEnds, hServed⟩
        obtain ⟨reply, rest, rfl, hRest⟩ := ends_ask.1 hEnds
        cases hServed with
        | editRegistry edit hServed => exact ⟨rest, hRest, hServed⟩
    | createWindow request =>
      rw [serve]
      cases hImporting : s.importing with
      | true =>
        rw [if_pos rfl, ih]
        constructor
        · rintro ⟨calls, hEnds, hServed⟩
          exact ⟨_, .ask hEnds, .refused request hImporting hServed⟩
        · rintro ⟨calls, hEnds, hServed⟩
          obtain ⟨reply, rest, rfl, hRest⟩ := ends_ask.1 hEnds
          cases hServed with
          | refused request _ hServed => exact ⟨rest, hRest, hServed⟩
          | passed request reply hPassing => simp [hImporting] at hPassing
      | false =>
        rw [if_neg Bool.false_ne_true]
        constructor
        · intro h
          obtain ⟨reply, rest, rfl, hRest⟩ := ends_ask.1 h
          obtain ⟨calls, hEnds, hServed⟩ := (ih _).1 hRest
          exact ⟨_, .ask hEnds, .passed request reply hImporting hServed⟩
        · rintro ⟨calls, hEnds, hServed⟩
          obtain ⟨reply, rest, rfl, hRest⟩ := ends_ask.1 hEnds
          cases hServed with
          | refused request hRefusing => simp [hImporting] at hRefusing
          | passed request reply _ hServed => exact .ask ((ih _).2 ⟨rest, hRest, hServed⟩)

theorem afterWindow_errors (s : Streams ρ) (reply : UiReply) :
    (s.afterWindow reply).2.errors = s.errors := by
  unfold afterWindow
  split <;> rfl

theorem afterWindow_importing (s : Streams ρ) (reply : UiReply) :
    (s.afterWindow reply).2.importing = s.importing := by
  unfold afterWindow
  split <;> rfl

theorem afterWindow_registry (s : Streams ρ) (reply : UiReply) :
    (s.afterWindow reply).2.registry = s.registry := by
  unfold afterWindow
  split <;> rfl

namespace Served

variable {s after : Streams ρ} {calls : HostExchange ρ} {exchange : UiExchange}

/-- **The errors that a script adds** are its reports, in order. -/
theorem errors (h : s.Served calls exchange after) :
    after.errors = s.errors ++ reportsOf calls := by
  induction h with
  | done s => simp [reportsOf]
  | writeError message h ih => rw [ih, List.append_assoc]; rfl
  | editRegistry edit h ih => exact ih
  | refused request hImporting h ih => exact ih
  | passed request reply hImporting h ih => rw [ih, afterWindow_errors]; rfl

theorem importing (h : s.Served calls exchange after) : after.importing = s.importing := by
  induction h with
  | done s => rfl
  | writeError message h ih => exact ih
  | editRegistry edit h ih => exact ih
  | refused request hImporting h ih => exact ih
  | passed request reply hImporting h ih => rw [ih, afterWindow_importing]

/-- A script that does not edit the registry leaves it as it is. -/
theorem registry (h : s.Served calls exchange after) (hLeaves : LeavesRegistry calls) :
    after.registry = s.registry := by
  induction h with
  | done s => rfl
  | writeError message h ih => exact ih fun call hCall => hLeaves call (.tail _ hCall)
  | editRegistry edit h ih => exact absurd rfl (hLeaves _ (.head _) edit)
  | refused request hImporting h ih => exact ih fun call hCall => hLeaves call (.tail _ hCall)
  | passed request reply hImporting h ih =>
    rw [ih fun call hCall => hLeaves call (.tail _ hCall), afterWindow_registry]

/-- While a module is imported the UI is asked nothing, so no window is touched. -/
theorem of_importing (h : s.Served calls exchange after) (hImporting : s.importing = true) :
    exchange = [] ∧ after.violation = s.violation := by
  induction h with
  | done s => exact ⟨rfl, rfl⟩
  | writeError message h ih => exact ih hImporting
  | editRegistry edit h ih => exact ih hImporting
  | refused request _ h ih => exact ih hImporting
  | passed request reply hPassing h ih => simp [hImporting] at hPassing

end Served

end Streams

/-! ## Commands that are run -/

namespace Session

/-- What the running of a command comes to: there is no registry to look in, no command of the
name, or a function that is called. -/
inductive RunsTo (engine : Engine μ ρ) (s : Session μ ρ) (c : PendingCommand)
    (exchange : UiExchange) (ended : Except BridgeError Outcome × Session μ ρ) : Prop
  | unsearchable (kind : String) (hReplaced : s.streams.registry = .replaced kind)
      (hExchange : exchange = [])
      (hEnded : ended = s.cleared.conclude c
        (.failed ⟨Registry.wrongKind kind "object", false⟩) s.memory s.cleared.streams)
  | unknown (hFind : s.streams.registry.find c.name = .ok none) (hExchange : exchange = [])
      (hEnded : ended = s.cleared.conclude c .notFound s.memory s.cleared.streams)
  | called (routine : ρ) (calls : HostExchange ρ) (result : Except CommandError (List Json))
      (memory : μ) (after : Streams ρ)
      (hFind : s.streams.registry.find c.name = .ok (some routine))
      (hCall : (engine.call routine c.parameters s.memory).Ends calls (result, memory))
      (hServed : s.cleared.streams.Served calls exchange after)
      (hEnded : ended = s.cleared.conclude c (executionOf result) memory after)

/-- A command ends in one of the ways that are told of it. -/
theorem runsTo_of_ends {engine : Engine μ ρ} {s : Session μ ρ} {c : PendingCommand}
    {exchange : UiExchange} {ended : Except BridgeError Outcome × Session μ ρ}
    (h : (s.runCommand engine c).Ends exchange ended) : s.RunsTo engine c exchange ended := by
  rw [runCommand_eq] at h
  obtain ⟨⟨⟨execution, memory⟩, after⟩, hExecute, rfl⟩ := ends_bind_done.1 h
  -- the registry decides whether there is anything to call
  have hSame : s.cleared.streams.registry = s.streams.registry := rfl
  cases hRegistry : s.streams.registry with
  | replaced kind =>
    rw [execute, hSame, hRegistry, Registry.find] at hExecute
    obtain ⟨rfl, hResult, rfl⟩ := ends_done_mk.1 hExecute
    obtain ⟨rfl, rfl⟩ := Prod.mk.inj hResult
    exact .unsearchable kind hRegistry rfl rfl
  | table commands extensible =>
    cases hFind : s.streams.registry.find c.name with
    | error message => simp [hRegistry, Registry.find] at hFind
    | ok found =>
      cases found with
      | none =>
        rw [execute, hSame, hFind] at hExecute
        obtain ⟨rfl, hResult, rfl⟩ := ends_done_mk.1 hExecute
        obtain ⟨rfl, rfl⟩ := Prod.mk.inj hResult
        exact .unknown hFind rfl rfl
      | some routine =>
        rw [execute_eq_call (hSame ▸ hFind)] at hExecute
        obtain ⟨⟨⟨result, memory'⟩, after'⟩, hServe, hResult⟩ := ends_bind_done.1 hExecute
        obtain ⟨hExecution, rfl⟩ := Prod.mk.inj hResult
        obtain ⟨rfl, rfl⟩ := Prod.mk.inj hExecution
        obtain ⟨calls, hCall, hServed⟩ := Streams.ends_serve.1 hServe
        exact .called routine calls result memory' after' hFind hCall hServed rfl

/-- However the running of a command ends, it is concluded after what was served: the calls of the
command, if one was called. -/
theorem RunsTo.concluded {engine : Engine μ ρ} {s : Session μ ρ} {c : PendingCommand}
    {exchange : UiExchange} {ended : Except BridgeError Outcome × Session μ ρ}
    (h : s.RunsTo engine c exchange ended) :
    ∃ execution memory calls after, ended = s.cleared.conclude c execution memory after ∧
      s.cleared.streams.Served calls exchange after ∧
      (calls = [] ∨ ∃ routine result, s.streams.registry.find c.name = .ok (some routine) ∧
        (engine.call routine c.parameters s.memory).Ends calls (result, memory)) := by
  cases h with
  | unsearchable kind hReplaced hExchange hEnded =>
    subst hExchange
    exact ⟨_, _, [], _, hEnded, .done _, .inl rfl⟩
  | unknown hFind hExchange hEnded =>
    subst hExchange
    exact ⟨_, _, [], _, hEnded, .done _, .inl rfl⟩
  | called routine calls result memory after hFind hCall hServed hEnded =>
    exact ⟨_, _, calls, after, hEnded, hServed, .inr ⟨routine, result, hFind, hCall⟩⟩

/-! ## Imports -/

/-- What an import comes to: its files do not load, or a module is evaluated while the UI is asked
nothing. -/
inductive ImportsTo (engine : Engine μ ρ) (s : Session μ ρ) (path : Path)
    (ended : Except BridgeError Unit × Session μ ρ) : Prop
  | unloaded (e : BridgeError) (hEnded : ended = (.error e, s.breakWith e))
  | evaluated (d : ModuleDescriptor) (source : String) (calls : HostExchange ρ)
      (exports : Except CommandError (List (String × Exported ρ))) (memory : μ) (after : Streams ρ)
      (hEvaluate : (engine.evaluate source s.memory).Ends calls (exports, memory))
      (hServed : { s.streams with importing := true }.Served calls [] after)
      (hEnded : ended = s.afterImport path d exports memory after)

/-- An import ends as the evaluation of its module does, once that was served. -/
theorem startIn_of_served {engine : Engine μ ρ} {s : Session μ ρ} (hOpened : s.state = .opened)
    {tree : FileTree} {path : Path} {d : ModuleDescriptor} {source : String}
    (hLoad : ((loadModule (m := StateM FileTree) path).run.run tree).1 = .ok (d, source))
    {exports : Except CommandError (List (String × Exported ρ))} {memory : μ} {after : Streams ρ}
    (hServe : ({ s.streams with importing := true } : Streams ρ).serve
      (engine.evaluate source s.memory) = .done ((exports, memory), after)) :
    s.startIn engine tree path = .done (s.afterImport path d exports memory after) := by
  rw [startIn_eq, hOpened, hLoad]
  simp only [importModule_eq, hServe]
  rfl

/-- A module whose files load is evaluated at once: its script hears of a refusal for each window
that it wants, and the import ends as the evaluation does. -/
theorem startIn_of_load (engine : Engine μ ρ) {s : Session μ ρ} (hOpened : s.state = .opened)
    {tree : FileTree} {path : Path} {d : ModuleDescriptor} {source : String}
    (hLoad : ((loadModule (m := StateM FileTree) path).run.run tree).1 = .ok (d, source)) :
    ∃ calls exports memory after,
      (engine.evaluate source s.memory).Ends calls (exports, memory) ∧
      { s.streams with importing := true }.Served calls [] after ∧
      s.startIn engine tree path = .done (s.afterImport path d exports memory after) := by
  have hDone := Streams.serve_importing_isDone { s.streams with importing := true } rfl
    (engine.evaluate source s.memory)
  cases hServe : ({ s.streams with importing := true } : Streams ρ).serve
      (engine.evaluate source s.memory) with
  | ask request resume =>
    rw [hServe] at hDone
    contradiction
  | done r =>
    obtain ⟨⟨exports, memory⟩, after⟩ := r
    have hEnds : (({ s.streams with importing := true } : Streams ρ).serve
        (engine.evaluate source s.memory)).Ends [] ((exports, memory), after) := by
      rw [hServe]
      exact .refl _
    obtain ⟨calls, hEvaluate, hServed⟩ := Streams.ends_serve.1 hEnds
    exact ⟨calls, exports, memory, after, hEvaluate, hServed, startIn_of_served hOpened hLoad hServe⟩

/-- So does an import. -/
theorem importsTo_of_ends {engine : Engine μ ρ} {s : Session μ ρ} (hOpened : s.state = .opened)
    {tree : FileTree} {path : Path} {exchange : UiExchange}
    {ended : Except BridgeError Unit × Session μ ρ}
    (h : (s.startIn engine tree path).Ends exchange ended) : s.ImportsTo engine path ended := by
  cases hLoad : ((loadModule (m := StateM FileTree) path).run.run tree).1 with
  | error e =>
    rw [startIn_eq, hOpened, hLoad] at h
    exact .unloaded e (ends_done.1 h).2
  | ok loaded =>
    obtain ⟨calls, exports, memory, after, hEvaluate, hServed, hStart⟩ :=
      startIn_of_load engine hOpened hLoad
    rw [hStart] at h
    exact .evaluated loaded.1 loaded.2 calls exports memory after hEvaluate hServed (ends_done.1 h).2

/-- An import asks for no window, so it is over at once. -/
theorem startIn_done (s : Session μ ρ) (engine : Engine μ ρ) (tree : FileTree) (path : Path) :
    ∃ result next, s.startIn engine tree path = .done (result, next) := by
  cases hState : s.state with
  | opened =>
    cases hLoad : ((loadModule (m := StateM FileTree) path).run.run tree).1 with
    | error e => exact ⟨_, _, by rw [startIn_eq, hState, hLoad]⟩
    | ok loaded =>
      obtain ⟨calls, exports, memory, after, -, -, hStart⟩ :=
        startIn_of_load engine hState hLoad
      exact ⟨_, _, hStart⟩
  | ready => exact ⟨_, _, by rw [startIn_eq, hState]⟩
  | broken reason => exact ⟨_, _, by rw [startIn_eq, hState]⟩
  | faulted reason => exact ⟨_, _, by rw [startIn_eq, hState]⟩

/-! ## Between calls -/

/-- Nothing is left in the streams of a session but its registry. -/
def Settled (s : Session μ ρ) : Prop :=
  s.streams = { registry := s.streams.registry }

/-- A settled session whose errors are cleared has only its registry. -/
theorem Settled.cleared_streams {s : Session μ ρ} (h : s.Settled) :
    s.cleared.streams = { registry := s.streams.registry } := by
  show { s.streams with errors := [] } = _
  rw [h]

/-- A session is settled after an import in which no window was touched off the UI thread. -/
theorem settled_afterImport (s : Session μ ρ) (path : Path) (d : ModuleDescriptor)
    (exports : Except CommandError (List (String × Exported ρ))) (memory : μ) {after : Streams ρ}
    (h : after.violation = none) : (s.afterImport path d exports memory after).2.Settled := by
  unfold afterImport Settled
  simp only [h]
  split <;> rfl

/-- It is settled after every command, since a command imports nothing. -/
theorem settled_conclude (s : Session μ ρ) (c : PendingCommand) (execution : Execution) (memory : μ)
    {after : Streams ρ} (h : after.importing = false) :
    (s.conclude c execution memory after).2.Settled := by
  unfold conclude Settled
  simp only [h]
  split
  · rfl
  · split <;> rfl

/-- Imports keep a session settled. -/
theorem Settled.imports {engine : Engine μ ρ} {s next : Session μ ρ} {path : Path}
    {result : Except BridgeError Unit} (h : s.Settled)
    (hImports : s.ImportsTo engine path (result, next)) : next.Settled := by
  cases hImports with
  | unloaded e hEnded =>
    obtain ⟨-, rfl⟩ := Prod.mk.inj hEnded
    exact h
  | evaluated d source calls exports memory after hEvaluate hServed hEnded =>
    -- windows are not touched while a module is imported
    have hViolation : after.violation = none := by
      rw [(hServed.of_importing rfl).2, h]
    have hSettled := s.settled_afterImport path d exports memory hViolation
    rwa [← hEnded] at hSettled

/-- So do commands. -/
theorem Settled.runs {engine : Engine μ ρ} {s next : Session μ ρ} {c : PendingCommand}
    {exchange : UiExchange} {result : Except BridgeError Outcome} (h : s.Settled)
    (hRuns : s.RunsTo engine c exchange (result, next)) : next.Settled := by
  obtain ⟨execution, memory, calls, after, hEnded, hServed, -⟩ := hRuns.concluded
  -- errors and violation are taken out in the end, and nothing is imported meanwhile
  have hDone : after.importing = false := by
    rw [hServed.importing, h.cleared_streams]
  have hSettled := s.cleared.settled_conclude c execution memory hDone
  rwa [← hEnded] at hSettled

end Session

/-! ## Calls -/

/-- The command that a call runs, if it runs one. -/
def SessionCall.command? (s : Session μ ρ) : SessionCall → Option PendingCommand
  | .invoke name parameters => some ⟨name, parameters⟩
  | .invokeCommand c => some c
  | .invokePending => s.pending
  | .start .. | .addCommand _ | .addParameter .. | .clear => none

/-- What a call comes to, by what it makes the engine do: nothing, evaluate a module, or run a
command. -/
inductive SessionCall.ComesTo (engine : Engine μ ρ) (s : Session μ ρ) (call : SessionCall)
    (exchange : UiExchange) (answer : SessionAnswer) (next : Session μ ρ) : Prop
  | idle (pending : Option PendingCommand) (hNext : next = { s with pending := pending })
      (hAnswer : ∀ outcome, answer ≠ .invoked (.ok outcome))
  | imports (tree : FileTree) (path : Path) (result : Except BridgeError Unit)
      (hOpened : s.state = .opened) (hAnswer : answer = .started result)
      (hEnds : (s.startIn engine tree path).Ends exchange (result, next))
  | runs (c : PendingCommand) (result : Except BridgeError Outcome) (hReady : s.state = .ready)
      (hCommand : call.command? s = some c) (hAnswer : answer = .invoked result)
      (hRuns : s.RunsTo engine c exchange (result, next))

namespace SessionCall

/-- However a command is given to a session, it is run in the same way. -/
theorem run_of_command {s : Session μ ρ} {call : SessionCall} {c : PendingCommand}
    (h : call.command? s = some c) (engine : Engine μ ρ) :
    call.run engine s = (s.invokeCommand engine c).bind fun r => .done (.invoked r.1, r.2) := by
  cases call with
  | invoke name parameters =>
    obtain rfl := Option.some.inj h
    rfl
  | invokeCommand c =>
    obtain rfl := Option.some.inj h
    rfl
  | invokePending => rw [run, Session.invokePending_of_pending h]
  | _ => contradiction

/-- A session that is ready runs the command. -/
theorem runsTo_of_ready {engine : Engine μ ρ} {s next : Session μ ρ} {call : SessionCall}
    {c : PendingCommand} {exchange : UiExchange} {answer : SessionAnswer} (hReady : s.state = .ready)
    (hCommand : call.command? s = some c) (h : (call.run engine s).Ends exchange (answer, next)) :
    ∃ result, answer = .invoked result ∧ s.RunsTo engine c exchange (result, next) := by
  rw [run_of_command hCommand, Session.invokeCommand, Session.unavailable?, hReady] at h
  obtain ⟨result, hEnds, rfl⟩ := ends_bind_done_mk.1 h
  exact ⟨result, rfl, Session.runsTo_of_ends hEnds⟩

/-- A command is run if the session is ready, and else only forgotten. -/
theorem comesTo_of_command {engine : Engine μ ρ} {s next : Session μ ρ} {call : SessionCall}
    {c : PendingCommand} {exchange : UiExchange} {answer : SessionAnswer}
    (hCommand : call.command? s = some c)
    (h : (call.run engine s).Ends exchange (answer, next)) :
    call.ComesTo engine s exchange answer next := by
  cases hReason : s.unavailable? with
  | some e =>
    rw [run_of_command hCommand, Session.invokeCommand_of_not_ready hReason] at h
    obtain ⟨-, rfl, rfl⟩ := ends_done_mk.1 h
    exact .idle none rfl (by simp)
  | none =>
    have hReady := Session.ready_of_available hReason
    obtain ⟨result, rfl, hRuns⟩ := runsTo_of_ready hReady hCommand h
    exact .runs c result hReady hCommand rfl hRuns

/-- **What a call comes to**, by what it makes the engine do. -/
theorem comesTo_of_ends {engine : Engine μ ρ} {s next : Session μ ρ} {call : SessionCall}
    {exchange : UiExchange} {answer : SessionAnswer}
    (h : (call.run engine s).Ends exchange (answer, next)) :
    call.ComesTo engine s exchange answer next := by
  -- one case for each call: the import, the three ways to run a command, and what only edits
  cases call with
  | start tree path =>
    obtain ⟨result, hEnds, rfl⟩ := ends_bind_done_mk.1 h
    cases hState : s.state with
    | opened => exact .imports tree path result hState rfl hEnds
    | _ =>
      rw [Session.startIn_eq, hState] at hEnds
      obtain ⟨-, -, rfl⟩ := ends_done_mk.1 hEnds
      exact .idle next.pending rfl (by simp)
  | invoke name parameters => exact comesTo_of_command rfl h
  | invokeCommand c => exact comesTo_of_command rfl h
  | addCommand name =>
    obtain ⟨-, rfl, rfl⟩ := ends_done_mk.1 h
    exact .idle _ rfl (by simp)
  | addParameter name value =>
    rw [run, Session.addParameter] at h
    cases hPending : s.pending with
    | none =>
      rw [hPending] at h
      obtain ⟨-, rfl, rfl⟩ := ends_done_mk.1 h
      exact .idle next.pending rfl (by simp)
    | some c =>
      rw [hPending] at h
      obtain ⟨-, rfl, rfl⟩ := ends_done_mk.1 h
      exact .idle _ rfl (by simp)
  | invokePending =>
    cases hPending : s.pending with
    | none =>
      rw [run, Session.invokePending, hPending] at h
      obtain ⟨-, rfl, rfl⟩ := ends_done_mk.1 h
      exact .idle next.pending rfl (by simp)
    | some c => exact comesTo_of_command hPending h
  | clear =>
    obtain ⟨-, rfl, rfl⟩ := ends_done_mk.1 h
    exact .idle none rfl (by simp)

/-- A call that leaves a session opened leaves it as it was, but for what is staged. -/
theorem ComesTo.of_opened {engine : Engine μ ρ} {s next : Session μ ρ} {call : SessionCall}
    {exchange : UiExchange} {answer : SessionAnswer}
    (h : call.ComesTo engine s exchange answer next) (hOpened : next.state = .opened) :
    ∃ pending, next = { s with pending := pending } := by
  cases h with
  | idle pending hNext => exact ⟨pending, hNext⟩
  | imports tree path result hState hAnswer hEnds =>
    cases Session.importsTo_of_ends hState hEnds with
    | unloaded e hEnded =>
      obtain ⟨-, rfl⟩ := Prod.mk.inj hEnded
      simp [Session.breakWith] at hOpened
    | evaluated d source calls exports memory after hEvaluate hServed hEnded =>
      rcases s.afterImport_cases path d exports memory after hEnded.symm with
        ⟨-, hReady⟩ | ⟨e, -, hBroken, -⟩
      · simp [hReady] at hOpened
      · simp [hBroken] at hOpened
  | runs c result hReady hCommand hAnswer hRuns =>
    obtain ⟨execution, memory, calls, after, hEnded, -⟩ := hRuns.concluded
    have hCases := (s.cleared.conclude_cases c execution memory after).1
    rw [← hEnded, hOpened, show s.cleared.state = .ready from hReady] at hCases
    simp at hCases

/-- Once it was opened, a session keeps its commands. -/
theorem ComesTo.kept {engine : Engine μ ρ} {s next : Session μ ρ} {call : SessionCall}
    {exchange : UiExchange} {answer : SessionAnswer}
    (h : call.ComesTo engine s exchange answer next) (hState : s.state ≠ .opened) :
    next.commands = s.commands ∧ (next.state = s.state ∨
      s.state = .ready ∧ ∃ reason, next.state = .faulted reason) := by
  cases h with
  | idle pending hNext =>
    rw [hNext]
    exact ⟨rfl, .inl rfl⟩
  | imports tree path result hOpened => exact absurd hOpened hState
  | runs c result hReady hCommand hAnswer hRuns =>
    obtain ⟨execution, memory, calls, after, hEnded, -⟩ := hRuns.concluded
    have hCases := s.cleared.conclude_cases c execution memory after
    rw [← hEnded] at hCases
    exact ⟨hCases.2, hCases.1.imp_right fun hFaulted => ⟨hReady, hFaulted⟩⟩

end SessionCall

/-! ## Runs -/

/-- A run up to one of its calls, and that call. -/
theorem Runs.at_call {engine : Engine μ ρ} {first s : Session μ ρ}
    {earlier later : List SessionEntry} {e : SessionEntry}
    (h : Runs engine first (earlier ++ e :: later) s) :
    ∃ t next, Runs engine first earlier t ∧
      (e.call.run engine t).Ends e.exchange (e.answer, next) := by
  generalize hEntries : earlier ++ e :: later = entries at h
  -- the calls after this one are taken off from the end
  induction h generalizing later with
  | nil => simp at hEntries
  | @snoc before t next last h hEnds ih =>
    rcases later.eq_nil_or_concat with rfl | ⟨rest, final, rfl⟩
    · obtain ⟨rfl, hLast⟩ := List.append_inj' hEntries rfl
      obtain rfl := List.singleton_inj.1 hLast
      exact ⟨t, next, h, hEnds⟩
    · rw [List.concat_eq_append, ← List.cons_append, ← List.append_assoc] at hEntries
      exact ih (List.append_inj' hEntries rfl).1

/-- **Nothing of one call reaches the next** through the streams: between calls they hold the
registry and no more. -/
theorem Runs.settled {engine : Engine μ ρ} {first s : Session μ ρ} {entries : List SessionEntry}
    (h : Runs engine first entries s) (hFirst : first.Settled) : s.Settled := by
  -- along the run; a call either leaves the streams alone, or imports, or runs a command
  induction h with
  | nil => exact hFirst
  | @snoc entries s next e h hEnds ih =>
    cases SessionCall.comesTo_of_ends hEnds with
    | idle pending hNext => rw [hNext]; exact ih
    | imports tree path result hOpened hAnswer hEnds => exact ih.imports (Session.importsTo_of_ends hOpened hEnds)
    | runs c result hReady hCommand hAnswer hRuns => exact ih.runs hRuns

/-- Until it imports a module, a session has evaluated nothing. -/
theorem Runs.unopened {engine : Engine μ ρ} {s : Session μ ρ} {entries : List SessionEntry}
    (h : Runs engine (.fresh engine) entries s) (hOpened : s.state = .opened) :
    s.streams = {} ∧ s.memory = engine.memory := by
  -- a session is opened after a call only if it was before
  induction h with
  | nil => exact ⟨rfl, rfl⟩
  | @snoc entries s next e h hEnds ih =>
    obtain ⟨pending, rfl⟩ := (SessionCall.comesTo_of_ends hEnds).of_opened hOpened
    exact ih hOpened

end ScriptWindows
