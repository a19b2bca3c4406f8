import ScriptWindows.Proofs.Bridge.Commands
import ScriptWindows.Proofs.Bridge.Reports
import ScriptWindows.Proofs.Bridge.StrayTasks
import ScriptWindows.Proofs.Script.Crossing
import ScriptWindows.Proofs.Script.HostTexts

/-!
# Imports leave the UI alone

While a module is imported its script hears of a refusal for each window that it wants, and neither
the dispatcher nor the shell hears of the script. The script may catch the refusals, report them and
go on. When the import is over, nothing but the registry is left in what script and host share, so
every invocation is served for what its own script does.

Main results:

* `Streams.Served.windows_of_importing`, `Streams.Served.windows_of_passing`: what a script is told of
  the windows that it wants, during the import and after it.
* `Session.ownDoing_of_runsTo`: an invocation comes to what its own script does.
* `imports_leave_ui_alone`: every import, and all invocations after it.
* `Script.startIn_escaping`, `Script.startIn_catching`: a module that lets a refusal escape, and one
  that catches any number of them.
-/

namespace ScriptWindows

open Dialogue

variable {μ ρ : Type}

/-! ## Windows that a script wants -/

def HostCall.window? : HostCall ρ → Option WindowRequest
  | .createWindow request => some request
  | .writeError _ | .editRegistry _ => none

/-- The windows that a script wanted, each with what it was told. -/
def windowsOf (calls : HostExchange ρ) : List (WindowRequest × HostReply) :=
  calls.filterMap fun call => call.1.window?.map fun request => (request, call.2)

/-- What a script is told of an answer of the UI. -/
def toldOf : UiReply → HostReply
  | .ok (.ok ()) => .ok ()
  | .ok (.error reason) => .error ("window creation failed: " ++ reason)
  | .error e => .error e.message

namespace Streams

theorem afterWindow_told (s : Streams ρ) (reply : UiReply) :
    (s.afterWindow reply).1 = toldOf reply := by
  unfold afterWindow toldOf
  split
  · rfl
  · rfl
  · rfl
  · rfl

namespace Served

variable {s after : Streams ρ} {calls : HostExchange ρ} {exchange : UiExchange}

/-- **While a module is imported** every window that its script wants is refused. -/
theorem windows_of_importing (h : s.Served calls exchange after) (hImporting : s.importing = true) :
    ∀ asked ∈ windowsOf calls, asked.2 = .error importingMessage := by
  induction h with
  | done s => simp [windowsOf]
  | writeError message h ih => exact ih hImporting
  | editRegistry edit h ih => exact ih hImporting
  | refused request _ h ih =>
    intro asked hIn
    rcases List.mem_cons.1 hIn with rfl | hLater
    · rfl
    · exact ih hImporting asked hLater
  | passed request reply hPassing => simp [hImporting] at hPassing

/-- **At any other time** the windows that a script wants are those that the UI is asked for, and the
script is told what the UI answers. -/
theorem windows_of_passing (h : s.Served calls exchange after) (hPassing : s.importing = false) :
    windowsOf calls = exchange.map fun asked => (asked.1, toldOf asked.2) := by
  induction h with
  | done s => rfl
  | writeError message h ih => exact ih hPassing
  | editRegistry edit h ih => exact ih hPassing
  | refused request hImporting => simp [hPassing] at hImporting
  | @passed s after calls exchange request reply _ h ih =>
    have hRest := ih ((s.afterWindow_importing reply).trans hPassing)
    rw [List.map_cons, ← hRest, ← s.afterWindow_told]
    rfl

end Served

end Streams

/-! ## Invocations -/

/-- An invocation comes to what its own script does: the UI is asked for the windows that the script
wants, the errors of an outcome are those that it reported or ended in, and a touch off the UI
thread is one of its own. -/
structure Session.OwnDoing (engine : Engine μ ρ) (s : Session μ ρ) (c : PendingCommand)
    (exchange : UiExchange) (result : Except BridgeError Outcome) : Prop where
  windows (routine : ρ) (hFind : s.streams.registry.find c.name = .ok (some routine)) :
    ∃ calls ended memory, (engine.call routine c.parameters s.memory).Ends calls (ended, memory) ∧
      windowsOf calls = exchange.map fun asked => (asked.1, toldOf asked.2)
  silent (hNone : ∀ routine, s.streams.registry.find c.name ≠ .ok (some routine)) : exchange = []
  reports (outcome : Outcome) (hOutcome : result = .ok outcome) :
    s.Reported engine c exchange outcome
  crossing (operation : String) (hCrossed : result = .error (.crossThread operation)) :
    (crossingsOf exchange).head? = some operation

/-- **An invocation comes to what its own script does**, as nothing is left from before it. -/
theorem Session.ownDoing_of_runsTo {engine : Engine μ ρ} {s next : Session μ ρ} {c : PendingCommand}
    {exchange : UiExchange} {result : Except BridgeError Outcome} (hSettled : s.Settled)
    (h : s.RunsTo engine c exchange (result, next)) : s.OwnDoing engine c exchange result where
  windows := by
    intro routine hFind
    cases h with
    | unsearchable kind hReplaced => simp [hReplaced, Registry.find] at hFind
    | unknown hNone => simp [hNone] at hFind
    | called found calls ended memory after hFound hCall hServed =>
      obtain rfl : found = routine := by simpa [hFound] using hFind
      -- a window that is asked for by a command is asked of the UI at once
      have hPassing : s.cleared.streams.importing = false := by rw [hSettled.cleared_streams]
      exact ⟨calls, ended, memory, hCall, hServed.windows_of_passing hPassing⟩
  silent := by
    intro hNone
    cases h with
    | unsearchable kind hReplaced hExchange => exact hExchange
    | unknown hFind hExchange => exact hExchange
    | called found calls ended memory after hFound => exact absurd hFound (hNone found)
  reports := by
    rintro outcome rfl
    exact reported_of_runsTo h
  crossing := by
    rintro operation rfl
    obtain ⟨hCrossed, hClean⟩ := h.crossed hSettled
    cases hCrossings : crossingsOf exchange with
    | nil => exact absurd rfl ((hClean hCrossings).1 operation)
    | cons first rest =>
      obtain ⟨hResult, -⟩ := hCrossed first rest hCrossings
      cases hResult
      rfl

/-! ## Every import -/

/-- **Imports leave the UI alone.** In every session that calls can lead to, an import is over at
once: whatever the dispatcher, no task is posted and the shell is not called. If a module is
evaluated, each window that its script wants is refused; if the evaluation ends in an error, as by a
refusal that was not caught, the import fails with it; and if it does not, the import depends on what
is given out alone. Nothing is left of the import but the registry, so every command that is run
later comes to what its own script does. -/
theorem imports_leave_ui_alone (engine : Engine μ ρ) {entries : List SessionEntry} {s : Session μ ρ}
    (hRun : Runs engine (.fresh engine) entries s) (tree : FileTree) (path : Path) :
    ∃ result next, s.startIn engine tree path = .done (result, next) ∧
      (∀ d shell caller desk,
        ((SessionCall.start tree path).atDesk engine d shell caller s).run desk =
          ((.started result, next), desk)) ∧
      (s.state = .opened → ∀ m source,
        ((loadModule (m := StateM FileTree) path).run.run tree).1 = .ok (m, source) →
        ∃ calls exports memory,
          (engine.evaluate source engine.memory).Ends calls (exports, memory) ∧
          (∀ asked ∈ windowsOf calls, asked.2 = .error Streams.importingMessage) ∧
          (∀ error, exports = .error error →
            result = .error (.importFailure path error.message)) ∧
          (∀ given, exports = .ok given → LeavesRegistry calls →
            (result = .ok () ↔ Readable given ∧
              ∀ c ∈ m.commands, ∃ routine, (c, .routine routine) ∈ given))) ∧
      next.streams = { registry := next.streams.registry } ∧
      ∀ later t, Runs engine next later t → t.state = .ready →
        ∀ (call : SessionCall) c exchange answer after, call.command? t = some c →
          (call.run engine t).Ends exchange (answer, after) →
          ∃ result, answer = .invoked result ∧ t.OwnDoing engine c exchange result := by
  obtain ⟨result, next, hStart⟩ := s.startIn_done engine tree path
  have hAnswered : (SessionCall.start tree path).run engine s = .done (.started result, next) := by
    rw [SessionCall.run, hStart]
    rfl
  have hEnds : ((SessionCall.start tree path).run engine s).Ends [] (.started result, next) := by
    rw [hAnswered]
    exact .refl _
  have hSettled : next.Settled :=
    (hRun.snoc (e := ⟨.start tree path, [], .started result⟩) hEnds).settled rfl
  refine ⟨result, next, hStart, ?_, ?_, hSettled, ?_⟩
  · intro d shell caller desk
    rw [SessionCall.atDesk, hAnswered]
    rfl
  · intro hOpened m source hLoad
    obtain ⟨hStreams, hMemory⟩ := hRun.unopened hOpened
    obtain ⟨calls, exports, memory, after, hEvaluate, hServed, hDone⟩ :=
      Session.startIn_of_load engine hOpened hLoad
    have hAfter : s.afterImport path m exports memory after = (result, next) := by
      rw [hStart] at hDone
      exact (Dialogue.done.inj hDone).symm
    refine ⟨calls, exports, memory, hMemory ▸ hEvaluate, hServed.windows_of_importing rfl, ?_, ?_⟩
    · rintro error rfl
      exact (Prod.mk.inj hAfter).1.symm
    · rintro given rfl hLeaves
      have hRegistry : after.registry = .empty := by
        rw [hServed.registry hLeaves, hStreams]
      rw [(s.afterImport_of_exports path m given memory hRegistry hAfter).1]
      -- a command that is declared is allowed
      refine and_congr_right fun _ => forall₂_congr fun c hDeclared => ?_
      rw [mem_commandNames, and_iff_left (ModuleDescriptor.allows_of_mem hDeclared)]
  · intro later t hLater hReady call c exchange answer last hCommand hEnds
    obtain ⟨result, rfl, hRuns⟩ := SessionCall.runsTo_of_ready hReady hCommand hEnds
    exact ⟨result, rfl, Session.ownDoing_of_runsTo (hLater.settled hSettled) hRuns⟩

/-! ## Modules that want windows while they are imported -/

namespace Script

/-- Ask for a window. -/
def wanting (request : WindowRequest) : Statement :=
  .createWindow [textExpr request.title, textExpr request.message]

/-- Ask for a window, and report it if that is refused. -/
def catching (request : WindowRequest) : List Statement := [.attempt [wanting request]]

/-- What is reported of a refusal that was caught. -/
def caughtRefusal : CommandError := ⟨"caught: " ++ Streams.importingMessage, false⟩

theorem run_wanting (scope : Scope) (request : WindowRequest) :
    Statement.run scope (wanting request) =
      (do Run.ask (.createWindow request); return .next) := by
  simp only [wanting, Statement.run, Expr.evalAll, textExpr, Expr.eval, pure_bind,
    openWindow_ofString]

theorem runAll_singleton (scope : Scope) (statement : Statement) :
    Statement.runAll scope [statement] = Statement.run scope statement := by
  rw [Statement.runAll]
  refine (bind_congr fun flow => ?_).trans (bind_pure _)
  cases flow <;> rfl

theorem run_catching (scope : Scope) (request : WindowRequest) (memory : Memory) :
    (Statement.runAll scope (catching request)).run.run memory =
      .ask (.createWindow request) fun reply =>
        match reply with
        | .ok () => .done (.ok .next, memory)
        | .error message => .ask (.writeError ("caught: " ++ message)) fun noted =>
          match noted with
          | .ok () => .done (.ok .next, memory)
          | .error reason => .done (.error (.failure reason), memory) := by
  simp only [catching, runAll_singleton, Statement.run, run_wanting]
  show Dialogue.ask _ _ = _
  congr 1
  funext reply
  cases reply with
  | ok done => rfl
  | error message =>
    -- what is thrown is the error of the host, and its text is known
    show (do reportCaught (.failure message); return Flow.next : Run Flow).run.run memory = _
    rw [reportCaught_failure]
    show Dialogue.ask _ _ = _
    congr 1
    funext noted
    cases noted <;> rfl

theorem run_iterate_succ (act : Run Flow) (times : Nat) (memory : Memory) :
    (iterate act (times + 1)).run.run memory = (act.run.run memory).bind fun r =>
      match r with
      | (.ok .next, after) => (iterate act times).run.run after
      | (.ok (.returned v), after) => .done (.ok (.returned v), after)
      | (.error v, after) => .done (.error v, after) := by
  show Dialogue.bind _ _ = _
  congr 1
  funext r
  obtain ⟨result, after⟩ := r
  cases result with
  | error v => rfl
  | ok flow => cases flow <;> rfl

section Serving

variable {s after : Streams Routine} (hImporting : s.importing = true) (scope : Scope)
  (request : WindowRequest) (memory : Memory)

include hImporting

/-- A refusal that is not caught is what the statements end in, whatever comes after it. -/
theorem serve_escaping (rest : List Statement) :
    s.serve ((Statement.runAll scope (wanting request :: rest)).run.run memory) =
      .done ((.error (.failure Streams.importingMessage), memory), s) := by
  have hRun : (Statement.runAll scope (wanting request :: rest)).run.run memory =
      .ask (.createWindow request) fun reply =>
        match reply with
        | .ok () => (Statement.runAll scope rest).run.run memory
        | .error message => .done (.error (.failure message), memory) := by
    rw [Statement.runAll, run_wanting]
    show Dialogue.ask _ _ = _
    congr 1
    funext reply
    cases reply <;> rfl
  rw [hRun, Streams.serve, if_pos hImporting]
  rfl

/-- **Refusals that are caught** leave a report each, however many there are. -/
theorem serve_catching (times : Nat) :
    s.serve ((iterate (Statement.runAll scope (catching request)) times).run.run memory) =
      .done ((.ok .next, memory),
        { s with errors := s.errors ++ List.replicate times caughtRefusal }) := by
  induction times generalizing s with
  | zero =>
    rw [iterate_zero, List.replicate_zero, List.append_nil]
    rfl
  | succ times ih =>
    have hFirst : s.serve ((Statement.runAll scope (catching request)).run.run memory) =
        .done ((.ok .next, memory), { s with errors := s.errors ++ [caughtRefusal] }) := by
      rw [run_catching, Streams.serve, if_pos hImporting]
      rfl
    rw [run_iterate_succ, Streams.serve_bind, hFirst]
    show Streams.serve _ _ = _
    rw [@ih { s with errors := s.errors ++ [caughtRefusal] } hImporting, List.replicate_succ,
      List.append_assoc]
    rfl

end Serving

/-- What a module gives out once its statements have run. -/
def ExportSpec.given : ExportSpec → Run (List (String × Exported Routine))
  | .fields entries => do return listed (← evaluateExports entries)
  | .other v => throw (.string (.ofString (Registry.wrongKind v.kind "object")))

/-- A module is evaluated by running its statements, and then reading what it gives out. -/
theorem evaluate_script {catalog : String → Program} {source : String} {top : List Statement}
    {spec : ExportSpec} (hProgram : catalog source = .script top spec) (memory : Memory) :
    (interpreter catalog).evaluate source memory =
      ((Statement.runAll none top).run.run memory).bind fun r =>
        match r with
        | (.ok .next, after) => spec.given.conclude after
        | (.ok (.returned _), after) => .done (.ok [], after)
        | (.error v, after) => .done (.error v.thrown, after) := by
  rw [interpreter]
  simp only [hProgram, Program.exports]
  rw [Run.conclude]
  show Dialogue.bind (Dialogue.bind _ _) _ = _
  rw [Dialogue.bind_assoc]
  congr 1
  funext r
  obtain ⟨result, after⟩ := r
  cases result with
  | error v => rfl
  | ok flow =>
    cases flow with
    | returned v => rfl
    | next => cases spec <;> rfl

theorem evaluateExports_routines (bodies : List (String × List Statement)) :
    evaluateExports (bodies.map (Prod.map id .routine)) =
      pure (bodies.map (Prod.map id fun body => .routine ⟨body⟩)) := by
  induction bodies with
  | nil => rfl
  | cons entry rest ih =>
    rw [List.map_cons, Prod.map_apply, evaluateExports, ih, exported_routine]
    rfl

/-- The functions of a module, as an object lists them. -/
def routinesOf (bodies : List (String × List Statement)) : List (String × Exported Routine) :=
  listed (bodies.map (Prod.map id fun body => .routine ⟨body⟩))

theorem mem_routinesOf {bodies : List (String × List Statement)} (h : (bodies.map Prod.fst).Nodup)
    {entry : String × Exported Routine} :
    entry ∈ routinesOf bodies ↔ ∃ body ∈ bodies, (body.1, .routine ⟨body.2⟩) = entry := by
  rw [routinesOf, listed_map, ((listed_perm h).map _).mem_iff, List.mem_map]
  rfl

section Starting

variable {catalog : String → Program} {s : Session Memory Routine} {tree : FileTree} {path : Path}
  {d : ModuleDescriptor} {source : String} (hOpened : s.state = .opened)
  (hLoad : ((loadModule (m := StateM FileTree) path).run.run tree).1 = .ok (d, source))
  (request : WindowRequest)

include hOpened hLoad

/-- **A module that lets a refusal escape** is not imported, and the refusal is the reason. -/
theorem startIn_escaping (rest : List Statement) (spec : ExportSpec)
    (hProgram : catalog source = .script (wanting request :: rest) spec) :
    ∃ next, s.startIn (interpreter catalog) tree path =
      .done (.error (.importFailure path Streams.importingMessage), next) := by
  have hServe : ({ s.streams with importing := true } : Streams Routine).serve
      ((interpreter catalog).evaluate source s.memory) =
        .done ((.error ⟨Streams.importingMessage, true⟩, s.memory),
          { s.streams with importing := true }) := by
    rw [evaluate_script hProgram, Streams.serve_bind, serve_escaping rfl, ← thrown_failure]
    rfl
  exact ⟨_, Session.startIn_of_served hOpened hLoad hServe⟩

/-- **A module that catches them all** is imported, however many there are. -/
theorem startIn_catching (hStreams : s.streams = {}) (times : Nat)
    {bodies : List (String × List Statement)} (hNames : (bodies.map Prod.fst).Nodup)
    (hDeclared : ∀ c ∈ d.commands, c ∈ bodies.map Prod.fst)
    (hProgram : catalog source = .script [.repeated times (catching request)]
      (.fields (bodies.map (Prod.map id .routine)))) :
    ∃ next, s.startIn (interpreter catalog) tree path = .done (.ok (), next) := by
  let after : Streams Routine :=
    { importing := true, errors := List.replicate times caughtRefusal }
  have hServe : ({ s.streams with importing := true } : Streams Routine).serve
      ((interpreter catalog).evaluate source s.memory) =
        .done ((.ok (routinesOf bodies), s.memory), after) := by
    rw [evaluate_script hProgram, runAll_singleton, Statement.run, Streams.serve_bind,
      serve_catching rfl, hStreams]
    simp only [Dialogue.bind, ExportSpec.given, evaluateExports_routines, pure_bind]
    rfl
  have hStart := Session.startIn_of_served hOpened hLoad hServe
  generalize hAfter : s.afterImport path d (.ok (routinesOf bodies)) s.memory after = ended at hStart
  obtain ⟨result, next⟩ := ended
  -- what is given out are functions, and all that is declared is among them
  obtain ⟨hResult, -⟩ := s.afterImport_of_exports path d _ s.memory rfl hAfter
  obtain rfl : result = .ok () := by
    refine hResult.2 ⟨?_, ?_⟩
    · intro entry hIn error
      obtain ⟨body, -, rfl⟩ := (mem_routinesOf hNames).1 hIn
      simp
    · intro c hDeclares
      obtain ⟨body, hIn, rfl⟩ := List.mem_map.1 (hDeclared c hDeclares)
      rw [mem_commandNames]
      exact ⟨⟨_, (mem_routinesOf hNames).2 ⟨body, hIn, rfl⟩⟩,
        ModuleDescriptor.allows_of_mem hDeclares⟩
  exact ⟨next, hStart⟩

end Starting

end Script

/-! ## A module that catches refusals -/

section Catching

open Script

/-- The script of a module that wants a window twice too soon, and whose command wants another
one. -/
def catchingScript : String :=
  "for (let i = 0; i < 2; i++) \x7b\n" ++
    "    try \x7b host.createWindow(\"early\", \"too soon\"); \x7d catch (e) \x7b\x7d\n\x7d\n" ++
    "exports.Open = () => host.createWindow(\"late\", \"in time\");\n"

/-- What the script comes to. -/
def catchingProgram : Program :=
  .script [.repeated 2 (catching ⟨"early", "too soon"⟩)]
    (.fields [("Open", .routine [wanting ⟨"late", "in time"⟩])])

/-- The engine that knows this script. -/
def catchingEngine : Engine Memory Routine := interpreter (knowing catchingScript catchingProgram)

/-- The window that the command wants is made. -/
def lateExchange : UiExchange := [(⟨"late", "in time"⟩, .ok (.ok ()))]

/-- The first invocation asks for its window, and reports nothing of the import. -/
theorem imports_leave_ui_alone_catching :
    ∃ next, (∀ d shell caller desk,
        ((SessionCall.start (moduleTree catchingScript) ⟨"touch"⟩).atDesk catchingEngine d shell caller
          (.fresh catchingEngine)).run desk = ((.started (.ok ()), next), desk)) ∧
      next.state = .ready ∧ next.streams.errors = [] ∧
      next.OwnDoing catchingEngine ⟨"Open", []⟩ lateExchange (.ok ⟨[], false, []⟩) := by
  obtain ⟨result, next, hStart, hDesk, -, hStreams, hLater⟩ :=
    imports_leave_ui_alone catchingEngine .nil (moduleTree catchingScript) ⟨"touch"⟩
  have hImported : (Session.fresh catchingEngine).startIn catchingEngine
      (moduleTree catchingScript) ⟨"touch"⟩ = .done (.ok (), oneCommandSession "Open"
        (.table [("Open", ⟨[wanting ⟨"late", "in time"⟩]⟩)] true)) := by
    rw [startIn_moduleTree, Session.importModule, catchingEngine, evaluate_knowing]
    rfl
  rw [hStart] at hImported
  obtain ⟨rfl, rfl⟩ := Prod.mk.inj (Dialogue.done.inj hImported)
  have hEnds : ((SessionCall.invoke "Open" []).run catchingEngine (oneCommandSession "Open"
      (.table [("Open", ⟨[wanting ⟨"late", "in time"⟩]⟩)] true))).Ends lateExchange
        (.invoked (.ok ⟨[], false, []⟩), oneCommandSession "Open"
          (.table [("Open", ⟨[wanting ⟨"late", "in time"⟩]⟩)] true)) :=
    .ask (.refl _)
  obtain ⟨result, hAnswer, hOwn⟩ := hLater [] _ .nil rfl _ ⟨"Open", []⟩ _ _ _ rfl hEnds
  cases hAnswer
  exact ⟨_, hDesk, rfl, rfl, hOwn⟩

end Catching

end ScriptWindows
