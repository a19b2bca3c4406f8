import ScriptWindows.Host.EventLoop
import ScriptWindows.Proofs.Bridge.Order
import ScriptWindows.Proofs.Files.Places
import ScriptWindows.Proofs.Files.Rejections
import ScriptWindows.Proofs.Script.HostTexts
import ScriptWindows.Proofs.Script.ReturnedParameters
import ScriptWindows.Script.Modules

/-!
# The module that comes with the host

The one command of this module asks for one window, with the title and the message it is given, and
then either returns what the window shows or throws what the shell said. It remembers nothing and
changes nothing, so every call of it finds the session that was imported.

Main results:

* `Script.value_newWindow`: what the function of the module does, whatever the title and message are.
* `start_bundled`: a host with this module starts.
* `invokeCommand_window`: what the command behind the button comes to.
-/

namespace ScriptWindows

namespace Script

/-! ## Texts that are written -/

/-- Strings that are written one behind the other are a string. -/
theorem exists_spelledAll (texts : List String) :
    ∃ line, spelledAll (texts.map fun s => Value.string (.ofString s)) = .ok (.ofString line) := by
  induction texts with
  | nil => exact ⟨"", rfl⟩
  | cons s rest ih =>
    obtain ⟨line, hRest⟩ := ih
    refine ⟨s ++ line, ?_⟩
    rw [List.map_cons, spelledAll, hRest]
    show Except.ok (ScriptText.ofString s ++ ScriptText.ofString line) = _
    simp [ScriptText.ofString]

/-! ## The function of the module -/

/-- Names that are no numbers and do not repeat are listed as they were written. -/
theorem listed_eq_self {α : Type} {fields : List (String × α)}
    (hNodup : (fields.map Prod.fst).Nodup) (hNames : ∀ name ∈ fields.map Prod.fst, indexOf? name = none) :
    listed fields = fields := by
  have hIndexed : ∀ field ∈ fields, indexOf? field.1 = none :=
    fun field hIn => hNames _ (List.mem_map_of_mem hIn)
  have hNone : indexed fields = [] := by
    rw [← List.map_eq_nil_iff (f := Prod.snd), List.eq_nil_iff_forall_not_mem]
    intro field hIn
    obtain ⟨hMem, hSome⟩ := mem_indexed.1 hIn
    simp [hIndexed field hMem] at hSome
  rw [listed, defined_of_nodup hNodup, hNone, List.map_nil, List.nil_append, List.filter_eq_self]
  intro field hIn
  rw [hIndexed field hIn]
  rfl

/-- What the window shows, as the script returns it. -/
def windowFields (request : WindowRequest) : List (String × Value) :=
  [("title", .string (.ofString request.title)), ("message", .string (.ofString request.message))]

theorem listed_windowFields (request : WindowRequest) :
    listed (windowFields request) = windowFields request := by
  refine listed_eq_self ?_ ?_
  · show ["title", "message"].Nodup
    decide
  · simp only [windowFields, List.map_cons, List.map_nil, List.forall_mem_cons]
    exact ⟨by decide, by decide, by simp⟩

/-- A string that was given is not replaced by another one, even if it is empty. -/
theorem eval_orElse_ofString {fields : List (String × Value)} {name given : String}
    (h : fieldOf fields name = .string (.ofString given)) (other : Expr) :
    Expr.eval (some fields) (.orElse (.param name) other) = pure (.string (.ofString given)) := by
  simp [Expr.eval, fieldsOf, h, Value.isNothing]

theorem runAll_newWindow {fields : List (String × Value)} {request : WindowRequest}
    (hTitle : fieldOf fields "Title" = .string (.ofString request.title))
    (hMessage : fieldOf fields "Message" = .string (.ofString request.message)) :
    Statement.runAll (some fields) newWindow =
      (do Run.ask (.createWindow request)
          return .returned (.record (windowFields request))) := by
  have hTitle := eval_orElse_ofString hTitle (textExpr "ScriptUI")
  have hMessage := eval_orElse_ofString hMessage (textExpr "")
  obtain ⟨line, hLine⟩ := exists_spelledAll ["created window '", request.title, "'"]
  simp only [List.map_cons, List.map_nil] at hLine
  rw [newWindow]
  -- the two parameters are read at several places, with the same value each time
  generalize Expr.orElse (.param "Title") (textExpr "ScriptUI") = e at hTitle ⊢
  generalize Expr.orElse (.param "Message") (textExpr "") = e' at hMessage ⊢
  simp only [Statement.runAll, Statement.run, Expr.evalAll, Expr.evalFields, Expr.eval, textExpr,
    hTitle, hMessage, hLine, pure_bind, bind_assoc, openWindow_ofString, Run.lift, log_ofString]
  rw [← windowFields, listed_windowFields]

/-- **What the function of the module does**: it asks for one window, and returns what the window
shows or throws what it is told. -/
theorem value_newWindow {fields : List (String × Value)} {request : WindowRequest}
    (hTitle : fieldOf fields "Title" = .string (.ofString request.title))
    (hMessage : fieldOf fields "Message" = .string (.ofString request.message)) (memory : Memory) :
    ((Routine.value ⟨newWindow⟩ fields).run.run memory) =
      .ask (.createWindow request) fun reply => .done (match reply with
        | .ok () => .ok (.record (windowFields request))
        | .error reason => .error (.failure reason), memory) := by
  rw [Routine.value, runAll_newWindow hTitle hMessage]
  show Dialogue.ask _ _ = _
  congr 1
  funext reply
  cases reply <;> rfl

/-- What the window shows, as it leaves the script. -/
theorem results_windowFields (request : WindowRequest) :
    (Value.record (windowFields request)).results = .ok [.object
      [("message", .string request.message), ("title", .string request.title)]] := by
  have hPiece : (Value.record (windowFields request)).piece "" maxAsked = .ok (.value (.object
      [("message", .string request.message), ("title", .string request.title)])) := by
    simp [windowFields, Value.piece, standIn, Value.fieldPieces, textPiece,
      ScriptText.toString?_ofString, Piece.ofFields]
    rfl
  show (do .ok [← (Value.record (windowFields request)).result]) = _
  rw [Value.result, hPiece]
  rfl

end Script

open Script Dialogue

/-! ## Importing the module -/

/-- The description of the module. -/
def bundledModule : ModuleDescriptor where
  name := "ScriptUi"
  version := some "0.1.0"
  rootModule := "ScriptUi.js"
  commands := [HostConfig.createWindowCommand]

/-- The description of the module as it is written. -/
def bundledText : String :=
  "\x7b\n  \"name\": \"ScriptUi\",\n  \"version\": \"0.1.0\",\n" ++
    "  \"root_module\": \"ScriptUi.js\",\n  \"commands\": [\"New-ScriptUiWindow\"]\n\x7d\n"

/-- The script of the module as it is written. -/
def bundledScript : String :=
  "// Commands exported by the ScriptUi module.\n\n" ++
    "function newWindow(params) \x7b\n" ++
    "    const title = params.Title ?? \"ScriptUI\";\n" ++
    "    const message = params.Message ?? \"\";\n\n" ++
    "    host.createWindow(title, message);\n" ++
    "    host.log(`created window '$\x7btitle\x7d'`);\n\n" ++
    "    return \x7b title: title, message: message \x7d;\n" ++
    "\x7d\n\n" ++
    "module.exports = \x7b\n" ++
    "    \"New-ScriptUiWindow\": newWindow,\n" ++
    "\x7d;\n"

/-- The description is read as what it describes. -/
theorem parse_bundledText : ModuleDescriptor.parse bundledText = .ok bundledModule := by cbv

/-- The module lies at a path of a tree: its description there, and its script beside it. -/
structure Bundles (catalog : String → Program) (tree : FileTree) (path : Path) : Prop where
  description : tree.readText path = .ok bundledText
  script : ∃ source, tree.readText (bundledModule.rootModulePath path) = .ok source ∧
    catalog source = bundled

/-- The session that has imported the module. -/
def bundledSession : Session Memory Routine where
  state := .ready
  commands := [HostConfig.createWindowCommand]
  streams := { registry := .table [(HostConfig.createWindowCommand, ⟨newWindow⟩)] true }
  memory := {}

theorem Bundles.loadModule {catalog : String → Program} {tree : FileTree} {path : Path}
    (h : Bundles catalog tree path) : ∃ source, catalog source = bundled ∧
      ((loadModule (m := StateM FileTree) path).run.run tree).1 = .ok (bundledModule, source) := by
  obtain ⟨source, hRead, hSource⟩ := h.script
  have hDescription : (Files.readText path : StateM FileTree _).run tree = (.ok bundledText, tree) := by
    show (tree.readText path, tree) = _
    rw [h.description]
  have hScript : (Files.readText (bundledModule.rootModulePath path) : StateM FileTree _).run tree =
      (.ok source, tree) := by
    show (tree.readText _, tree) = _
    rw [hRead]
  have hLoad : (ModuleDescriptor.load (m := StateM FileTree) path).run.run tree =
      (.ok bundledModule, tree) := by
    refine (run_lift_bind hDescription).trans ?_
    simp only [parse_bundledText]
    rfl
  refine ⟨source, hSource, ?_⟩
  rw [ScriptWindows.loadModule, run_bind_of_ok hLoad, run_lift_bind hScript]
  rfl

/-- **A new session imports the module.** -/
theorem startIn_bundled {catalog : String → Program} {tree : FileTree} {path : Path}
    (h : Bundles catalog tree path) :
    (Session.fresh (interpreter catalog)).startIn (interpreter catalog) tree path =
      .done (.ok (), bundledSession) := by
  obtain ⟨source, hSource, hLoad⟩ := h.loadModule
  have hEvaluate : (interpreter catalog).evaluate source {} = bundled.exports.conclude {} := by
    show (catalog source).exports.conclude {} = _
    rw [hSource]
  rw [Session.startIn_eq, show (Session.fresh (interpreter catalog)).state = .opened from rfl, hLoad]
  show (Streams.serve _ ((interpreter catalog).evaluate source {})).bind _ = _
  rw [hEvaluate]
  rfl

/-- A host with this module begins with a worker that has nothing to do. -/
def bundledStart (config : HostConfig) : Host Memory Routine where
  bridge := { capacity := max config.queueCapacity 1, worker := .idle bundledSession, handles := 2 }

/-- A host starts by launching a bridge to a new session. -/
theorem Host.start_eq {μ ρ : Type} (engine : Engine μ ρ) (config : HostConfig) (tree : FileTree) :
    ((Host.start (m := StateM FileTree) engine config).run tree).1 =
      (Bridge.launch engine config.queueCapacity
        ((Session.fresh engine).startIn engine tree config.descriptorPath)).map
          fun b => { bridge := b.clone } := by
  rw [Host.start, Session.startIn]
  generalize (Session.fresh engine).start (m := StateM FileTree) engine config.descriptorPath = run
  rfl

/-- **A host with this module starts.** -/
theorem start_bundled {catalog : String → Program} {tree : FileTree} {config : HostConfig}
    (h : Bundles catalog tree config.descriptorPath) :
    ((Host.start (m := StateM FileTree) (interpreter catalog) config).run tree).1 =
      .ok (bundledStart config) := by
  rw [Host.start_eq, startIn_bundled h]
  rfl

/-! ## The command behind the button -/

/-- What a window shows, as the command that asked for it returns it. -/
def shownWindow (request : WindowRequest) : Json :=
  .object [("message", .string request.message), ("title", .string request.title)]

theorem fieldOf_windowCommand {request : WindowRequest} {name given : String}
    (h : (Host.windowCommand request).parameters.lookup name = some (.string given)) :
    fieldOf (listed (Value.ofFields (Host.windowCommand request).parameters)) name =
      .string (.ofString given) := by
  have hOrder : Json.InOrder (Host.windowCommand request).parameters :=
    List.pairwise_pair.2 (by decide : "Message" < "Title")
  refine fieldOf_own ?_
  rw [lookup_listed hOrder, h]
  rfl

theorem call_window (catalog : String → Program) (request : WindowRequest) (memory : Memory) :
    (interpreter catalog).call ⟨newWindow⟩ (Host.windowCommand request).parameters memory =
      .ask (.createWindow request) fun reply => .done (match reply with
        | .ok () => .ok [shownWindow request]
        | .error reason => .error ⟨reason, true⟩, memory) := by
  have hTitle : fieldOf (listed (Value.ofFields (Host.windowCommand request).parameters)) "Title" =
      .string (.ofString request.title) := fieldOf_windowCommand rfl
  have hMessage : fieldOf (listed (Value.ofFields (Host.windowCommand request).parameters))
      "Message" = .string (.ofString request.message) := fieldOf_windowCommand rfl
  rw [call_eq, value_newWindow hTitle hMessage, Dialogue.bind]
  congr 1
  funext reply
  cases reply with
  | ok made =>
    simp only [Dialogue.bind, Except.mapError, Except.bind, results_windowFields]
    rfl
  | error reason => simp only [Dialogue.bind, Except.mapError, Except.bind, thrown_failure]

/-- What the command behind the button comes to. -/
def windowOutcome (request : WindowRequest) : Except String Unit → Outcome
  | .ok () => ⟨[shownWindow request], false, []⟩
  | .error reason => ⟨[], true, [⟨"window creation failed: " ++ reason, true⟩]⟩

/-- The status line tells of a completed command exactly if the shell has made the window. -/
theorem windowStatus_completed_iff (request : WindowRequest) (result : Except String Unit) :
    Host.windowStatus (.ok (windowOutcome request result)) = "New-ScriptUiWindow completed" ↔
      result = .ok () := by
  have hCounted : (windowOutcome request result).hadErrors = true ↔
      (windowOutcome request result).errors ≠ [] := by
    cases result <;> simp [windowOutcome]
  have hStatus : "New-ScriptUiWindow completed" = HostConfig.createWindowCommand ++ " completed" := by
    decide
  rw [hStatus, Host.windowStatus, statusOf_completed_iff hCounted]
  cases result <;> simp [windowOutcome]

/-- **What the command behind the button comes to**: it asks for its window, and is done with the
answer. The session is the same afterwards. -/
theorem invokeCommand_window (catalog : String → Program) (request : WindowRequest) :
    ∃ resume, bundledSession.invokeCommand (interpreter catalog) (Host.windowCommand request) =
        .ask request resume ∧
      ∀ result, resume (.ok result) = .done (.ok (windowOutcome request result), bundledSession) := by
  have hReady : bundledSession.unavailable? = none := rfl
  have hFind : bundledSession.cleared.streams.registry.find (Host.windowCommand request).name =
      .ok (some ⟨newWindow⟩) := rfl
  have hMemory : bundledSession.cleared.memory = {} := rfl
  simp only [Session.invokeCommand, hReady, Session.runCommand_eq]
  rw [Session.execute_eq_call hFind, hMemory, call_window]
  refine ⟨_, rfl, ?_⟩
  intro result
  cases result <;> rfl

/-! ## A tree with the module -/

/-- A tree of the module and nothing else. -/
def bundledTree : FileTree where
  entries := [(["ScriptUi.module.json"], .file bundledText.toUTF8),
    (["ScriptUi.js"], .file bundledScript.toUTF8)]

/-- A catalog that knows the script of the module. -/
def bundledCatalog : String → Program := knowing bundledScript bundled

/-- Settings that leave everything as it is by default, but for a queue of one command. -/
def bundledConfig : HostConfig where
  moduleName := HostConfig.defaultModuleName
  baseFolder := ⟨""⟩
  queueCapacity := 1

/-- The module lies in this tree where the settings look for it. -/
theorem bundles_bundledTree :
    Bundles bundledCatalog bundledTree bundledConfig.descriptorPath where
  description := FileTree.readText_of_name (by decide) (by decide) (by decide) (by decide) rfl
  script := by
    have hPath : bundledModule.rootModulePath bundledConfig.descriptorPath = ⟨"ScriptUi.js"⟩ := by
      decide
    refine ⟨bundledScript, ?_, knowing_self _ _⟩
    rw [hPath]
    exact FileTree.readText_of_name (by decide) (by decide) (by decide) (by decide) rfl

end ScriptWindows
