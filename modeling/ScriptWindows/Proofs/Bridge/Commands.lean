import ScriptWindows.Proofs.Bridge.Lifecycle
import ScriptWindows.Proofs.Bridge.ServedScripts
import ScriptWindows.Script.Modules

/-!
# The commands of a session

What can be called is kept twice: in the list of commands that a session tells, and in the registry
that its scripts can reach. An import fills both from what its module gives out. As long as no
script edits the registry, a command is found under a name exactly when the list has the name.

Main results:

* `registerExports_eq`: registering fills the list and the registry alike.
* `Runs.kept_registry`: later calls keep the registry, unless a script edits it.
* `session_commands`: when an import succeeds, and which names are answered as unknown after it.
-/

namespace ScriptWindows

open Dialogue

variable {μ ρ : Type}

/-! ## What a module gives out -/

def Exported.isRoutine : Exported ρ → Bool
  | .routine _ => true
  | .value | .failing _ => false

/-- The names of the functions that a module gives out, as far as its description allows them, in
order. -/
def commandNames (d : ModuleDescriptor) (exports : List (String × Exported ρ)) : List String :=
  (exports.filter fun entry => entry.2.isRoutine && d.allows entry.1).map Prod.fst

@[simp] theorem commandNames_nil (d : ModuleDescriptor) :
    commandNames d ([] : List (String × Exported ρ)) = [] := rfl

@[simp] theorem commandNames_cons (d : ModuleDescriptor) (entry : String × Exported ρ)
    (rest : List (String × Exported ρ)) :
    commandNames d (entry :: rest) =
      if entry.2.isRoutine && d.allows entry.1 then entry.1 :: commandNames d rest
      else commandNames d rest := by
  rw [commandNames, List.filter_cons]
  split <;> rfl

/-- A command is listed if it is a function that the description allows. -/
theorem mem_commandNames {d : ModuleDescriptor} {exports : List (String × Exported ρ)}
    {name : String} :
    name ∈ commandNames d exports ↔
      (∃ routine, (name, .routine routine) ∈ exports) ∧ d.allows name = true := by
  simp only [commandNames, List.mem_map, List.mem_filter, Bool.and_eq_true]
  constructor
  · rintro ⟨⟨other, exported⟩, ⟨hIn, hRoutine, hAllows⟩, rfl⟩
    cases exported with
    | routine routine => exact ⟨⟨routine, hIn⟩, hAllows⟩
    | value => contradiction
    | failing error => contradiction
  · rintro ⟨⟨routine, hIn⟩, hAllows⟩
    exact ⟨_, ⟨hIn, rfl, hAllows⟩, rfl⟩

/-- No command is listed twice. -/
theorem nodup_commandNames {exports : List (String × Exported ρ)}
    (h : (exports.map Prod.fst).Nodup) (d : ModuleDescriptor) : (commandNames d exports).Nodup :=
  h.sublist (List.filter_sublist.map _)

/-- A command that is declared is allowed. -/
theorem ModuleDescriptor.allows_of_mem {d : ModuleDescriptor} {name : String}
    (h : name ∈ d.commands) : d.allows name = true := by
  simp [allows, h]

/-! ## Registering -/

/-- A command is unknown if the registry has none of its name. -/
theorem Registry.find_table_eq_none {commands : List (String × ρ)} {extensible : Bool}
    {name : String} :
    (Registry.table commands extensible).find name = .ok none ↔ commands.lookup name = none := by
  simp [find]

/-- A name is unknown behind a new command if it was, and is another one. -/
theorem Registry.lookup_putCommand_eq_none {name other : String} {command : ρ}
    {commands : List (String × ρ)} :
    (putCommand name command commands).lookup other = none ↔
      other ≠ name ∧ commands.lookup other = none := by
  by_cases hSame : other = name
  · subst hSame
    simp [lookup_putCommand_self]
  · simp [lookup_putCommand_of_ne command commands hSame, hSame]

/-- Everything that a module gives out can be read. -/
def Readable (exports : List (String × Exported ρ)) : Prop :=
  ∀ entry ∈ exports, ∀ error, entry.2 ≠ .failing error

/-- **Registering fills the list and the registry alike**: where everything can be read, what is
found besides what was there are the commands that are listed. -/
theorem registerExports_eq (d : ModuleDescriptor) {exports : List (String × Exported ρ)}
    (hReadable : Readable exports) (commands : List (String × ρ)) :
    ∃ after, registerExports d (.table commands true) exports =
        (.ok (commandNames d exports), after) ∧
      ∀ name, after.find name = .ok none ↔
        name ∉ commandNames d exports ∧ commands.lookup name = none := by
  -- each entry is registered in turn, so the induction is over what was registered before it
  induction exports generalizing commands with
  | nil => exact ⟨_, rfl, fun name => by simp [Registry.find_table_eq_none]⟩
  | cons entry rest ih =>
    have hRest : Readable rest := fun entry hIn => hReadable entry (.tail _ hIn)
    obtain ⟨name, exported⟩ := entry
    cases exported with
    | failing error => exact absurd rfl (hReadable _ (.head _) error)
    | value => simpa [registerExports, Exported.isRoutine] using ih hRest commands
    | routine routine =>
      cases hAllows : d.allows name with
      | false => simpa [registerExports, hAllows] using ih hRest commands
      | true =>
        obtain ⟨after, hNames, hFound⟩ := ih hRest (Registry.putCommand name routine commands)
        refine ⟨after, ?_, ?_⟩
        · simp only [registerExports, hAllows, if_true, Registry.register, hNames]
          simp [hAllows, Exported.isRoutine, Except.map]
        · intro other
          rw [hFound, Registry.lookup_putCommand_eq_none]
          simp [hAllows, Exported.isRoutine]
          tauto

/-- What cannot be read is noticed, whatever was registered before it. -/
theorem registerExports_unreadable (d : ModuleDescriptor) {exports : List (String × Exported ρ)}
    (hUnreadable : ¬ Readable exports) (commands : List (String × ρ)) :
    ∃ reason after, registerExports d (.table commands true) exports = (.error reason, after) := by
  induction exports generalizing commands with
  | nil => exact absurd (fun entry hIn => by cases hIn) hUnreadable
  | cons entry rest ih =>
    obtain ⟨name, exported⟩ := entry
    -- unless it is this one, it is further on
    have hLater : (∀ error, exported ≠ .failing error) → ¬ Readable rest := by
      intro hHere hRest
      refine hUnreadable fun entry hIn => ?_
      rcases List.mem_cons.1 hIn with rfl | hIn
      · exact hHere
      · exact hRest entry hIn
    cases exported with
    | failing error => exact ⟨_, _, rfl⟩
    | value => exact ih (hLater (by simp)) commands
    | routine routine =>
      have hRest := ih (hLater (by simp))
      cases hAllows : d.allows name with
      | false => simpa [registerExports, hAllows] using hRest commands
      | true =>
        obtain ⟨reason, after, hError⟩ := hRest (Registry.putCommand name routine commands)
        refine ⟨reason, after, ?_⟩
        simp only [registerExports, hAllows, if_true, Registry.register, hError]
        rfl

/-! ## Importing -/

/-- The script of a module is evaluated without an error, leaves the registry alone, and gives this
out. -/
def Engine.Gives (engine : Engine μ ρ) (source : String) (exports : List (String × Exported ρ)) :
    Prop :=
  ∃ calls memory after, (engine.evaluate source engine.memory).Ends calls (.ok exports, memory) ∧
    ({ importing := true } : Streams ρ).Served calls [] after ∧ LeavesRegistry calls

namespace Session

/-- A module that gives something out is imported without a question to the UI. -/
theorem startIn_of_gives {engine : Engine μ ρ} {s : Session μ ρ} {tree : FileTree} {path : Path}
    {d : ModuleDescriptor} {source : String} {exports : List (String × Exported ρ)}
    (hOpened : s.state = .opened) (hStreams : s.streams = {}) (hMemory : s.memory = engine.memory)
    (hLoad : ((loadModule (m := StateM FileTree) path).run.run tree).1 = .ok (d, source))
    (hGives : engine.Gives source exports) :
    ∃ memory after, after.registry = .empty ∧ after.violation = none ∧
      s.startIn engine tree path = .done (s.afterImport path d (.ok exports) memory after) := by
  obtain ⟨calls, memory, after, hEvaluate, hServed, hLeaves⟩ := hGives
  refine ⟨memory, after, hServed.registry hLeaves, (hServed.of_importing rfl).2, ?_⟩
  -- without a question there is nothing to wait for
  have hDone : ({ s.streams with importing := true } : Streams ρ).serve
      (engine.evaluate source s.memory) = .done ((.ok exports, memory), after) := by
    have hServe := Streams.ends_serve.2 ⟨calls, hEvaluate, hServed⟩
    rw [hStreams, hMemory]
    exact (After.refl _).unique hServe
  exact startIn_of_served hOpened hLoad hDone

/-- **The end of an import**: it succeeds if everything can be read and the functions that were
declared are among what is given out. -/
theorem afterImport_of_exports (s : Session μ ρ) (path : Path) (d : ModuleDescriptor)
    (exports : List (String × Exported ρ)) (memory : μ) {streams : Streams ρ}
    (hRegistry : streams.registry = .empty) {result : Except BridgeError Unit}
    {next : Session μ ρ} (h : s.afterImport path d (.ok exports) memory streams = (result, next)) :
    (result = .ok () ↔ Readable exports ∧ ∀ c ∈ d.commands, c ∈ commandNames d exports) ∧
      (result = .ok () → next.commands = commandNames d exports ∧
        ∀ name, next.streams.registry.find name = .ok none ↔ name ∉ next.commands) := by
  unfold afterImport commandsOf at h
  rw [hRegistry] at h
  by_cases hReadable : Readable exports
  · obtain ⟨after, hNames, hFound⟩ := registerExports_eq d hReadable []
    have hFind : ∀ name, after.find name = .ok none ↔ name ∉ commandNames d exports := by
      simpa using hFound
    simp only [Registry.empty, hNames] at h
    cases hMissing : d.commands.find? (!(commandNames d exports).contains ·) with
    | none =>
      rw [hMissing] at h
      obtain ⟨rfl, rfl⟩ := Prod.mk.inj h
      have hAll : ∀ c ∈ d.commands, c ∈ commandNames d exports := by
        simpa using List.find?_eq_none.1 hMissing
      exact ⟨iff_of_true rfl ⟨hReadable, hAll⟩, fun _ => ⟨rfl, hFind⟩⟩
    | some missing =>
      -- a declared command that was not given out is the reason of the failure
      rw [hMissing] at h
      obtain ⟨rfl, rfl⟩ := Prod.mk.inj h
      have hNone : ¬ ∀ c ∈ d.commands, c ∈ commandNames d exports := by
        intro hAll
        have hIn := hAll missing (List.mem_of_find?_eq_some hMissing)
        simpa [hIn] using List.find?_some hMissing
      exact ⟨iff_of_false (by simp) fun hBoth => hNone hBoth.2, fun hOk => by simp at hOk⟩
  · -- what cannot be read ends the registration before the declared ones are looked for
    obtain ⟨reason, after, hError⟩ := registerExports_unreadable d hReadable []
    simp only [Registry.empty, hError] at h
    obtain ⟨rfl, rfl⟩ := Prod.mk.inj h
    exact ⟨iff_of_false (by simp) fun hBoth => hReadable hBoth.1, fun hOk => by simp at hOk⟩

end Session

/-! ## Later calls -/

/-- **What later calls keep** once a session was opened: its commands, and its state unless a window
is touched off the UI thread. -/
theorem Runs.kept {engine : Engine μ ρ} {first t : Session μ ρ} {later : List SessionEntry}
    (h : Runs engine first later t) (hState : first.state ≠ .opened) :
    t.commands = first.commands ∧ (t.state = first.state ∨
      first.state = .ready ∧ ∃ reason, t.state = .faulted reason) := by
  induction h with
  | nil => exact ⟨rfl, .inl rfl⟩
  | @snoc entries s next e h hEnds ih =>
    obtain ⟨hCommands, hBefore⟩ := ih
    have hNotOpened : s.state ≠ .opened := by
      rcases hBefore with hSame | ⟨-, reason, hFaulted⟩
      · rwa [hSame]
      · simp [hFaulted]
    obtain ⟨hKept, hAfter⟩ := (SessionCall.comesTo_of_ends hEnds).kept hNotOpened
    refine ⟨hKept.trans hCommands, ?_⟩
    -- the state changes at most once, from ready to faulted
    rcases hBefore with hSame | ⟨hReady, reason, hFaulted⟩
    · rwa [hSame] at hAfter
    · rcases hAfter with hSame | ⟨hReady', -⟩
      · exact .inr ⟨hReady, reason, hSame.trans hFaulted⟩
      · simp [hFaulted] at hReady'

/-- Whatever calls are made on a session, no command of it edits the registry. -/
def Session.KeepsRegistry (engine : Engine μ ρ) (s : Session μ ρ) : Prop :=
  ∀ later t, Runs engine s later t → t.state = .ready →
    ∀ (c : PendingCommand) routine calls result memory exchange after,
      t.streams.registry.find c.name = .ok (some routine) →
      (engine.call routine c.parameters t.memory).Ends calls (result, memory) →
      t.cleared.streams.Served calls exchange after → LeavesRegistry calls

/-- The conclusion of a command leaves the registry alone. -/
theorem Session.registry_conclude (s : Session μ ρ) (c : PendingCommand) (execution : Execution)
    (memory : μ) (after : Streams ρ) :
    (s.conclude c execution memory after).2.streams.registry = after.registry := by
  unfold conclude
  simp only
  split
  · rfl
  · split <;> rfl

/-- **Later calls keep the registry**, unless a script edits it. -/
theorem Runs.kept_registry {engine : Engine μ ρ} {first t : Session μ ρ}
    {later : List SessionEntry} (h : Runs engine first later t) (hState : first.state ≠ .opened)
    (hKeeps : first.KeepsRegistry engine) :
    t.streams.registry = first.streams.registry := by
  induction h with
  | nil => rfl
  | @snoc entries s next e h hEnds ih =>
    cases SessionCall.comesTo_of_ends hEnds with
    | idle pending hNext =>
      rw [hNext]
      exact ih
    | imports tree path result hOpened =>
      -- an import needs a session that is opened, which it never is again
      rcases (h.kept hState).2 with hSame | ⟨-, reason, hFaulted⟩
      · exact absurd (hSame.symm.trans hOpened) hState
      · simp [hFaulted] at hOpened
    | runs c result hReady hCommand hAnswer hRuns =>
      obtain ⟨execution, memory, calls, after, hEnded, hServed, hCalled⟩ := hRuns.concluded
      -- only a command that is called could edit it
      have hLeaves : LeavesRegistry calls := by
        rcases hCalled with rfl | ⟨routine, called, hFind, hCall⟩
        · simp [LeavesRegistry]
        · exact hKeeps _ _ h hReady c routine calls called memory _ after hFind hCall hServed
      have hKept := s.cleared.registry_conclude c execution memory after
      rw [← hEnded] at hKept
      exact (hKept.trans (hServed.registry hLeaves)).trans ih

/-! ## Calling by name -/

/-- A name that is not found is answered at once, and nothing but what was staged changes. -/
theorem SessionCall.run_unknown {engine : Engine μ ρ} {s : Session μ ρ} {call : SessionCall}
    {c : PendingCommand} (hReady : s.state = .ready) (hSettled : s.Settled)
    (hCommand : call.command? s = some c) (hFind : s.streams.registry.find c.name = .ok none) :
    call.run engine s = .done (.invoked (.error (.commandNotFound c.name)), s.clear) := by
  have hExecute : s.cleared.execute engine c =
      .done ((.notFound, s.memory), s.cleared.streams) := by
    rw [Session.execute, show s.cleared.streams.registry = s.streams.registry from rfl, hFind]
    rfl
  -- there are no errors to take out and no violation to answer
  have hConclude : s.cleared.conclude c .notFound s.memory s.cleared.streams =
      (.error (.commandNotFound c.name), s.clear) := by
    rw [Session.conclude, hSettled.cleared_streams]
    simp only [Session.cleared, Session.clear]
    rw [← hSettled]
  rw [run_of_command hCommand, Session.invokeCommand, Session.unavailable?, hReady]
  simp only [Session.runCommand_eq, hExecute, Dialogue.bind, hConclude]

/-- Only a name that is not found is answered as unknown. -/
theorem Session.execution_of_conclude {s next : Session μ ρ} {c : PendingCommand}
    {execution : Execution} {memory : μ} {after : Streams ρ} {name : String}
    (h : (Except.error (.commandNotFound name), next) = s.conclude c execution memory after) :
    execution = .notFound := by
  unfold conclude at h
  simp only at h
  split at h
  · simp at h
  · cases execution with
    | notFound => rfl
    | completed results => simp at h
    | failed error => simp at h

/-- A command that is found is never answered as an unknown one. -/
theorem SessionCall.answer_ne_unknown {engine : Engine μ ρ} {s next : Session μ ρ}
    {call : SessionCall} {c : PendingCommand} {exchange : UiExchange} {answer : SessionAnswer}
    (hReady : s.state = .ready) (hCommand : call.command? s = some c)
    (hFind : s.streams.registry.find c.name ≠ .ok none)
    (h : (call.run engine s).Ends exchange (answer, next)) (name : String) :
    answer ≠ .invoked (.error (.commandNotFound name)) := by
  rintro rfl
  obtain ⟨result, hAnswer, hRuns⟩ := runsTo_of_ready hReady hCommand h
  cases hAnswer
  -- what was looked for and found ends in results or an error of its own
  cases hRuns with
  | unsearchable kind hReplaced hExchange hEnded =>
    exact absurd (Session.execution_of_conclude hEnded) (by simp)
  | unknown hNone => exact hFind hNone
  | called routine calls called memory after hFound hCall hServed hEnded =>
    have hExecution := Session.execution_of_conclude hEnded
    cases called <;> simp [Session.executionOf] at hExecution

/-- A session whose import failed runs no command. -/
theorem SessionCall.run_broken {s : Session μ ρ} {reason : String} (hBroken : s.state = .broken reason)
    (engine : Engine μ ρ) {call : SessionCall} {c : PendingCommand}
    (hCommand : call.command? s = some c) :
    call.run engine s = .done (.invoked (.error (.sessionUnavailable reason)), s.clear) := by
  have hReason : s.unavailable? = some (.sessionUnavailable reason) := by
    rw [Session.unavailable?, hBroken]
  rw [run_of_command hCommand, Session.invokeCommand_of_not_ready hReason]
  rfl

/-- **The list of commands and the registry agree for as long as they are kept**: what is unknown in
the one is unknown in the other. -/
theorem Runs.kept_names {engine : Engine μ ρ} {first t : Session μ ρ} {later : List SessionEntry}
    (h : Runs engine first later t) (hReady : first.state = .ready) (hSettled : first.Settled)
    (hFind : ∀ name, first.streams.registry.find name = .ok none ↔ name ∉ first.commands)
    (hKeeps : first.KeepsRegistry engine) (hStill : t.state = .ready) :
    t.commands = first.commands ∧ ∀ (call : SessionCall) c, call.command? t = some c →
      (c.name ∉ t.commands → call.run engine t =
        .done (.invoked (.error (.commandNotFound c.name)), t.clear)) ∧
      (c.name ∈ t.commands → ∀ exchange answer after,
        (call.run engine t).Ends exchange (answer, after) →
        ∀ name, answer ≠ .invoked (.error (.commandNotFound name))) := by
  have hNotOpened : first.state ≠ .opened := by simp [hReady]
  have hSame : t.commands = first.commands := (h.kept hNotOpened).1
  -- both records are as they were, so they still agree
  have hFound : ∀ name, t.streams.registry.find name = .ok none ↔ name ∉ t.commands := by
    intro name
    rw [h.kept_registry hNotOpened hKeeps, hSame, hFind]
  refine ⟨hSame, fun call c hCommand => ⟨fun hUnknown => ?_, fun hKnown => ?_⟩⟩
  · exact SessionCall.run_unknown hStill (h.settled hSettled) hCommand ((hFound _).2 hUnknown)
  · intro exchange answer after hEnds
    have hPresent : t.streams.registry.find c.name ≠ .ok none :=
      fun hNone => (hFound _).1 hNone hKnown
    exact SessionCall.answer_ne_unknown hStill hCommand hPresent hEnds

/-- A session whose import failed stays as it is. -/
theorem Runs.kept_broken {engine : Engine μ ρ} {first t : Session μ ρ} {later : List SessionEntry}
    {reason : String} (h : Runs engine first later t) (hBroken : first.state = .broken reason) :
    t.state = .broken reason := by
  rcases (h.kept (by simp [hBroken])).2 with hSame | ⟨hReady, -⟩
  · exact hSame.trans hBroken
  · simp [hBroken] at hReady

/-! ## Every import -/

/-- **The commands of a session**, for every module whose script gives something out. The import
succeeds if all of that can be read and what was declared is among the functions, and then lists the
functions that are allowed. From then on, as long as no command edits the registry, the names that
are not in the list are unknown and no others. After an import that failed no name can be called.
That the names of what is given out differ is a property of every object. -/
theorem session_commands (engine : Engine μ ρ) {entries : List SessionEntry} {s : Session μ ρ}
    (hRun : Runs engine (.fresh engine) entries s) (hOpened : s.state = .opened)
    {tree : FileTree} {path : Path} {d : ModuleDescriptor} {source : String}
    (hLoad : ((loadModule (m := StateM FileTree) path).run.run tree).1 = .ok (d, source))
    {exports : List (String × Exported ρ)} (hGives : engine.Gives source exports)
    (hNames : (exports.map Prod.fst).Nodup) :
    ∃ result next, s.startIn engine tree path = .done (result, next) ∧
      (result = .ok () ↔ (∀ entry ∈ exports, ∀ error, entry.2 ≠ .failing error) ∧
        ∀ c ∈ d.commands, ∃ routine, (c, .routine routine) ∈ exports) ∧
      (result = .ok () →
        next.state = .ready ∧ next.commands = commandNames d exports ∧ next.commands.Nodup ∧
        (next.KeepsRegistry engine → ∀ later t, Runs engine next later t → t.state = .ready →
          t.commands = next.commands ∧ ∀ (call : SessionCall) c, call.command? t = some c →
            (c.name ∉ t.commands → call.run engine t =
              .done (.invoked (.error (.commandNotFound c.name)), t.clear)) ∧
            (c.name ∈ t.commands → ∀ exchange answer after,
              (call.run engine t).Ends exchange (answer, after) →
              ∀ name, answer ≠ .invoked (.error (.commandNotFound name))))) ∧
      (result ≠ .ok () → ∃ reason, ∀ later t, Runs engine next later t →
        t.state = .broken reason ∧ ∀ (call : SessionCall) c, call.command? t = some c →
          call.run engine t = .done (.invoked (.error (.sessionUnavailable reason)), t.clear)) := by
  obtain ⟨hStreams, hMemory⟩ := hRun.unopened hOpened
  obtain ⟨memory, streams, hRegistry, hViolation, hStart⟩ :=
    Session.startIn_of_gives hOpened hStreams hMemory hLoad hGives
  generalize hAfter : s.afterImport path d (.ok exports) memory streams = ended at hStart
  obtain ⟨result, next⟩ := ended
  obtain ⟨hResult, hListed⟩ := s.afterImport_of_exports path d exports memory hRegistry hAfter
  refine ⟨result, next, hStart, ?_, ?_, ?_⟩
  · -- a command that is declared is allowed
    rw [hResult]
    refine and_congr_right fun _ => forall₂_congr fun c hDeclared => ?_
    rw [mem_commandNames, and_iff_left (ModuleDescriptor.allows_of_mem hDeclared)]
  · intro hOk
    obtain ⟨hCommands, hFind⟩ := hListed hOk
    have hReady : next.state = .ready := by
      rcases s.afterImport_cases path d _ _ _ hAfter with ⟨-, hReady⟩ | ⟨e, hError, -⟩
      · exact hReady
      · simp [hOk] at hError
    have hSettled : next.Settled := by
      have hAfterSettled := s.settled_afterImport path d (.ok exports) memory hViolation
      rwa [hAfter] at hAfterSettled
    refine ⟨hReady, hCommands, hCommands ▸ nodup_commandNames hNames d, ?_⟩
    -- what the list says of the registry now is kept by every later call
    intro hKeeps later t hLater hStill
    exact hLater.kept_names hReady hSettled hFind hKeeps hStill
  · intro hFailed
    rcases s.afterImport_cases path d _ _ _ hAfter with ⟨hOk, -⟩ | ⟨e, -, hBroken, -⟩
    · exact absurd hOk hFailed
    · refine ⟨e.message, fun later t hLater => ?_⟩
      have hStill := hLater.kept_broken hBroken
      exact ⟨hStill, fun call c hCommand => SessionCall.run_broken hStill engine hCommand⟩

/-! ## Modules of fixed exports -/

/-- The script of the module gives out its one command. -/
theorem touchEngine_gives : touchEngine.Gives touchScript [("Touch", .routine ())] := by
  refine ⟨[], (), _, ?_, .done _, by simp [LeavesRegistry]⟩
  rw [evaluate_touchScript]
  exact .refl _

/-- The one command of the module asks for a window, whatever it is called with. -/
theorem touchEngine_keepsRegistry (s : Session Unit Unit) : s.KeepsRegistry touchEngine := by
  intro later t hRun hReady c routine calls result memory exchange after hFind hCall hServed
  cases hCall with
  | ask hCall =>
    obtain ⟨rfl, -⟩ := ends_done.1 hCall
    simp [LeavesRegistry]

theorem session_commands_touch :
    touchEngine.Gives touchScript [("Touch", .routine ())] ∧
      ∃ next, (Session.fresh touchEngine).startIn touchEngine touchTree ⟨"touch"⟩ =
          .done (.ok (), next) ∧ next.commands = ["Touch"] ∧
        (SessionCall.invoke "toString" []).run touchEngine next =
          .done (.invoked (.error (.commandNotFound "toString")), next.clear) := by
  obtain ⟨result, next, hStart, hResult, hListed, -⟩ :=
    session_commands touchEngine .nil rfl (loadModule_moduleTree _) touchEngine_gives (by simp)
  -- the module declares no commands, so nothing can be missing
  obtain rfl : result = .ok () := hResult.2 (by simp [touchModule])
  obtain ⟨hReady, hCommands, -, hNames⟩ := hListed rfl
  have hTouch : next.commands = ["Touch"] := hCommands.trans rfl
  obtain ⟨-, hCalls⟩ := hNames (touchEngine_keepsRegistry next) [] next .nil hReady
  refine ⟨touchEngine_gives, next, hStart, hTouch, ?_⟩
  exact (hCalls (.invoke "toString" []) ⟨"toString", []⟩ rfl).1 (by simp [hTouch])

section Unreadable

open Script

/-- The script of a module with a function, and something that cannot be read. -/
def unreadableScript : String :=
  "exports.A = () => 1;\n" ++
    "Object.defineProperty(exports, \"B\", \x7b enumerable: true,\n" ++
    "    get() \x7b throw new Error(\"getter\"); \x7d \x7d);\n"

/-- What the script comes to. -/
def unreadableProgram : Program :=
  giving [("A", returning (numberExpr 1)), ("B", .failing "getter")]

/-- The engine that knows this script. -/
def unreadable : Engine Memory Routine := interpreter (knowing unreadableScript unreadableProgram)

def unreadableExports : List (String × Exported Routine) :=
  [("A", .routine ⟨[.ret (numberExpr 1)]⟩), ("B", .failing ⟨"getter", true⟩)]

/-- **An import fails although everything declared is a function**: another of the things that are
given out cannot be read. -/
theorem session_commands_unreadable :
    unreadable.Gives unreadableScript unreadableExports ∧
      ((loadModule (m := StateM FileTree) ⟨"touch"⟩).run.run (moduleTree unreadableScript)).1 =
        .ok (touchModule, unreadableScript) ∧
      (∀ c ∈ touchModule.commands, ∃ routine, (c, .routine routine) ∈ unreadableExports) ∧
      ∃ next, (Session.fresh unreadable).startIn unreadable (moduleTree unreadableScript)
          ⟨"touch"⟩ = .done (.error (.importFailure ⟨"touch"⟩ "getter"), next) := by
  have hEvaluate (memory : Memory) : unreadable.evaluate unreadableScript memory =
      unreadableProgram.exports.conclude memory := evaluate_knowing ..
  refine ⟨⟨[], {}, _, ?_, .done _, by simp [LeavesRegistry]⟩, loadModule_moduleTree _,
    by simp [touchModule], ?_⟩
  · rw [hEvaluate]
    exact .refl _
  · rw [startIn_moduleTree, Session.importModule, hEvaluate]
    exact ⟨_, rfl⟩

end Unreadable

end ScriptWindows
