import Mathlib
import ScriptWindows.Proofs.Bridge.Commands
import ScriptWindows.Proofs.Bridge.Staging

/-!
# Calls that are rejected

A session rejects an import once it has had one, a command it does not know, and every command while
it is not ready. A call that is rejected leaves no trace: as long as nothing is staged, the session
after it is the session before it, and no window was asked for. So any of the rejected calls can be
left out of a run, and all others end as they did.

Main results:

* `SessionCall.run_of_rejected`: a call that is rejected is answered at once, and changes nothing.
* `Session.perform_cons`: the calls of a run one by one.
* `rejected_calls_leave_no_trace`: a run without some of its rejected calls.
-/

namespace ScriptWindows

open Dialogue

variable {μ ρ : Type}

/-! ## Rejections -/

/-- The answers to a call that was not carried out: a second import, a call of a session that does
not take it any more or not yet, or a command of an unknown name. -/
inductive SessionAnswer.Rejects : SessionAnswer → Prop
  | alreadyInitialized : Rejects (.started (.error .alreadyInitialized))
  | closed (reason : String) : Rejects (.started (.error (.sessionUnavailable reason)))
  | unavailable (reason : String) : Rejects (.invoked (.error (.sessionUnavailable reason)))
  | unknown (name : String) : Rejects (.invoked (.error (.commandNotFound name)))

/-- A module that does not load is the failure of an import. -/
theorem loadModule_error {tree after : FileTree} {path : Path} {e : BridgeError}
    (h : (loadModule (m := StateM FileTree) path).run.run tree = (.error e, after)) :
    ∃ reason, e = .importFailure path reason := by
  have hThrown : ∀ {α : Type} {reason : String} {last : FileTree},
      ((Except.error (.importFailure path reason) : Except BridgeError α), last) =
        (.error e, after) → ∃ reason, e = .importFailure path reason := by
    intro α reason last hSame
    exact ⟨reason, (Except.error.inj (Prod.mk.inj hSame).1).symm⟩
  rw [loadModule] at h
  -- the description comes first, then the script it names
  rcases run_bind_error h with hLoad | ⟨d, middle, -, hRead⟩
  · have hText : (Files.readText path : StateM FileTree _).run tree = (tree.readText path, tree) :=
      rfl
    rw [ModuleDescriptor.load, run_lift_bind hText] at hLoad
    split at hLoad
    · exact hThrown hLoad
    · split at hLoad
      · cases hLoad
      · exact hThrown hLoad
  · have hSource : (Files.readText (d.rootModulePath path) : StateM FileTree _).run middle =
        (middle.readText (d.rootModulePath path), middle) := rfl
    rw [run_lift_bind hSource] at hRead
    split at hRead
    · cases hRead
    · exact hThrown hRead

namespace Session

/-- An import that is made for the first time succeeds or fails as an import. -/
theorem answer_of_opened {engine : Engine μ ρ} {s next : Session μ ρ} {tree : FileTree}
    {path : Path} {exchange : UiExchange} {result : Except BridgeError Unit}
    (hOpened : s.state = .opened) (h : (s.startIn engine tree path).Ends exchange (result, next)) :
    result = .ok () ∨ ∃ reason, result = .error (.importFailure path reason) := by
  rw [startIn_eq, hOpened] at h
  cases hLoad : (loadModule (m := StateM FileTree) path).run.run tree with
  | mk loaded after =>
    rw [hLoad] at h
    cases loaded with
    | error e =>
      obtain ⟨reason, rfl⟩ := loadModule_error hLoad
      obtain ⟨-, rfl, -⟩ := ends_done_mk.1 h
      exact .inr ⟨reason, rfl⟩
    | ok found =>
      simp only [importModule_eq] at h
      obtain ⟨r, -, hAfter⟩ := ends_bind_done.1 h
      unfold afterImport at hAfter
      simp only at hAfter
      split at hAfter
      · obtain ⟨rfl, -⟩ := Prod.mk.inj hAfter
        exact .inl rfl
      · obtain ⟨rfl, -⟩ := Prod.mk.inj hAfter
        exact .inr ⟨_, rfl⟩

/-- A command that is run is not answered that the session is unavailable. -/
theorem conclude_ne_unavailable {s next : Session μ ρ} {c : PendingCommand} {execution : Execution}
    {memory : μ} {after : Streams ρ} (reason : String) :
    (Except.error (.sessionUnavailable reason), next) ≠ s.conclude c execution memory after := by
  unfold conclude
  simp only
  split
  · simp
  · cases execution <;> simp

/-- Without a command in the slot there is nothing to forget. -/
theorem clear_of_pending {s : Session μ ρ} (h : s.pending = none) : s.clear = s := by
  rw [clear, ← h]

end Session

namespace SessionCall

/-- A command that is rejected is answered at once, and forgotten. -/
theorem run_of_command_rejected {engine : Engine μ ρ} {s next : Session μ ρ} {call : SessionCall}
    {c : PendingCommand} {exchange : UiExchange} {answer : SessionAnswer} (hSettled : s.Settled)
    (hCommand : call.command? s = some c) (hRejected : answer.Rejects)
    (h : (call.run engine s).Ends exchange (answer, next)) :
    call.run engine s = .done (answer, s.clear) := by
  have hAtOnce : ∀ {a : SessionAnswer}, call.run engine s = .done (a, s.clear) →
      call.run engine s = .done (answer, s.clear) := by
    intro a hRun
    rw [hRun] at h
    obtain ⟨-, rfl, -⟩ := ends_done_mk.1 h
    exact hRun
  cases hReason : s.unavailable? with
  | some e =>
    refine hAtOnce (a := .invoked (.error e)) ?_
    rw [run_of_command hCommand, Session.invokeCommand_of_not_ready hReason]
    rfl
  | none =>
    have hReady := Session.ready_of_available hReason
    by_cases hFind : s.streams.registry.find c.name = .ok none
    · exact hAtOnce (run_unknown hReady hSettled hCommand hFind)
    · -- a command that is found runs, and running it is never answered by a rejection
      obtain ⟨result, rfl, hRuns⟩ := runsTo_of_ready hReady hCommand h
      cases hRejected with
      | unknown name => exact absurd rfl (answer_ne_unknown hReady hCommand hFind h name)
      | unavailable reason =>
        obtain ⟨execution, memory, calls, after, hEnded, -⟩ := hRuns.concluded
        exact absurd hEnded (Session.conclude_ne_unavailable reason)

/-- **A call that is rejected** is answered at once, and changes nothing in a session in which no
command is staged. -/
theorem run_of_rejected {engine : Engine μ ρ} {s next : Session μ ρ} {call : SessionCall}
    {exchange : UiExchange} {answer : SessionAnswer} (hSettled : s.Settled)
    (hPending : s.pending = none) (hRejected : answer.Rejects)
    (h : (call.run engine s).Ends exchange (answer, next)) :
    call.run engine s = .done (answer, s) := by
  have hCommands : ∀ c, call.command? s = some c → call.run engine s = .done (answer, s) := by
    intro c hCommand
    rw [run_of_command_rejected hSettled hCommand hRejected h, Session.clear_of_pending hPending]
  cases call with
  | invoke name parameters => exact hCommands _ rfl
  | invokeCommand c => exact hCommands _ rfl
  | start tree path =>
    cases hState : s.state with
    | ready =>
      rw [run_start_of_ready hState] at h ⊢
      obtain ⟨-, rfl, -⟩ := ends_done_mk.1 h
      rfl
    | broken reason =>
      rw [run_start_of_reason (.inl hState)] at h ⊢
      obtain ⟨-, rfl, -⟩ := ends_done_mk.1 h
      rfl
    | faulted reason =>
      rw [run_start_of_reason (.inr hState)] at h ⊢
      obtain ⟨-, rfl, -⟩ := ends_done_mk.1 h
      rfl
    | opened =>
      -- a session that is only opened imports, and what it answers then is no rejection
      obtain ⟨result, hEnds, rfl⟩ := ends_bind_done_mk.1 h
      rcases Session.answer_of_opened hState hEnds with rfl | ⟨reason, rfl⟩ <;> contradiction
  | addCommand name =>
    obtain ⟨-, rfl, -⟩ := ends_done_mk.1 h
    contradiction
  | addParameter name value =>
    rw [run, Session.addParameter, hPending] at h
    obtain ⟨-, rfl, -⟩ := ends_done_mk.1 h
    contradiction
  | invokePending =>
    rw [run, Session.invokePending, hPending] at h
    obtain ⟨-, rfl, -⟩ := ends_done_mk.1 h
    contradiction
  | clear =>
    obtain ⟨-, rfl, -⟩ := ends_done_mk.1 h
    contradiction

/-! ## The slot -/

/-- Whether a call stages a command. -/
def stages : SessionCall → Bool
  | .addCommand _ => true
  | .start .. | .invoke .. | .invokeCommand _ | .addParameter .. | .invokePending | .clear => false

/-- Unless a command is staged, nothing comes into the slot. -/
theorem pending_of_not_stages {engine : Engine μ ρ} {s next : Session μ ρ} {call : SessionCall}
    {exchange : UiExchange} {answer : SessionAnswer} (hCall : call.stages = false)
    (hPending : s.pending = none) (h : (call.run engine s).Ends exchange (answer, next)) :
    next.pending = none := by
  cases call with
  | invoke name parameters => exact pending_of_ends rfl h
  | invokeCommand c => exact pending_of_ends rfl h
  | invokePending => exact pending_of_ends rfl h
  | start tree path =>
    obtain ⟨result, hEnds, rfl⟩ := ends_bind_done_mk.1 h
    rw [Session.startIn_eq] at hEnds
    split at hEnds
    · obtain ⟨-, -, rfl⟩ := ends_done_mk.1 hEnds
      exact hPending
    · obtain ⟨-, -, rfl⟩ := ends_done_mk.1 hEnds
      exact hPending
    · obtain ⟨-, -, rfl⟩ := ends_done_mk.1 hEnds
      exact hPending
    · -- an import empties the slot, however it ends
      split at hEnds
      · obtain ⟨-, -, rfl⟩ := ends_done_mk.1 hEnds
        rfl
      · rw [Session.importModule_eq] at hEnds
        obtain ⟨r, -, hAfter⟩ := ends_bind_done.1 hEnds
        unfold Session.afterImport at hAfter
        simp only at hAfter
        split at hAfter
        · obtain ⟨-, rfl⟩ := Prod.mk.inj hAfter
          rfl
        · obtain ⟨-, rfl⟩ := Prod.mk.inj hAfter
          rfl
  | addCommand name => contradiction
  | addParameter name value =>
    rw [run, Session.addParameter, hPending] at h
    obtain ⟨-, -, rfl⟩ := ends_done_mk.1 h
    exact hPending
  | clear =>
    obtain ⟨-, -, rfl⟩ := ends_done_mk.1 h
    rfl

end SessionCall

/-! ## Runs before a UI -/

/-- Make calls on a session one after another. What answers for the UI may remember everything that
it was asked before. -/
def Session.perform {σ : Type} (engine : Engine μ ρ) (ui : WindowRequest → StateM σ UiReply) :
    Session μ ρ → List SessionCall → StateM σ (List SessionEntry × Session μ ρ)
  | s, [] => pure ([], s)
  | s, call :: rest => do
    let (exchange, answer, next) ← (call.run engine s).overheard ui
    let (entries, last) ← next.perform engine ui rest
    pure (⟨call, exchange, answer⟩ :: entries, last)

section Performing

variable {σ : Type} {engine : Engine μ ρ} {ui : WindowRequest → StateM σ UiReply} {w after : σ}
  {s last : Session μ ρ} {calls : List SessionCall} {entries kept : List SessionEntry}

/-- **The calls of a run one by one**: the first is made, and the others on the session it leaves,
where it left the UI. -/
theorem Session.perform_cons {call : SessionCall} :
    (s.perform engine ui (call :: calls)).run w = ((entries, last), after) ↔
      ∃ exchange answer next middle rest,
        ((call.run engine s).overheard ui).run w = ((exchange, answer, next), middle) ∧
        (next.perform engine ui calls).run middle = ((rest, last), after) ∧
        entries = ⟨call, exchange, answer⟩ :: rest := by
  have hStep : (s.perform engine ui (call :: calls)).run w =
      match ((call.run engine s).overheard ui).run w with
      | ((exchange, answer, next), middle) =>
        match (next.perform engine ui calls).run middle with
        | ((rest, last), after) => ((⟨call, exchange, answer⟩ :: rest, last), after) := rfl
  rw [hStep]
  constructor
  · intro h
    cases hCall : ((call.run engine s).overheard ui).run w with
    | mk r middle =>
      obtain ⟨exchange, answer, next⟩ := r
      cases hRest : (next.perform engine ui calls).run middle with
      | mk r' after' =>
        obtain ⟨rest, last'⟩ := r'
        simp only [hCall, hRest] at h
        obtain ⟨hDone, rfl⟩ := Prod.mk.inj h
        obtain ⟨rfl, rfl⟩ := Prod.mk.inj hDone
        exact ⟨exchange, answer, next, middle, rest, rfl, hRest, rfl⟩
  · rintro ⟨exchange, answer, next, middle, rest, hCall, hRest, rfl⟩
    simp only [hCall, hRest]

/-- A call that is answered at once is no concern of the UI. -/
theorem Session.perform_cons_of_done {call : SessionCall} {answer : SessionAnswer}
    {next : Session μ ρ} (hCall : call.run engine s = .done (answer, next))
    (h : (next.perform engine ui calls).run w = ((entries, last), after)) :
    (s.perform engine ui (call :: calls)).run w = ((⟨call, [], answer⟩ :: entries, last), after) :=
  Session.perform_cons.2 ⟨[], answer, next, w, entries, by rw [hCall]; rfl, h, rfl⟩

/-- A run from which some of the rejected calls were taken out. -/
inductive Thinned : List SessionEntry → List SessionEntry → Prop
  | nil : Thinned [] []
  | keep (e : SessionEntry) {entries kept : List SessionEntry} (h : Thinned entries kept) :
      Thinned (e :: entries) (e :: kept)
  | drop (e : SessionEntry) {entries kept : List SessionEntry} (hRejected : e.answer.Rejects)
      (h : Thinned entries kept) : Thinned (e :: entries) kept

/-- **Rejected calls leave no trace.** In every session that calls can lead to and in which no
command is staged, take any calls that do not stage one, and a UI that may answer each window by all
that it was asked before. Without some of the calls that were rejected, all others have the same
answers and ask for the same windows, and the session and the UI are the same in the end. -/
theorem rejected_calls_leave_no_trace {earlier : List SessionEntry}
    (hRun : Runs engine (.fresh engine) earlier s) (hPending : s.pending = none)
    (hCalls : ∀ call ∈ calls, call.stages = false)
    (hPerform : (s.perform engine ui calls).run w = ((entries, last), after))
    (hThinned : Thinned entries kept) :
    (s.perform engine ui (kept.map (·.call))).run w = ((kept, last), after) := by
  -- call by call, from a session that can still be reached and has nothing staged
  induction calls generalizing earlier s w entries kept with
  | nil =>
    obtain ⟨hNone, -⟩ := Prod.mk.inj (Prod.mk.inj hPerform).1
    subst hNone
    cases hThinned
    exact hPerform
  | cons call rest ih =>
    obtain ⟨exchange, answer, next, middle, later, hHeard, hRest, rfl⟩ :=
      Session.perform_cons.1 hPerform
    have hEnds := (ends_of_overheard hHeard).2
    have hNext := hRun.snoc (e := ⟨call, exchange, answer⟩) hEnds
    have hEmpty : next.pending = none :=
      SessionCall.pending_of_not_stages (hCalls _ (.head _)) hPending hEnds
    have hOthers : ∀ other ∈ rest, other.stages = false := fun other hIn =>
      hCalls other (.tail _ hIn)
    cases hThinned with
    | keep _ h =>
      have hLater := ih hNext hEmpty hOthers hRest h
      exact Session.perform_cons.2 ⟨exchange, answer, next, middle, _, hHeard, hLater, rfl⟩
    | drop _ hRejected h =>
      have hLater := ih hNext hEmpty hOthers hRest h
      -- the call was answered at once, so the next one is made on the same session
      have hSame := SessionCall.run_of_rejected (hRun.settled rfl) hPending hRejected hEnds
      rw [hSame] at hHeard
      obtain ⟨hDone, rfl⟩ := Prod.mk.inj hHeard
      obtain ⟨-, hPair⟩ := Prod.mk.inj hDone
      obtain ⟨-, rfl⟩ := Prod.mk.inj hPair
      exact hLater

end Performing

/-! ## A run with rejected calls -/

/-- A UI that counts the windows it is asked for, and refuses them all. -/
def countAndRefuse (_ : WindowRequest) : StateM Nat UiReply := fun count =>
  (.error touchFault, count + 1)

/-- A call that comes after the fault. -/
def afterFault : SessionEntry :=
  ⟨.invoke "Touch" [], [], .invoked (.error (.sessionUnavailable touchFault.message))⟩

/-- An import and a command that faults, with a call of each kind that is rejected around them. -/
def mixedEntries : List SessionEntry :=
  [⟨.invoke "Touch" [], [],
      .invoked (.error (.sessionUnavailable "command module has not been imported"))⟩,
    touchImport, ⟨.invoke "toString" [], [], .invoked (.error (.commandNotFound "toString"))⟩,
    ⟨touchImport.call, [], .started (.error .alreadyInitialized)⟩, touchRun, afterFault]

theorem run_touchImport :
    touchImport.call.run touchEngine (.fresh touchEngine) =
      .done (.started (.ok ()), touchSession .ready) := by
  rw [touchImport, moduleImport, SessionCall.run, ← touchTree, startIn_touchTree]
  rfl

/-- Three of four rejected calls are left out. -/
theorem rejected_calls_leave_no_trace_touch :
    ((Session.fresh touchEngine).perform touchEngine countAndRefuse (mixedEntries.map (·.call))).run
        0 = ((mixedEntries, touchSession (.faulted touchFault.message)), 1) ∧
      Thinned mixedEntries [touchImport, touchRun, afterFault] ∧
      ((Session.fresh touchEngine).perform touchEngine countAndRefuse
          ([touchImport, touchRun, afterFault].map (·.call))).run 0 =
        (([touchImport, touchRun, afterFault], touchSession (.faulted touchFault.message)), 1) := by
  have hTouched : ((touchSession .ready).perform touchEngine countAndRefuse
      ([touchRun, afterFault].map (·.call))).run 0 =
        (([touchRun, afterFault], touchSession (.faulted touchFault.message)), 1) := rfl
  have hAll : ((Session.fresh touchEngine).perform touchEngine countAndRefuse
      (mixedEntries.map (·.call))).run 0 =
        ((mixedEntries, touchSession (.faulted touchFault.message)), 1) :=
    Session.perform_cons_of_done rfl <| Session.perform_cons_of_done run_touchImport <|
      Session.perform_cons_of_done rfl <|
      Session.perform_cons_of_done (run_start_of_ready rfl touchTree ⟨"touch"⟩) hTouched
  have hThinned : Thinned mixedEntries [touchImport, touchRun, afterFault] :=
    .drop _ (.unavailable _) <| .keep _ <| .drop _ (.unknown _) <|
      .drop _ .alreadyInitialized <| .keep _ <| .keep _ .nil
  have hUnstaged : ∀ call ∈ mixedEntries.map (·.call), call.stages = false := by
    simp [mixedEntries, SessionCall.stages, touchImport, moduleImport, touchRun, afterFault]
  exact ⟨hAll, hThinned, rejected_calls_leave_no_trace .nil rfl hUnstaged hAll hThinned⟩

end ScriptWindows
