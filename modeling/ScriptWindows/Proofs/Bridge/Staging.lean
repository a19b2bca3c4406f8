import Mathlib
import ScriptWindows.Proofs.Bridge.Lifecycle
import ScriptWindows.Proofs.Json.FieldOrder

/-!
# Commands that are staged

A command can be staged by its name, be given one parameter after another, and then be run; or it
can be given at once with all its parameters. Both go through one slot, which a session in any state
may have something in. They come to the same: the same answer, the same session, and the same
windows, whatever the UI answers. The slot is empty after a command was run, even if it was not
found, threw, or was not run at all.

Main results:

* `LastValues.eq_sortFields`: parameters set one after another come to one map.
* `Session.stage_eq`: staging a command succeeds in every state.
* `staged_command_runs_as_given`: a staged command runs as one that is given at once, and no
  parameter outlasts the command it was staged for.
-/

namespace ScriptWindows

open Dialogue

variable {μ ρ : Type}

/-! ## Parameters set one after another -/

/-- What parameters that are set one after another come to: each name once, in order, with the value
that it was set to last. -/
structure LastValues (given : List (String × Json)) (parameters : Parameters) : Prop where
  inOrder : Json.InOrder parameters
  last (name : String) : parameters.lookup name = given.reverse.lookup name

theorem lastValues_sortFields (given : List (String × Json)) :
    LastValues given (Json.sortFields given) :=
  ⟨Json.inOrder_sortFields given, Json.lookup_sortFields given⟩

theorem LastValues.eq_sortFields {given : List (String × Json)} {parameters : Parameters}
    (h : LastValues given parameters) : parameters = Json.sortFields given := by
  refine h.inOrder.ext (Json.inOrder_sortFields given) ?_
  intro name
  rw [h.last, Json.lookup_sortFields]

namespace PendingCommand

/-- A command built with its parameters set one after another. -/
def built (name : String) (given : List (String × Json)) : PendingCommand :=
  given.foldl (fun c p => c.parameter p.1 p.2) { name }

theorem built_concat (name : String) (given : List (String × Json)) (p : String × Json) :
    built name (given ++ [p]) = (built name given).parameter p.1 p.2 := by
  rw [built, List.foldl_append]
  rfl

theorem built_eq (name : String) (given : List (String × Json)) :
    built name given = ⟨name, Json.sortFields given⟩ := by
  induction given using List.reverseRecOn with
  | nil => rfl
  | append_singleton given p ih => rw [built_concat, ih, Json.sortFields_concat, parameter]

end PendingCommand

namespace Session

/-! ## Staging -/

/-- Stage a command and set its parameters one after another. -/
def stage (s : Session μ ρ) (name : String) (given : List (String × Json)) :
    Except BridgeError (Session μ ρ) :=
  given.foldlM (fun staged p => staged.addParameter p.1 p.2) (s.addCommand name)

/-- Staging succeeds in every state, and changes the slot alone. -/
theorem stage_eq (s : Session μ ρ) (name : String) (given : List (String × Json)) :
    s.stage name given = .ok { s with pending := some (.built name given) } := by
  induction given using List.reverseRecOn with
  | nil => rfl
  | append_singleton given p ih =>
    rw [stage, List.foldlM_append, ← stage, ih, PendingCommand.built_concat]
    rfl

/-! ## The slot -/

/-- What was staged before makes no difference to a command that is given at once. -/
theorem invokeCommand_pending (s : Session μ ρ) (pending : Option PendingCommand)
    (engine : Engine μ ρ) (c : PendingCommand) :
    { s with pending := pending }.invokeCommand engine c = s.invokeCommand engine c := by
  have hSame : { s with pending := pending }.unavailable? = s.unavailable? := rfl
  rw [invokeCommand, invokeCommand, hSame]
  -- the slot is emptied before the command is run, and also if it is not
  cases s.unavailable? with
  | some e => rfl
  | none => rfl

theorem pending_conclude (s : Session μ ρ) (c : PendingCommand) (execution : Execution)
    (memory : μ) (streams : Streams ρ) :
    (s.conclude c execution memory streams).2.pending = s.pending := by
  unfold conclude
  simp only
  split
  · rfl
  · split <;> rfl

theorem pending_invokeCommand {s next : Session μ ρ} {engine : Engine μ ρ} {c : PendingCommand}
    {exchange : UiExchange} {result : Except BridgeError Outcome}
    (h : (s.invokeCommand engine c).Ends exchange (result, next)) : next.pending = none := by
  rw [invokeCommand] at h
  cases hReason : s.unavailable? with
  | some e =>
    rw [hReason] at h
    obtain ⟨-, -, rfl⟩ := ends_done_mk.1 h
    rfl
  | none =>
    rw [hReason] at h
    simp only at h
    rw [runCommand_eq] at h
    obtain ⟨r, -, hConclude⟩ := ends_bind_done.1 h
    have hPending := s.cleared.pending_conclude c r.1.1 r.1.2 r.2
    rw [hConclude] at hPending
    exact hPending

end Session

/-! ## Calls that run commands -/

/-- Whether a call is one of those that run a command. -/
def SessionCall.isInvocation : SessionCall → Bool
  | .invoke .. | .invokeCommand _ | .invokePending => true
  | .start .. | .addCommand _ | .addParameter .. | .clear => false

theorem SessionCall.pending_of_ends {engine : Engine μ ρ} {s next : Session μ ρ}
    {call : SessionCall} {exchange : UiExchange} {answer : SessionAnswer}
    (hCall : call.isInvocation = true) (h : (call.run engine s).Ends exchange (answer, next)) :
    next.pending = none := by
  cases call with
  | invoke name parameters =>
    obtain ⟨result, hEnds, rfl⟩ := ends_bind_done_mk.1 h
    exact Session.pending_invokeCommand hEnds
  | invokeCommand c =>
    obtain ⟨result, hEnds, rfl⟩ := ends_bind_done_mk.1 h
    exact Session.pending_invokeCommand hEnds
  | invokePending =>
    obtain ⟨result, hEnds, rfl⟩ := ends_bind_done_mk.1 h
    rw [Session.invokePending] at hEnds
    cases hPending : s.pending with
    | none =>
      rw [hPending] at hEnds
      obtain ⟨-, -, rfl⟩ := ends_done_mk.1 hEnds
      exact hPending
    | some c =>
      rw [hPending] at hEnds
      exact Session.pending_invokeCommand hEnds
  | start tree path => contradiction
  | addCommand name => contradiction
  | addParameter name value => contradiction
  | clear => contradiction

/-- **A staged command runs as one that is given at once.** In every state of a session, and
whatever is in its slot: a command that is staged by its name and given parameters, some of them
perhaps more than once, comes to the same as one call with the map of the values that were set last,
made after the slot was emptied, and to the same as the command that was built beforehand. The
answer, the session with the memory of its scripts, and the windows asked for are all the same. Each
call that runs a command leaves the slot empty, and what was in it before makes no difference to a
command that is given at once. -/
theorem staged_command_runs_as_given (engine : Engine μ ρ) (s : Session μ ρ) :
    (∀ (name : String) (given : List (String × Json)),
      ∃ staged, s.stage name given = .ok staged ∧
        (∃! parameters, LastValues given parameters) ∧
        (∀ parameters, LastValues given parameters →
          staged.invokePending engine = s.clear.invoke engine name parameters) ∧
        staged.invokePending engine = s.invokeCommand engine (.built name given)) ∧
      (∀ (call : SessionCall) (exchange : UiExchange) (answer : SessionAnswer)
        (next : Session μ ρ), call.isInvocation = true →
        (call.run engine s).Ends exchange (answer, next) → next.pending = none) ∧
      ∀ (pending : Option PendingCommand) (c : PendingCommand),
        { s with pending := pending }.invokeCommand engine c = s.invokeCommand engine c := by
  refine ⟨?_, fun _ _ _ _ => SessionCall.pending_of_ends,
    fun pending c => s.invokeCommand_pending pending engine c⟩
  intro name given
  refine ⟨_, s.stage_eq name given, ?_, ?_, s.invokeCommand_pending _ engine _⟩
  · exact ⟨_, lastValues_sortFields given, fun _ h => h.eq_sortFields⟩
  · rintro parameters h
    obtain rfl := h.eq_sortFields
    calc { s with pending := some (.built name given) }.invokePending engine
      _ = s.invokeCommand engine (.built name given) := s.invokeCommand_pending _ engine _
      _ = s.invokeCommand engine ⟨name, Json.sortFields given⟩ := by
        rw [PendingCommand.built_eq]
      _ = s.clear.invoke engine name (Json.sortFields given) :=
        (s.invokeCommand_pending none engine _).symm

/-- A command is staged in the place of another one, and a parameter is set again. -/
theorem staged_command_runs_as_given_touch :
    ∃ staged, ((touchSession .ready).addCommand "Other").stage "Touch"
        [("a", .null), ("b", .null), ("a", .bool true)] = .ok staged ∧
      staged.invokePending touchEngine = (touchSession .ready).clear.invoke touchEngine "Touch"
        [("a", .bool true), ("b", .null)] ∧
      ∃ next, (SessionCall.invokePending.run touchEngine staged).Ends touchRun.exchange
        (touchRun.answer, next) ∧ next.pending = none := by
  obtain ⟨hStaging, -⟩ :=
    staged_command_runs_as_given touchEngine ((touchSession .ready).addCommand "Other")
  obtain ⟨staged, hStaged, -, hGiven, -⟩ :=
    hStaging "Touch" [("a", .null), ("b", .null), ("a", .bool true)]
  have hRun := hGiven [("a", .bool true), ("b", .null)] (lastValues_sortFields _)
  -- the window is refused, which leaves the session faulted
  have hEnds : (SessionCall.invokePending.run touchEngine staged).Ends touchRun.exchange
      (touchRun.answer, touchSession (.faulted touchFault.message)) := by
    rw [SessionCall.run, hRun]
    exact .ask (.refl _)
  obtain ⟨-, hSlot, -⟩ := staged_command_runs_as_given touchEngine staged
  exact ⟨staged, hStaged, hRun, _, hEnds, hSlot _ _ _ _ rfl hEnds⟩

end ScriptWindows
