import ScriptWindows.Host.EventLoop
import ScriptWindows.Proofs.Bridge.Lifecycle
import ScriptWindows.Proofs.Bridge.ServedScripts
import ScriptWindows.Script.Modules

/-!
# What an invocation reports

The errors of an outcome are what the command reported while it ran, and after that the error that
ended it. Nothing that another script reported is among them, whichever way that script ended.
Only where a script has taken the registry away is there no command to report anything; then the
one error says so. This is told of registries that can be looked in without running a script. With
an accessor or a proxy in its place the looking itself could report errors, and throw, before there
is a command.

Main results:

* `Session.reported_of_runsTo`: what the running of a command reports.
* `invocation_reports`: the outcome of every invocation in every run, and its status line.
-/

namespace ScriptWindows

open Dialogue

variable {μ ρ : Type}

/-! ## One invocation -/

/-- The outcome of a command in a session: the command returned, it ended in an error, or there was
no registry to look for it in. -/
inductive Session.Reported (engine : Engine μ ρ) (s : Session μ ρ) (c : PendingCommand)
    (exchange : UiExchange) : Outcome → Prop
  | returned {routine : ρ} {calls : HostExchange ρ} {results : List Json} {memory : μ}
      {after : Streams ρ}
      (hFind : s.streams.registry.find c.name = .ok (some routine))
      (hCall : (engine.call routine c.parameters s.memory).Ends calls (.ok results, memory))
      (hServed : s.cleared.streams.Served calls exchange after) :
      Reported engine s c exchange ⟨results, !(reportsOf calls).isEmpty, reportsOf calls⟩
  | ended {routine : ρ} {calls : HostExchange ρ} {error : CommandError} {memory : μ}
      {after : Streams ρ}
      (hFind : s.streams.registry.find c.name = .ok (some routine))
      (hCall : (engine.call routine c.parameters s.memory).Ends calls (.error error, memory))
      (hServed : s.cleared.streams.Served calls exchange after) :
      Reported engine s c exchange ⟨[], true, reportsOf calls ++ [error]⟩
  | unsearchable {kind : String} (hReplaced : s.streams.registry = .replaced kind)
      (hExchange : exchange = []) :
      Reported engine s c exchange
        ⟨[], true, [⟨Registry.wrongKind kind "object", false⟩]⟩

/-- An outcome is only told if no window was touched off the UI thread, and of a command that was
found. -/
theorem Session.conclude_ok {s next : Session μ ρ} {c : PendingCommand} {execution : Execution}
    {memory : μ} {after : Streams ρ} {outcome : Outcome}
    (h : (Except.ok outcome, next) = s.conclude c execution memory after) :
    (∃ results, execution = .completed results ∧
        outcome = ⟨results, !after.errors.isEmpty, after.errors⟩) ∨
      ∃ error, execution = .failed error ∧ outcome = ⟨[], true, after.errors ++ [error]⟩ := by
  unfold conclude at h
  simp only at h
  split at h
  · simp at h
  · cases execution with
    | notFound => simp at h
    | completed results =>
      obtain ⟨hOutcome, -⟩ := Prod.mk.inj h
      exact .inl ⟨results, rfl, Except.ok.inj hOutcome⟩
    | failed error =>
      obtain ⟨hOutcome, -⟩ := Prod.mk.inj h
      exact .inr ⟨error, rfl, Except.ok.inj hOutcome⟩

/-- **What the running of a command reports.** -/
theorem Session.reported_of_runsTo {engine : Engine μ ρ} {s next : Session μ ρ}
    {c : PendingCommand} {exchange : UiExchange} {outcome : Outcome}
    (h : s.RunsTo engine c exchange (.ok outcome, next)) :
    s.Reported engine c exchange outcome := by
  -- an outcome stands for results or for an error, and how the command was run tells which
  cases h with
  | unsearchable kind hReplaced hExchange hEnded =>
    rcases conclude_ok hEnded with ⟨results, hCompleted, -⟩ | ⟨error, hFailed, rfl⟩
    · contradiction
    · cases hFailed
      exact .unsearchable hReplaced hExchange
  | unknown hFind hExchange hEnded =>
    rcases conclude_ok hEnded with ⟨results, hCompleted, -⟩ | ⟨error, hFailed, -⟩ <;> contradiction
  | called routine calls result memory after hFind hCall hServed hEnded =>
    -- the errors were forgotten before the command was called
    have hErrors : after.errors = reportsOf calls := hServed.errors
    cases result with
    | ok results =>
      rcases conclude_ok hEnded with ⟨results, hCompleted, rfl⟩ | ⟨error, hFailed, -⟩
      · cases hCompleted
        rw [hErrors]
        exact .returned hFind hCall hServed
      · contradiction
    | error error =>
      rcases conclude_ok hEnded with ⟨results, hCompleted, -⟩ | ⟨error, hFailed, rfl⟩
      · contradiction
      · cases hFailed
        rw [hErrors]
        exact .ended hFind hCall hServed

theorem Session.Reported.hadErrors_iff {engine : Engine μ ρ} {s : Session μ ρ} {c : PendingCommand}
    {exchange : UiExchange} {outcome : Outcome} (h : s.Reported engine c exchange outcome) :
    outcome.hadErrors = true ↔ outcome.errors ≠ [] := by
  cases h <;> simp

/-! ## The status line -/

/-- The status line of an outcome that counts its errors says that the command completed, or tells
the first error. -/
theorem statusOf_ok {outcome : Outcome} (h : outcome.hadErrors = true ↔ outcome.errors ≠ [])
    (name : String) :
    statusOf name (.ok outcome) =
      match outcome.errors with
      | [] => name ++ " completed"
      | error :: _ => name ++ " failed: " ++ error.message := by
  unfold statusOf
  simp only
  cases hErrors : outcome.errors with
  | nil =>
    rw [if_neg]
    simp [h, hErrors]
  | cons error rest =>
    rw [if_pos]
    simp [h, hErrors]

/-- What tells of a failure reads like no status that goes on in another way. -/
theorem failed_ne {other : String} (h : other.toList.take 2 ≠ [' ', 'f']) (name message : String) :
    name ++ " failed: " ++ message ≠ name ++ other := by
  intro hSame
  have hOther : " failed: ".toList ++ message.toList = other.toList := by
    have hChars := congrArg String.toList hSame
    rw [String.toList_append, String.toList_append, String.toList_append, List.append_assoc] at hChars
    exact List.append_cancel_left hChars
  exact h (by rw [← hOther]; rfl)

theorem statusOf_completed_iff {outcome : Outcome}
    (h : outcome.hadErrors = true ↔ outcome.errors ≠ []) (name : String) :
    statusOf name (.ok outcome) = name ++ " completed" ↔ outcome.errors = [] := by
  rw [statusOf_ok h]
  cases outcome.errors with
  | nil => simp
  | cons error rest =>
    have hFailed : name ++ " failed: " ++ error.message ≠ name ++ " completed" :=
      failed_ne (by decide) name error.message
    simpa using hFailed

/-- The status line never stops at saying that there are errors. -/
theorem statusOf_ne_reported {outcome : Outcome}
    (h : outcome.hadErrors = true ↔ outcome.errors ≠ []) (name : String) :
    statusOf name (.ok outcome) ≠ name ++ " reported errors" := by
  rw [statusOf_ok h]
  cases outcome.errors with
  | nil => simp
  | cons error rest => exact failed_ne (by decide) name error.message

/-! ## Every invocation -/

/-- **What an invocation reports**, wherever it stands in a run. Its errors are the reports of the
command it ran, in order, and after them the error that ended the command, or the one error that
there was no registry to look in; they come from nothing that ran before. -/
theorem invocation_reports (engine : Engine μ ρ) {earlier later : List SessionEntry}
    {e : SessionEntry} {s : Session μ ρ} {outcome : Outcome}
    (hRun : Runs engine (.fresh engine) (earlier ++ e :: later) s)
    (hAnswer : e.answer = .invoked (.ok outcome)) :
    (∃ t c, Runs engine (.fresh engine) earlier t ∧ e.call.command? t = some c ∧
      t.Reported engine c e.exchange outcome) ∧
    (outcome.hadErrors = true ↔ outcome.errors ≠ []) ∧
    ∀ name, (statusOf name (.ok outcome) = name ++ " completed" ↔ outcome.errors = []) ∧
      statusOf name (.ok outcome) ≠ name ++ " reported errors" := by
  obtain ⟨t, next, hEarlier, hEnds⟩ := hRun.at_call
  -- only a command that was run can be answered by an outcome
  obtain ⟨c, hCommand, hReported⟩ : ∃ c, e.call.command? t = some c ∧
      t.Reported engine c e.exchange outcome := by
    rw [hAnswer] at hEnds
    cases SessionCall.comesTo_of_ends hEnds with
    | idle pending hNext hNone => exact absurd rfl (hNone outcome)
    | imports tree path result hOpened hStarted => contradiction
    | runs c result hReady hCommand hInvoked hRuns =>
      cases hInvoked
      exact ⟨c, hCommand, Session.reported_of_runsTo hRuns⟩
  have hCounted := hReported.hadErrors_iff
  exact ⟨⟨t, c, hEarlier, hCommand, hReported⟩, hCounted,
    fun name => ⟨statusOf_completed_iff hCounted name, statusOf_ne_reported hCounted name⟩⟩

/-! ## Modules of one command -/

section OneCommand

open Script

/-- An engine that knows the script of a module with one command. -/
def oneCommand (script name : String) (body : List Statement) : Engine Memory Routine :=
  interpreter (knowing script (giving [(name, .routine body)]))

/-- The session after a module of one command was imported, and perhaps changed the registry. -/
def oneCommandSession (name : String) (registry : Registry Routine) : Session Memory Routine where
  state := .ready
  commands := [name]
  streams := { registry := registry }
  memory := {}

/-- The import of a module with one command. -/
theorem runs_oneCommand (script name : String) (body : List Statement) :
    Runs (oneCommand script name body) (.fresh (oneCommand script name body))
      [moduleImport script] (oneCommandSession name (.table [(name, ⟨body⟩)] true)) := by
  have hExports : (giving [(name, .routine body)]).exports = pure [(name, .routine ⟨body⟩)] := by
    show (pure (listed [(name, .routine ⟨body⟩)]) : Run (List (String × Exported Routine))) = _
    rw [listed_singleton]
  refine runs_moduleImport ?_
  rw [Session.importModule, oneCommand, evaluate_knowing, hExports]
  rfl

/-- The script of a command that reports an error and throws another. -/
def reportScript : String :=
  "exports.Report = () => \x7b host.writeError(\"first\"); throw new Error(\"last\"); \x7d;\n"

/-- What the command does. -/
def reportAndThrow : List Statement :=
  [.writeError [textExpr "first"], .throwError (textExpr "last")]

/-- The engine that knows this script. -/
def reportEngine : Engine Memory Routine := oneCommand reportScript "Report" reportAndThrow

def reportRun : SessionEntry where
  call := .invoke "Report" []
  exchange := []
  answer := .invoked (.ok ⟨[], true, [⟨"first", false⟩, ⟨"last", true⟩]⟩)

/-- The command is run after the import. -/
theorem runs_report :
    Runs reportEngine (.fresh reportEngine) [moduleImport reportScript, reportRun]
      (oneCommandSession "Report" (.table [("Report", ⟨reportAndThrow⟩)] true)) :=
  (runs_oneCommand reportScript "Report" reportAndThrow).snoc (e := reportRun) (.refl _)

theorem invocation_reports_thrown :
    Runs reportEngine (.fresh reportEngine) [moduleImport reportScript, reportRun]
        (oneCommandSession "Report" (.table [("Report", ⟨reportAndThrow⟩)] true)) ∧
      ∀ name, statusOf name (.ok ⟨[], true, [⟨"first", false⟩, ⟨"last", true⟩]⟩) ≠
        name ++ " completed" := by
  have hRun : Runs reportEngine (.fresh reportEngine)
      ([moduleImport reportScript] ++ reportRun :: []) _ := runs_report
  refine ⟨runs_report, fun name hCompleted => ?_⟩
  have hStatus := (invocation_reports _ hRun rfl).2.2 name
  simpa using hStatus.1.1 hCompleted

/-- The script of a command that puts something else in the place of the registry. -/
def wipeScript : String := "exports.Wipe = () => \x7b globalThis.__scriptui_commands = null; \x7d;\n"

/-- What the command does. -/
def wipe : List Statement := [.replaceRegistry "null"]

/-- The engine that knows this script. -/
def wipeEngine : Engine Memory Routine := oneCommand wipeScript "Wipe" wipe

def wipeRun : SessionEntry where
  call := .invoke "Wipe" []
  exchange := []
  answer := .invoked (.ok ⟨[], false, []⟩)

/-- **An outcome has an error although nothing ran**: where the registry is gone, there is no
command to call, and that is what the outcome reports. -/
theorem invocation_reports_unsearchable :
    Runs wipeEngine (.fresh wipeEngine) [moduleImport wipeScript, wipeRun]
        (oneCommandSession "Wipe" (.replaced "null")) ∧
      (∀ routine, (oneCommandSession "Wipe" (.replaced "null")).streams.registry.find "Wipe" ≠
        .ok (some routine)) ∧
      (SessionCall.invoke "Wipe" []).run wipeEngine (oneCommandSession "Wipe" (.replaced "null")) =
        .done (.invoked (.ok
            ⟨[], true, [⟨"Error converting from js 'null' into type 'object'", false⟩]⟩),
          oneCommandSession "Wipe" (.replaced "null")) := by
  have hImport := runs_oneCommand wipeScript "Wipe" wipe
  refine ⟨hImport.snoc (e := wipeRun) (.refl _), ?_, rfl⟩
  intro routine
  simp [oneCommandSession, Registry.find]

end OneCommand

end ScriptWindows
