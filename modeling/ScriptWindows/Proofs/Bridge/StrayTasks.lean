import Mathlib
import ScriptWindows.Bridge.Desk
import ScriptWindows.Proofs.Bridge.Lifecycle
import ScriptWindows.Proofs.Bridge.ServedScripts

/-!
# Tasks that stray off the UI thread

A window is made by a task that is posted for the UI thread. What becomes of it is up to the
dispatcher, and where a task finds itself on another thread it does nothing and the script hears
of an error. The script may catch it, go on, ask again, succeed or fail in its own way: the first
task that strayed is what the invocation comes to, and the session runs no command after that.

Main results:

* `Desk.answered_grows`, `Desk.crossingsOf_answered`: what requests for windows do to a desk, and
  which of them are answered as touches off the UI thread.
* `Streams.Served.violation`: the first of these answers is kept, whatever the script does.
* `SessionCall.strayed`: what a call in a session that is ready comes to.
* `stray_tasks_fault`: the same along every run, and what is answered ever after.
-/

namespace ScriptWindows

open Dialogue

variable {μ ρ : Type}

/-! ## Tasks -/

namespace Dispatcher

/-- How work on a thread is called when that is not the UI thread. -/
def operationOn (t : Thread) : String := "UI work on thread " ++ Text.quoted t.label

theorem wrongThread_eq (t : Thread) : wrongThread t = .crossThread (operationOn t) := rfl

/-- The thread on which a task ran, if it ran off the UI thread. -/
def stray? (d : Dispatcher) (caller : Thread) (task : Nat) : Option Thread :=
  match d.fate task caller with
  | .ran t => if d.isUi t then none else some t
  | .refused _ | .dropped => none

/-- Where tasks ran that strayed off the UI thread, in order: of the tasks that a caller posted
when so many had been posted already, until there were so many. -/
def strays (d : Dispatcher) (caller : Thread) (first last : Nat) : List Thread :=
  (List.range' first (last - first)).filterMap (d.stray? caller)

/-- A task that is refused is not refused as one that ran on another thread. -/
def RefusesPlainly (d : Dispatcher) : Prop :=
  ∀ task caller operation, d.fate task caller ≠ .refused (.crossThread operation)

/-- No task is stray where none was posted. -/
theorem strays_self (d : Dispatcher) (caller : Thread) (count : Nat) :
    d.strays caller count count = [] := by
  simp [strays]

theorem strays_succ (d : Dispatcher) (caller : Thread) (count : Nat) :
    d.strays caller count (count + 1) = (d.stray? caller count).toList := by
  have hOne : count + 1 - count = 1 := by omega
  rw [strays, hOne, List.range'_one]
  -- there is one task, which strayed or did not
  cases hStray : d.stray? caller count <;> simp [hStray]

/-- The tasks posted from one moment to another are those up to a moment between and those since. -/
theorem strays_append (d : Dispatcher) (caller : Thread) {first middle last : Nat}
    (h : first ≤ middle) (h' : middle ≤ last) :
    d.strays caller first last = d.strays caller first middle ++ d.strays caller middle last := by
  have hCount : last - first = (middle - first) + (last - middle) := by omega
  have hStart : first + (middle - first) = middle := by omega
  rw [strays, strays, strays, ← List.filterMap_append, hCount, ← List.range'_append_1, hStart]

/-- On the UI thread work is done. -/
theorem guarded_of_isUi {σ α : Type} {d : Dispatcher} {t : Thread} (h : d.isUi t = true)
    (work : Thread → StateM (Posting σ) α) (p : Posting σ) :
    (d.guarded t work).run p = (.ok ((work t).run p).1, ((work t).run p).2) := by
  simp only [guarded, leave, h]
  rfl

end Dispatcher

/-! ## Answers -/

/-- The operation that an answer names, if it tells of a touch off the UI thread. -/
def crossing? : UiReply → Option String
  | .error (.crossThread operation) => some operation
  | _ => none

/-- The touches off the UI thread that an exchange tells of, in order. -/
def crossingsOf (exchange : UiExchange) : List String :=
  exchange.filterMap fun asked => crossing? asked.2

namespace Desk

/-- What requests for windows may do to a desk: tasks are posted, and the shell is called on the UI
thread alone. -/
structure Grows (d : Dispatcher) (desk after : Desk) : Prop where
  posted : desk.posted ≤ after.posted
  calls : ∃ made, after.state = desk.state ++ made ∧ ∀ call ∈ made, d.isUi call.thread = true

theorem Grows.refl (d : Dispatcher) (desk : Desk) : Grows d desk desk :=
  ⟨Nat.le_refl _, [], (List.append_nil _).symm, by simp⟩

/-- A desk that grew twice has grown. -/
theorem Grows.trans {d : Dispatcher} {desk middle after : Desk} (h : Grows d desk middle)
    (h' : Grows d middle after) : Grows d desk after := by
  obtain ⟨hPosted, made, hCalls, hUi⟩ := h
  obtain ⟨hPosted', made', hCalls', hUi'⟩ := h'
  refine ⟨Nat.le_trans hPosted hPosted', made ++ made', ?_, ?_⟩
  · rw [hCalls', hCalls, List.append_assoc]
  · intro call hCall
    -- a call belongs to the first requests or to those after them
    rcases List.mem_append.1 hCall with hIn | hIn
    · exact hUi call hIn
    · exact hUi' call hIn

/-- What can become of a request for a window: the answer, and the desk after it. -/
inductive Requested (d : Dispatcher) (caller : Thread) (request : WindowRequest) (desk : Desk) :
    UiReply → Desk → Prop
  | inline (result : Except String Unit) (hCaller : d.isUi caller = true) :
    Requested d caller request desk (.ok result)
      { desk with state := desk.state ++ [⟨request, caller, result⟩] }
  | refused (cause : BridgeError) (hCaller : d.isUi caller = false)
      (hFate : d.fate desk.posted caller = .refused cause) :
    Requested d caller request desk (.error cause) { desk with posted := desk.posted + 1 }
  | brought (t : Thread) (result : Except String Unit) (hCaller : d.isUi caller = false)
      (hFate : d.fate desk.posted caller = .ran t) (hThread : d.isUi t = true) :
    Requested d caller request desk (.ok result)
      { posted := desk.posted + 1, state := desk.state ++ [⟨request, t, result⟩] }
  | strayed (t : Thread) (hCaller : d.isUi caller = false)
      (hFate : d.fate desk.posted caller = .ran t) (hThread : d.isUi t = false) :
    Requested d caller request desk (.error (Dispatcher.wrongThread t))
      { desk with posted := desk.posted + 1 }
  | dropped (hCaller : d.isUi caller = false) (hFate : d.fate desk.posted caller = .dropped) :
    Requested d caller request desk (.error (.uiUnavailable "UI task dropped before it ran"))
      { desk with posted := desk.posted + 1 }

section
variable {d : Dispatcher} {shell : Shell} {caller : Thread} {request : WindowRequest}
  {desk after : Desk} {reply : UiReply} {exchange : UiExchange}

/-- **What becomes of a request** is decided by the dispatcher and the shell. -/
theorem requested_of_createWindow
    (h : (createWindow d shell caller request).run desk = (reply, after)) :
    Requested d caller request desk reply after := by
  cases hCaller : d.isUi caller with
  | true =>
    rw [createWindow_of_isUi hCaller] at h
    obtain ⟨rfl, rfl⟩ := Prod.mk.inj h
    exact .inline _ hCaller
  | false =>
    -- one task is posted; the thread it runs on, if any, decides again
    rw [createWindow, Dispatcher.onUiThread_of_not_isUi hCaller] at h
    cases hFate : d.fate desk.posted caller with
    | refused cause =>
      rw [hFate] at h
      obtain ⟨rfl, rfl⟩ := Prod.mk.inj h
      exact .refused cause hCaller hFate
    | dropped =>
      rw [hFate] at h
      obtain ⟨rfl, rfl⟩ := Prod.mk.inj h
      exact .dropped hCaller hFate
    | ran t =>
      rw [hFate] at h
      cases hThread : d.isUi t with
      | true =>
        simp only [Dispatcher.guarded_of_isUi hThread] at h
        obtain ⟨rfl, rfl⟩ := Prod.mk.inj h
        exact .brought t _ hCaller hFate hThread
      | false =>
        simp only [Dispatcher.guarded_of_not_isUi hThread] at h
        obtain ⟨rfl, rfl⟩ := Prod.mk.inj h
        exact .strayed t hCaller hFate hThread

/-- A request for a window lets a desk grow, whatever becomes of it. -/
theorem Requested.grows (h : Requested d caller request desk reply after) :
    Grows d desk after := by
  cases h with
  | inline result hCaller => exact ⟨Nat.le_refl _, _, rfl, by simpa using hCaller⟩
  | brought t result hCaller hFate hThread => exact ⟨Nat.le_succ _, _, rfl, by simpa using hThread⟩
  | refused cause hCaller hFate => exact ⟨Nat.le_succ _, [], by simp, by simp⟩
  | strayed t hCaller hFate hThread => exact ⟨Nat.le_succ _, [], by simp, by simp⟩
  | dropped hCaller hFate => exact ⟨Nat.le_succ _, [], by simp, by simp⟩

/-- A request is answered as a touch off the UI thread exactly if its task strayed. -/
theorem Requested.crossing (h : Requested d caller request desk reply after)
    (hPlain : d.RefusesPlainly) :
    (crossing? reply).toList =
      (d.strays caller desk.posted after.posted).map Dispatcher.operationOn := by
  cases h with
  | inline result hCaller =>
    -- nothing was posted
    rw [Dispatcher.strays_self]
    rfl
  | refused cause hCaller hFate =>
    have hCause : crossing? (.error cause) = none := by
      unfold crossing?
      split
      · rename_i operation hSame
        -- a refusal of this kind is what the dispatcher does not give
        obtain rfl := Except.error.inj hSame
        exact absurd hFate (hPlain _ _ _)
      · rfl
    rw [Dispatcher.strays_succ, hCause, Dispatcher.stray?, hFate]
    rfl
  | brought t result hCaller hFate hThread =>
    rw [Dispatcher.strays_succ, Dispatcher.stray?, hFate]
    simp [hThread, crossing?]
  | strayed t hCaller hFate hThread =>
    rw [Dispatcher.strays_succ, Dispatcher.stray?, hFate, Dispatcher.wrongThread_eq]
    simp [hThread, crossing?]
  | dropped hCaller hFate =>
    rw [Dispatcher.strays_succ, Dispatcher.stray?, hFate]
    rfl

/-- **What requests for windows do to a desk.** -/
theorem answered_grows (h : Answered (createWindow d shell caller) desk exchange after) :
    Grows d desk after := by
  induction h with
  | nil desk => exact .refl d desk
  | cons hReply h ih => exact (requested_of_createWindow hReply).grows.trans ih

/-- **The requests that are answered as touches off the UI thread** are those whose task strayed,
in order. -/
theorem crossingsOf_answered (h : Answered (createWindow d shell caller) desk exchange after)
    (hPlain : d.RefusesPlainly) :
    crossingsOf exchange =
      (d.strays caller desk.posted after.posted).map Dispatcher.operationOn := by
  -- along the requests: the tasks of the first come before those of the rest
  induction h with
  | nil desk => rw [Dispatcher.strays_self]; rfl
  | @cons desk middle after request reply rest hReply h ih =>
    have hFirst := requested_of_createWindow hReply
    have hSplit := d.strays_append caller hFirst.grows.posted (answered_grows h).posted
    rw [hSplit, List.map_append, ← ih, ← hFirst.crossing hPlain]
    -- the first answer tells of a touch off the UI thread, or of none
    cases hCrossing : crossing? reply <;> simp [crossingsOf, hCrossing]

end

end Desk

/-! ## Commands -/

/-- What is kept of an answer: the first touch off the UI thread. -/
theorem Streams.afterWindow_violation (s : Streams ρ) (reply : UiReply) :
    (s.afterWindow reply).2.violation = s.violation.or (crossing? reply) := by
  unfold afterWindow
  split
  · simp [crossing?]
  · simp [crossing?]
  · cases s.violation <;> rfl
  · rename_i e hNot
    -- any other failure of getting to the UI thread is told to the script and forgotten
    have hNone : crossing? (.error e) = none := by
      unfold crossing?
      split
      · rename_i operation hSame
        exact absurd (Except.error.inj hSame) (hNot operation)
      · rfl
    rw [hNone, Option.or_none]

/-- **The first touch off the UI thread is kept**, whatever the script does. -/
theorem Streams.Served.violation {s after : Streams ρ} {calls : HostExchange ρ}
    {exchange : UiExchange} (h : s.Served calls exchange after) :
    after.violation = s.violation.or (crossingsOf exchange).head? := by
  -- along the calls of the script: only a window that is passed on can be answered so
  induction h with
  | done s => simp [crossingsOf]
  | writeError message h ih => exact ih
  | editRegistry edit h ih => exact ih
  | refused request hImporting h ih => exact ih
  | passed request reply hImporting h ih =>
    rw [ih, afterWindow_violation, Option.or_assoc]
    cases hCrossing : crossing? reply <;> simp [crossingsOf, hCrossing]

namespace Session

variable {s next : Session μ ρ} {c : PendingCommand} {result : Except BridgeError Outcome}

/-- A touch off the UI thread is what a command comes to, and the session is faulted. -/
theorem conclude_of_violation {execution : Execution} {memory : μ} {after : Streams ρ}
    {operation : String} (hViolation : after.violation = some operation)
    (h : (result, next) = s.conclude c execution memory after) :
    result = .error (.crossThread operation) ∧
      next.state = .faulted (BridgeError.crossThread operation).message := by
  unfold conclude at h
  simp only [hViolation] at h
  obtain ⟨rfl, rfl⟩ := Prod.mk.inj h
  exact ⟨rfl, rfl⟩

/-- Without one a command comes to something else, and the session stays as it was. -/
theorem conclude_of_clean {execution : Execution} {memory : μ} {after : Streams ρ}
    (hViolation : after.violation = none)
    (h : (result, next) = s.conclude c execution memory after) :
    (∀ operation, result ≠ .error (.crossThread operation)) ∧ next.state = s.state := by
  unfold conclude at h
  simp only [hViolation] at h
  cases execution with
  | notFound =>
    obtain ⟨rfl, rfl⟩ := Prod.mk.inj h
    exact ⟨by simp, rfl⟩
  | completed results =>
    obtain ⟨rfl, rfl⟩ := Prod.mk.inj h
    exact ⟨by simp, rfl⟩
  | failed error =>
    obtain ⟨rfl, rfl⟩ := Prod.mk.inj h
    exact ⟨by simp, rfl⟩

/-- What the running of a command comes to is decided by whether one of its requests was answered
as a touch off the UI thread. -/
theorem RunsTo.crossed {engine : Engine μ ρ} {exchange : UiExchange}
    (h : s.RunsTo engine c exchange (result, next)) (hSettled : s.Settled) :
    (∀ operation rest, crossingsOf exchange = operation :: rest →
      result = .error (.crossThread operation) ∧
        next.state = .faulted (BridgeError.crossThread operation).message) ∧
    (crossingsOf exchange = [] →
      (∀ operation, result ≠ .error (.crossThread operation)) ∧ next.state = s.state) := by
  obtain ⟨execution, memory, calls, after, hEnded, hServed, -⟩ := h.concluded
  -- nothing is kept from before this command
  have hViolation : after.violation = (crossingsOf exchange).head? := by
    rw [hServed.violation, hSettled.cleared_streams]
    rfl
  constructor
  · intro operation rest hCrossings
    rw [hCrossings] at hViolation
    exact conclude_of_violation hViolation hEnded
  · intro hCrossings
    rw [hCrossings] at hViolation
    exact conclude_of_clean (s := s.cleared) hViolation hEnded

end Session

/-! ## Calls at a desk -/

namespace SessionCall

/-- Make a call on a session, with a desk that answers its requests for windows. -/
def atDesk (engine : Engine μ ρ) (d : Dispatcher) (shell : Shell) (caller : Thread)
    (s : Session μ ρ) (call : SessionCall) : StateM Desk (SessionAnswer × Session μ ρ) :=
  Desk.answer d shell caller (call.run engine s)

variable {engine : Engine μ ρ} {d : Dispatcher} {shell : Shell} {caller : Thread}
  {s next : Session μ ρ} {call : SessionCall} {answer : SessionAnswer} {desk after : Desk}

/-- A call at a desk ends as it does for the answers of the desk. -/
theorem exists_ends_of_atDesk
    (h : (call.atDesk engine d shell caller s).run desk = ((answer, next), after)) :
    ∃ exchange, Answered (Desk.createWindow d shell caller) desk exchange after ∧
      (call.run engine s).Ends exchange (answer, next) :=
  exists_ends_of_answerWith h

/-- A call that runs no command leaves a session that is ready as it is, but for what is staged,
and asks for nothing. -/
theorem ends_of_no_command {exchange : UiExchange} (hReady : s.state = .ready)
    (hCommand : call.command? s = none) (h : (call.run engine s).Ends exchange (answer, next)) :
    exchange = [] ∧ next.state = .ready ∧
      ∀ operation, answer ≠ .invoked (.error (.crossThread operation)) := by
  cases call with
  | start tree path =>
    rw [run_start_of_ready hReady] at h
    obtain ⟨rfl, rfl, rfl⟩ := ends_done_mk.1 h
    exact ⟨rfl, hReady, by simp⟩
  | invoke name parameters => contradiction
  | invokeCommand c => contradiction
  | addCommand name =>
    obtain ⟨rfl, rfl, rfl⟩ := ends_done_mk.1 h
    exact ⟨rfl, hReady, by simp⟩
  | addParameter name value =>
    -- a command may be staged or not: only the slot can change
    rw [run, Session.addParameter] at h
    cases hPending : s.pending with
    | none =>
      rw [hPending] at h
      obtain ⟨rfl, rfl, rfl⟩ := ends_done_mk.1 h
      exact ⟨rfl, hReady, by simp⟩
    | some c =>
      rw [hPending] at h
      obtain ⟨rfl, rfl, rfl⟩ := ends_done_mk.1 h
      exact ⟨rfl, hReady, by simp⟩
  | invokePending =>
    have hPending : s.pending = none := hCommand
    rw [run, Session.invokePending, hPending] at h
    obtain ⟨rfl, rfl, rfl⟩ := ends_done_mk.1 h
    exact ⟨rfl, hReady, by simp⟩
  | clear =>
    obtain ⟨rfl, rfl, rfl⟩ := ends_done_mk.1 h
    exact ⟨rfl, hReady, by simp⟩

/-- **What a call in a session that is ready comes to**: the first task that strayed, if any did,
and else something that is no touch off the UI thread. -/
theorem strayed (hPlain : d.RefusesPlainly) (hSettled : s.Settled) (hReady : s.state = .ready)
    (h : (call.atDesk engine d shell caller s).run desk = ((answer, next), after)) :
    (∀ t rest, d.strays caller desk.posted after.posted = t :: rest →
      answer = .invoked (.error (Dispatcher.wrongThread t)) ∧
        next.state = .faulted (Dispatcher.wrongThread t).message) ∧
    (d.strays caller desk.posted after.posted = [] →
      (∀ operation, answer ≠ .invoked (.error (.crossThread operation))) ∧
        next.state = .ready) := by
  obtain ⟨exchange, hAnswered, hEnds⟩ := exists_ends_of_atDesk h
  -- tasks that strayed and answers that tell of it are the same, so the answers decide
  have hCrossings := Desk.crossingsOf_answered hAnswered hPlain
  cases hCommand : call.command? s with
  | none =>
    obtain ⟨rfl, hStill, hAnswer⟩ := ends_of_no_command hReady hCommand hEnds
    constructor
    · intro t rest hStrays
      -- nothing was asked, so no task was posted
      rw [hStrays] at hCrossings
      simp [crossingsOf] at hCrossings
    · intro _
      exact ⟨hAnswer, hStill⟩
  | some c =>
    obtain ⟨result, rfl, hRuns⟩ := runsTo_of_ready hReady hCommand hEnds
    obtain ⟨hCrossed, hClean⟩ := hRuns.crossed hSettled
    constructor
    · intro t rest hStrays
      rw [hStrays, List.map_cons] at hCrossings
      obtain ⟨rfl, hState⟩ := hCrossed _ _ hCrossings
      exact ⟨rfl, hState⟩
    · intro hStrays
      rw [hStrays, List.map_nil] at hCrossings
      obtain ⟨hResult, hState⟩ := hClean hCrossings
      refine ⟨?_, hState.trans hReady⟩
      intro operation hSame
      cases hSame
      exact hResult operation rfl

/-- A session that is faulted answers a command for the reason it was faulted for, and the desk is
left alone. -/
theorem atDesk_of_faulted {reason : String} (hFaulted : s.state = .faulted reason)
    (hCall : call.RunsCommand s) (desk : Desk) :
    (call.atDesk engine d shell caller s).run desk =
      ((.invoked (.error (.sessionUnavailable reason)), s.clear), desk) := by
  have hNotReady : s.state ≠ .ready := by simp [hFaulted]
  obtain ⟨stored, hStored, hRun⟩ :
      ∃ stored, (∀ told, s.state = .broken told ∨ s.state = .faulted told → stored = told) ∧
        call.run engine s = .done (.invoked (.error (.sessionUnavailable stored)), s.clear) :=
    run_of_ne_ready hNotReady hCall
  obtain rfl := hStored reason (.inr hFaulted)
  rw [atDesk, hRun]
  rfl

end SessionCall

/-! ## Runs at a desk -/

/-- Calls made on a session one after another, from any threads, with a desk that answers their
requests for windows. -/
inductive DeskRuns (engine : Engine μ ρ) (d : Dispatcher) (shell : Shell) (first : Session μ ρ)
    (begun : Desk) : Session μ ρ → Desk → Prop
  | nil : DeskRuns engine d shell first begun first begun
  | snoc {s next : Session μ ρ} {desk after : Desk} {caller : Thread} {call : SessionCall}
      {answer : SessionAnswer} (h : DeskRuns engine d shell first begun s desk)
      (hCall : (call.atDesk engine d shell caller s).run desk = ((answer, next), after)) :
      DeskRuns engine d shell first begun next after

namespace DeskRuns

variable {engine : Engine μ ρ} {d : Dispatcher} {shell : Shell} {first s : Session μ ρ}
  {begun desk : Desk}

/-- A run at a desk is one of the runs in which the UI may answer anything. -/
theorem runs (h : DeskRuns engine d shell first begun s desk) :
    ∃ entries, Runs engine first entries s := by
  induction h with
  | nil => exact ⟨[], .nil⟩
  | @snoc s next desk after caller call answer h hCall ih =>
    obtain ⟨entries, hRuns⟩ := ih
    obtain ⟨exchange, -, hEnds⟩ := SessionCall.exists_ends_of_atDesk hCall
    exact ⟨_, hRuns.snoc (e := ⟨call, exchange, answer⟩) hEnds⟩

/-- Along a run the shell is only called on the UI thread. -/
theorem grows (h : DeskRuns engine d shell first begun s desk) : Desk.Grows d begun desk := by
  induction h with
  | nil => exact .refl d begun
  | snoc h hCall ih =>
    obtain ⟨exchange, hAnswered, -⟩ := SessionCall.exists_ends_of_atDesk hCall
    exact ih.trans (Desk.answered_grows hAnswered)

/-- A session that is faulted stays so. -/
theorem faulted {reason : String} (h : DeskRuns engine d shell first begun s desk)
    (hFaulted : first.state = .faulted reason) : s.state = .faulted reason := by
  induction h with
  | nil => exact hFaulted
  | snoc h hCall ih =>
    obtain ⟨exchange, -, hEnds⟩ := SessionCall.exists_ends_of_atDesk hCall
    -- only a session that is ready changes its state
    obtain ⟨-, hSame | ⟨hReady, -⟩⟩ :=
      (SessionCall.comesTo_of_ends hEnds).kept (by simp [ih])
    · rw [hSame, ih]
    · rw [ih] at hReady
      contradiction

end DeskRuns

/-- **Tasks that stray off the UI thread**, in every run of a session: the shell is only called on
the UI thread. A call in a session that is ready comes to the first task that strayed while it was
running, whatever the script made of it, and the session is faulted for it and answers every
command with that ever after; if no task strayed, the call comes to something else and the session
stays ready. -/
theorem stray_tasks_fault (engine : Engine μ ρ) {d : Dispatcher} (shell : Shell)
    (hPlain : d.RefusesPlainly) {begun desk : Desk} {s : Session μ ρ}
    (hRun : DeskRuns engine d shell (.fresh engine) begun s desk) :
    (∃ made, desk.state = begun.state ++ made ∧ ∀ call ∈ made, d.isUi call.thread = true) ∧
    (s.state = .ready → ∀ caller (call : SessionCall) answer next after,
      (call.atDesk engine d shell caller s).run desk = ((answer, next), after) →
      (∀ t rest, d.strays caller desk.posted after.posted = t :: rest →
        answer = .invoked (.error (Dispatcher.wrongThread t)) ∧
        next.state = .faulted (Dispatcher.wrongThread t).message ∧
        ∀ later last, DeskRuns engine d shell next after later last →
          ∀ thread (command : SessionCall), command.RunsCommand later →
          (command.atDesk engine d shell thread later).run last =
            ((.invoked (.error (.sessionUnavailable (Dispatcher.wrongThread t).message)),
              later.clear), last)) ∧
      (d.strays caller desk.posted after.posted = [] →
        (∀ operation, answer ≠ .invoked (.error (.crossThread operation))) ∧
        next.state = .ready)) := by
  refine ⟨hRun.grows.calls, ?_⟩
  intro hReady caller call answer next after hCall
  -- no call before this one has left a touch in the streams
  obtain ⟨entries, hRuns⟩ := hRun.runs
  have hSettled : s.Settled := hRuns.settled rfl
  obtain ⟨hStrayed, hClean⟩ := SessionCall.strayed hPlain hSettled hReady hCall
  refine ⟨?_, hClean⟩
  intro t rest hStrays
  obtain ⟨hAnswer, hFaulted⟩ := hStrayed t rest hStrays
  refine ⟨hAnswer, hFaulted, ?_⟩
  intro later last hLater thread command hCommand
  exact SessionCall.atDesk_of_faulted (hLater.faulted hFaulted) hCommand last

/-! ## A dispatcher without a UI thread -/

/-- A dispatcher that runs every task at once, on a thread that is not the UI thread. -/
def inlineDispatcher : Dispatcher where
  isUi _ := false
  fate _ caller := .ran caller

def workerThread : Thread := ⟨1, some "worker"⟩

def obligingShell : Shell := fun _ _ => .ok ()

theorem inlineDispatcher_refusesPlainly : inlineDispatcher.RefusesPlainly := by
  intro task caller operation
  simp [inlineDispatcher]

theorem deskRuns_touchImport :
    DeskRuns touchEngine inlineDispatcher obligingShell (.fresh touchEngine) { state := [] }
      (touchSession .ready) { state := [] } := by
  have hImport : (touchImport.call.atDesk touchEngine inlineDispatcher obligingShell
      workerThread (.fresh touchEngine)).run { state := [] } =
        ((touchImport.answer, touchSession .ready), { state := [] }) := by
    rw [SessionCall.atDesk, touchImport, moduleImport, SessionCall.run, ← touchTree,
      startIn_touchTree]
    rfl
  exact .snoc .nil hImport

/-- The script goes on after the error, and the session is faulted all the same. -/
theorem stray_tasks_fault_inline :
    inlineDispatcher.RefusesPlainly ∧
      DeskRuns touchEngine inlineDispatcher obligingShell (.fresh touchEngine) { state := [] }
        (touchSession .ready) { state := [] } ∧
      ∃ answer next after,
        ((SessionCall.invoke "Touch" []).atDesk touchEngine inlineDispatcher obligingShell
          workerThread (touchSession .ready)).run { state := [] } = ((answer, next), after) ∧
        inlineDispatcher.strays workerThread 0 after.posted = [workerThread] ∧
        answer = .invoked (.error (Dispatcher.wrongThread workerThread)) ∧
        next.state = .faulted (Dispatcher.wrongThread workerThread).message := by
  obtain ⟨-, hReady⟩ := stray_tasks_fault touchEngine obligingShell inlineDispatcher_refusesPlainly
    deskRuns_touchImport
  have hCall : ((SessionCall.invoke "Touch" []).atDesk touchEngine inlineDispatcher obligingShell
      workerThread (touchSession .ready)).run { state := [] } =
        ((.invoked (.error (Dispatcher.wrongThread workerThread)),
          touchSession (.faulted (Dispatcher.wrongThread workerThread).message)),
            { posted := 1, state := [] }) := rfl
  have hStrays : inlineDispatcher.strays workerThread 0 1 = [workerThread] := by decide
  obtain ⟨hStrayed, -⟩ := hReady rfl workerThread _ _ _ _ hCall
  obtain ⟨hAnswer, hFaulted, -⟩ := hStrayed workerThread [] hStrays
  exact ⟨inlineDispatcher_refusesPlainly, deskRuns_touchImport, _, _, _, hCall, hStrays, hAnswer,
    hFaulted⟩

end ScriptWindows
