import ScriptWindows.Proofs.Host.BundledModule
import ScriptWindows.Proofs.Host.Courses

/-!
# Where the clicks of a host stand

A host with the module that comes with it runs the commands of its button one by one, each with one
window. So after any course of events the accepted clicks fall into three parts: those whose commands
have finished, one perhaps that the worker is at, and those that wait.

Main results:

* `InTurn.windowTurns`: commands behind the button are run one by one, with one window each.
* `Host.Course.exists_account`: where the clicks stand after any course of events.
* `Host.Course.length_add_remaining_le`: worker and event loop come to rest.
-/

namespace ScriptWindows

open Script Dialogue

/-- A window that the shell was called for, and what it said. -/
abbrev WindowCall := WindowRequest × Except String Unit

/-! ## Commands behind the button, in turn -/

/-- A command tells which window it asks for. -/
theorem Host.windowCommand_injective : Function.Injective Host.windowCommand := by
  intro request other hSame
  have hParameters : [("Message", Json.string request.message), ("Title", .string request.title)] =
      [("Message", .string other.message), ("Title", .string other.title)] :=
    congrArg PendingCommand.parameters hSame
  obtain ⟨title, message⟩ := request
  simp_all

/-- How far the command behind the button has come: it waits for its window, or it is done. -/
theorem after_window {catalog : String → Program} {request : WindowRequest} {exchange : UiExchange}
    {run : UiRun (Except BridgeError Outcome × Session Memory Routine)}
    (hAfter : (bundledSession.invokeCommand (interpreter catalog)
      (Host.windowCommand request)).After exchange run)
    (hAnswers : ∀ x ∈ exchange, ∃ result, x.2 = .ok result) :
    (exchange = [] ∧ ∃ resume, run = .ask request resume) ∨
      ∃ result, exchange = [(request, .ok result)] ∧
        run = .done (.ok (windowOutcome request result), bundledSession) := by
  obtain ⟨resume, hAsk, hResume⟩ := invokeCommand_window catalog request
  rw [hAsk] at hAfter
  cases hAfter with
  | refl => exact .inl ⟨rfl, resume, rfl⟩
  | ask hRest =>
    obtain ⟨result, hAnswer⟩ := hAnswers _ (.head _)
    simp only at hAnswer
    subst hAnswer
    rw [hResume] at hRest
    cases hRest with
    | refl => exact .inr ⟨result, rfl, rfl⟩

/-- Turns of the command behind the button, with one call of the shell each. -/
structure WindowTurns (past : List Turn) (calls : List WindowCall) : Prop where
  commands : past.map (·.accepted.command) = calls.map fun call => Host.windowCommand call.1
  exchanges : past.map (·.exchange) = calls.map fun call => [(call.1, .ok call.2)]
  results : past.map (·.result) = calls.map fun call => .ok (windowOutcome call.1 call.2)

/-- **Commands behind the button are run one by one**, with one window each, and the session stays as
it was. -/
theorem InTurn.windowTurns {catalog : String → Program} {past : List Turn}
    {s : Session Memory Routine} (h : InTurn (interpreter catalog) bundledSession past s)
    (hCommands : ∀ t ∈ past, ∃ request, t.accepted.command = Host.windowCommand request)
    (hAnswers : ∀ t ∈ past, ∀ x ∈ t.exchange, ∃ result, x.2 = .ok result) :
    s = bundledSession ∧ ∃ calls, WindowTurns past calls := by
  induction h with
  | nil => exact ⟨rfl, [], rfl, rfl, rfl⟩
  | @snoc past s next t h hEnds ih =>
    obtain ⟨rfl, calls, hTurns⟩ := ih (fun t hIn => hCommands t (List.mem_append_left _ hIn))
      (fun t hIn => hAnswers t (List.mem_append_left _ hIn))
    have hLast : t ∈ past ++ [t] := List.mem_append_right _ List.mem_cons_self
    obtain ⟨request, hCommand⟩ := hCommands t hLast
    rw [hCommand] at hEnds
    rcases after_window hEnds (hAnswers t hLast) with ⟨-, resume, hAsk⟩ | ⟨result, hExchange, hDone⟩
    · cases hAsk
    · obtain ⟨hResult, rfl⟩ := Prod.mk.inj (Dialogue.done.inj hDone)
      refine ⟨rfl, calls ++ [(request, result)], ?_, ?_, ?_⟩
      · simp [hTurns.commands, hCommand]
      · simp [hTurns.exchanges, hExchange]
      · simp [hTurns.results, hResult]

/-! ## Where a host stands -/

namespace Host

/-- How the accepted clicks stand when the commands of the first have finished with these calls: the
others wait, but for one perhaps, for which the shell has not been called yet or has been. -/
inductive Standing (clicks : List WindowRequest) (h : Host Memory Routine)
    (finished : List WindowCall) : Prop
  | idle (waiting : List WindowRequest) (hWorker : h.bridge.worker = .idle bundledSession)
      (hQueue : h.bridge.queue = [] → waiting = []) (hCalls : h.screen.calls = finished)
      (hClicks : clicks = finished.map Prod.fst ++ waiting)
  | asking (ticket : Nat) (request : WindowRequest)
      (resume : UiReply → UiRun (Except BridgeError Outcome × Session Memory Routine))
      (waiting : List WindowRequest) (hWorker : h.bridge.worker = .running ticket (.ask request resume))
      (hCalls : h.screen.calls = finished)
      (hClicks : clicks = finished.map Prod.fst ++ request :: waiting)
  | answered (ticket : Nat) (call : WindowCall)
      (done : Except BridgeError Outcome × Session Memory Routine) (waiting : List WindowRequest)
      (hWorker : h.bridge.worker = .running ticket (.done done))
      (hCalls : h.screen.calls = finished ++ [call])
      (hClicks : clicks = finished.map Prod.fst ++ call.1 :: waiting)

/-- What has become of the clicks so far. -/
structure Account (events : List HostEvent) (h : Host Memory Routine)
    (finished : List WindowCall) : Prop where
  tickets : (acceptedIn events).map Prod.fst = List.range (acceptedIn events).length
  replies : h.bridge.replies.map Prod.fst = List.range finished.length
  results : h.bridge.replies.map Prod.snd =
    finished.map fun call => .ok (windowOutcome call.1 call.2)
  standing : Standing ((acceptedIn events).map Prod.snd) h finished

variable {catalog : String → Program} {shell : Shell} {config : HostConfig}
  {events : List HostEvent} {h : Host Memory Routine} {w : BridgeWorld Memory Routine}

/-- A host that was just started has the bridge that was launched. -/
theorem follows_start (config : HostConfig) :
    Follows { bridge := (bundledStart config).bridge } [] (bundledStart config) where
  bridge := rfl
  client := rfl
  accepted := rfl
  calls := rfl
  asked := rfl
  waiting := by simp [bundledStart]
  posted := rfl
  order := rfl
  shown := rfl
  serves := .inl ⟨_, rfl⟩
  handles := by simp [bundledStart]
  going := by simp [bundledStart]

/-- The bridge of a new host keeps what every step keeps. -/
theorem kept_start (catalog : String → Program) (config : HostConfig) :
    BridgeWorld.Kept (interpreter catalog) bundledSession
      { bridge := (bundledStart config).bridge } := by
  have hLaunched := BridgeWorld.kept_launched (interpreter catalog) bundledSession
    (max config.queueCapacity 1)
  -- the button holds a clone of the first handle
  exact (BridgeWorld.Reachable.refl.step (.clone _)).kept hLaunched

theorem getElem?_of_prefix {α : Type} {first all : List α} (h : first <+: all) {i : Nat} {a : α}
    (hAt : first[i]? = some a) : all[i]? = some a := by
  obtain ⟨hLt, rfl⟩ := List.getElem?_eq_some_iff.1 hAt
  exact List.prefix_iff_getElem?.1 h i hLt

theorem eq_range_of_prefix {tickets : List Nat} {n m : Nat} (h : tickets <+: List.range n)
    (hLength : tickets.length = m) : tickets = List.range m := by
  have hTake := List.prefix_iff_eq_take.1 h
  have hLe := h.length_le
  rw [List.length_range] at hLe
  rw [hTake, List.take_range, Nat.min_eq_left hLe, hLength]

namespace Follows

/-- The accepted commands ask for the windows of the accepted clicks, in order. -/
theorem accepted_command (hFollows : Follows w events h) :
    w.accepted.map (·.command) = ((acceptedIn events).map Prod.snd).map windowCommand := by
  have hCommands := congrArg (List.map Prod.snd) hFollows.accepted
  rw [List.map_map, List.map_map] at hCommands
  rw [List.map_map]
  exact hCommands

/-- They have the tickets of these clicks. -/
theorem accepted_ticket (hFollows : Follows w events h) :
    w.accepted.map (·.ticket) = (acceptedIn events).map Prod.fst := by
  have hTickets := congrArg (List.map Prod.fst) hFollows.accepted
  rwa [List.map_map, List.map_map] at hTickets

/-- Every accepted command asks for a window. -/
theorem exists_request (hFollows : Follows w events h) {a : Accepted} (hIn : a ∈ w.accepted) :
    ∃ request, a.command = windowCommand request := by
  have hCommand : a.command ∈ w.accepted.map (·.command) := List.mem_map_of_mem hIn
  rw [hFollows.accepted_command] at hCommand
  obtain ⟨request, -, hSame⟩ := List.mem_map.1 hCommand
  exact ⟨request, hSame.symm⟩

/-- Every answer of the UI is the answer of the shell. -/
theorem exists_result (hFollows : Follows w events h) {x : WindowRequest × UiReply}
    (hIn : x ∈ w.exchanges.flatten ++ w.current) : ∃ result, x.2 = .ok result := by
  rw [hFollows.calls] at hIn
  obtain ⟨call, -, rfl⟩ := List.mem_map.1 hIn
  exact ⟨call.2, rfl⟩

/-- Behind the clicks whose commands have finished are those of the other requests. -/
theorem exists_waiting (hFollows : Follows w events h) {past : List Turn} {rest : List Accepted}
    {finished : List WindowCall} (hTurns : WindowTurns past finished)
    (hAccepted : w.accepted = past.map (·.accepted) ++ rest) :
    ∃ waiting, (acceptedIn events).map Prod.snd = finished.map Prod.fst ++ waiting ∧
      rest.map (·.command) = waiting.map windowCommand := by
  have hInjective : Function.Injective (List.map windowCommand) :=
    List.map_injective_iff.2 windowCommand_injective
  have hFinished : past.map (·.accepted.command) = (finished.map Prod.fst).map windowCommand := by
    rw [hTurns.commands, List.map_map]
    rfl
  have hCommands := hFollows.accepted_command
  rw [hAccepted, List.map_append, List.map_map] at hCommands
  obtain ⟨first, waiting, hClicks, hFirst, hWaiting⟩ := List.map_eq_append_iff.1 hCommands.symm
  obtain rfl : first = finished.map Prod.fst := hInjective (hFirst.trans hFinished)
  exact ⟨waiting, hClicks, hWaiting.symm⟩

/-- The shell was called for the commands that have finished, and then for the one that runs. -/
theorem calls_of_turns (hFollows : Follows w events h) {past : List Turn}
    {finished : List WindowCall} (hTurns : WindowTurns past finished)
    (hExchanges : w.exchanges = past.map (·.exchange)) (current : List WindowCall)
    (hCurrent : w.current = current.map fun call => (call.1, .ok call.2)) :
    h.screen.calls = finished ++ current := by
  have hInjective : Function.Injective
      fun call : WindowCall => ((call.1, .ok call.2) : WindowRequest × UiReply) := by
    rintro ⟨request, result⟩ ⟨other, result'⟩ hSame
    simpa using hSame
  have hFlat : w.exchanges.flatten = finished.map fun call => (call.1, .ok call.2) := by
    rw [hExchanges, hTurns.exchanges, ← List.flatMap_def, ← List.map_eq_flatMap]
  have hCalls := hFollows.calls
  rw [hFlat, hCurrent, ← List.map_append] at hCalls
  exact (List.map_injective_iff.2 hInjective hCalls).symm

/-- **Where a host stands** is where the session of its bridge is. -/
theorem standing (hFollows : Follows w events h) {past : List Turn} {finished : List WindowCall}
    (hProgress : BridgeWorld.Progress (interpreter catalog) bundledSession w past bundledSession)
    (hTurns : WindowTurns past finished) :
    Standing ((acceptedIn events).map Prod.snd) h finished := by
  have hStage := hProgress.stage
  unfold BridgeWorld.Stage at hStage
  rw [hFollows.bridge] at hStage
  -- a bridge that serves has no worker that imports or is gone
  cases hWorker : h.bridge.worker with
  | importing run =>
    rw [hWorker] at hStage
    exact hStage.elim
  | exited failure =>
    have hAlive := hFollows.serves.isAlive
    rw [Bridge.isAlive, hWorker] at hAlive
    contradiction
  | idle session =>
    rw [hWorker] at hStage
    obtain ⟨rfl, hCurrent, -, queued, hAccepted, hWaits⟩ := hStage
    obtain ⟨waiting, hClicks, hWaiting⟩ := hFollows.exists_waiting hTurns hAccepted
    have hCalls := hFollows.calls_of_turns hTurns hProgress.exchanges [] hCurrent
    refine .idle waiting hWorker ?_ (by simpa using hCalls) hClicks
    intro hQueue
    rw [BridgeWorld.Waits, hQueue] at hWaits
    obtain rfl : queued = [] := List.map_eq_nil_iff.1 hWaits.symm
    exact List.map_eq_nil_iff.1 hWaiting.symm
  | running ticket run =>
    rw [hWorker] at hStage
    obtain ⟨-, a, queued, -, hAfter, hAccepted, -⟩ := hStage
    obtain ⟨waiting, hClicks, hWaiting⟩ := hFollows.exists_waiting hTurns hAccepted
    obtain ⟨request, others, rfl, hCommand, -⟩ := List.map_eq_cons_iff.1 hWaiting.symm
    have hRuns : a.command = windowCommand request := hCommand.symm
    rw [hRuns] at hAfter
    have hAnswers : ∀ x ∈ w.current, ∃ result, x.2 = .ok result :=
      fun x hIn => hFollows.exists_result (List.mem_append_right _ hIn)
    -- the command of a click asks for its window once, and ends when it is answered
    rcases after_window hAfter hAnswers with ⟨hCurrent, resume, rfl⟩ | ⟨result, hCurrent, rfl⟩
    · have hCalls := hFollows.calls_of_turns hTurns hProgress.exchanges [] hCurrent
      exact .asking ticket request resume others hWorker (by simpa using hCalls) hClicks
    · have hCalls := hFollows.calls_of_turns hTurns hProgress.exchanges [(request, result)] hCurrent
      exact .answered ticket (request, result) _ others hWorker hCalls hClicks

/-- **What has become of the clicks** is what has become of the requests of the bridge. -/
theorem exists_account (hFollows : Follows w events h)
    (hKept : BridgeWorld.Kept (interpreter catalog) bundledSession w) :
    ∃ finished, Account events h finished := by
  obtain ⟨past, s, hProgress⟩ := hKept.progress
  obtain ⟨rfl, finished, hTurns⟩ := hProgress.inTurn.windowTurns
    (fun t hIn => hFollows.exists_request (hProgress.ran.subset (List.mem_map_of_mem hIn)))
    (by
      intro t hIn x hx
      refine hFollows.exists_result (List.mem_append_left _ (List.mem_flatten_of_mem ?_ hx))
      rw [hProgress.exchanges]
      exact List.mem_map_of_mem hIn)
  have hTickets := hKept.numbered.tickets
  refine ⟨finished, ?_, ?_, ?_, hFollows.standing hProgress hTurns⟩
  · rw [hFollows.accepted_ticket] at hTickets
    have hAll : (acceptedIn events).map Prod.fst <+: List.range w.bridge.nextTicket := by
      rw [hTickets]
    exact eq_range_of_prefix hAll (List.length_map _)
  · -- what has finished are the first requests
    have hFirst : (past.map (·.accepted)).map (·.ticket) <+: List.range w.bridge.nextTicket := by
      rw [← hTickets]
      exact hProgress.ran.map _
    rw [← hFollows.bridge, hProgress.replies, List.map_map]
    rw [List.map_map] at hFirst
    exact eq_range_of_prefix hFirst (by simpa using congrArg List.length hTurns.results)
  · rw [← hFollows.bridge, hProgress.replies, List.map_map, ← hTurns.results]
    rfl

end Follows

/-- **What has become of the clicks after any course of events.** -/
theorem Course.exists_account
    (hCourse : Course (interpreter catalog) shell (bundledStart config) events h) :
    ∃ w finished, Follows w events h ∧ Account events h finished := by
  obtain ⟨w, hReach, hFollows⟩ := hCourse.exists_follows (follows_start config)
  obtain ⟨finished, hAccount⟩ := hFollows.exists_account (hReach.kept (kept_start catalog config))
  exact ⟨w, finished, hFollows, hAccount⟩

namespace Account

variable {finished : List WindowCall}

/-- The windows that commands asked for are those of the first accepted clicks. -/
theorem requests (hAccount : Account events h finished) :
    finished <+: h.screen.calls ∧
      h.screen.calls.map Prod.fst <+: (acceptedIn events).map Prod.snd := by
  cases hAccount.standing with
  | idle waiting hWorker hQueue hCalls hClicks =>
    rw [hCalls, hClicks]
    exact ⟨List.prefix_refl _, List.prefix_append _ _⟩
  | asking ticket request resume waiting hWorker hCalls hClicks =>
    rw [hCalls, hClicks]
    exact ⟨List.prefix_refl _, List.prefix_append _ _⟩
  | answered ticket call done waiting hWorker hCalls hClicks =>
    refine ⟨hCalls ▸ List.prefix_append _ _, waiting, ?_⟩
    rw [hCalls, hClicks, List.map_append, List.append_cons]
    rfl

/-- There is one reply for each finished command. -/
theorem length_replies (hAccount : Account events h finished) :
    h.bridge.replies.length = finished.length := by
  simpa using congrArg List.length hAccount.replies

/-- The status of a command that has finished is that of its click. -/
theorem completed (hAccount : Account events h finished) {i : Nat}
    {reply : Nat × Except BridgeError Outcome} (hReply : h.bridge.replies[i]? = some reply) :
    ∃ (request : WindowRequest) (result : Except String Unit),
      (acceptedIn events)[i]? = some (i, request) ∧ h.screen.calls[i]? = some (request, result) ∧
        (windowStatus reply.2 = "New-ScriptUiWindow completed" ↔ result = .ok ()) := by
  obtain ⟨hCalls, hClicks⟩ := hAccount.requests
  -- the reply comes from the call of the shell at its place
  have hResult : (finished.map fun call => Except.ok (windowOutcome call.1 call.2))[i]? =
      some reply.2 := by
    rw [← hAccount.results, List.getElem?_map, hReply]
    rfl
  rw [List.getElem?_map, Option.map_eq_some_iff] at hResult
  obtain ⟨⟨request, result⟩, hCall, hOutcome⟩ := hResult
  have hMade : h.screen.calls[i]? = some (request, result) := getElem?_of_prefix hCalls hCall
  -- and the call is for the click at this place
  have hClick : ((acceptedIn events).map Prod.snd)[i]? = some request := by
    refine getElem?_of_prefix hClicks ?_
    rw [List.getElem?_map, hMade]
    rfl
  rw [List.getElem?_map, Option.map_eq_some_iff] at hClick
  obtain ⟨⟨ticket, clicked⟩, hAccepted, rfl⟩ := hClick
  have hTicket : ((acceptedIn events).map Prod.fst)[i]? = some ticket := by
    rw [List.getElem?_map, hAccepted]
    rfl
  rw [hAccount.tickets] at hTicket
  obtain ⟨hLt, hSame⟩ := List.getElem?_eq_some_iff.1 hTicket
  rw [List.getElem_range] at hSame
  subst hSame
  refine ⟨clicked, result, hAccepted, hMade, ?_⟩
  rw [← hOutcome]
  exact windowStatus_completed_iff clicked result

/-- A host that rests has served all its clicks. -/
theorem settled (hAccount : Account events h finished) (hFollows : Follows w events h)
    (hWorker : h.workerStep (interpreter catalog) = none) (hTasks : h.tasks = []) :
    h.screen.calls.map Prod.fst = (acceptedIn events).map Prod.snd ∧
      h.bridge.replies.length = (acceptedIn events).length := by
  have hLength : ((acceptedIn events).map Prod.snd).length = (acceptedIn events).length :=
    List.length_map _
  have hStep := hWorker
  cases hAccount.standing with
  | idle waiting hIdle hQueue hCalls hClicks =>
    have hEmpty : h.bridge.queue = [] := by
      -- a worker that has nothing to do takes up what is queued
      cases hQueued : h.bridge.queue with
      | nil => rfl
      | cons r rest => cases r <;> simp [workerStep, Bridge.wants?, Bridge.step, hIdle, hQueued] at hStep
    obtain rfl := hQueue hEmpty
    rw [List.append_nil] at hClicks
    rw [hCalls, ← hLength, hClicks, hAccount.length_replies, List.length_map]
    exact ⟨rfl, rfl⟩
  | asking ticket request resume waiting hRunning hCalls hClicks =>
    -- the window it waits for is among the tasks, or the next step posts it
    have hWants : h.bridge.wants? = some request := by rw [Bridge.wants?, hRunning]
    cases hAsked : h.asked with
    | true =>
      have hPosted := hFollows.asked
      simp [hTasks, hAsked, hWants] at hPosted
    | false => simp [workerStep, hWants, hAsked] at hStep
  | answered ticket call done waiting hRunning hCalls hClicks =>
    simp [workerStep, Bridge.wants?, Bridge.step, hRunning] at hStep

/-- While a command waits for its window, the shell was called for those that have finished. -/
theorem length_calls (hAccount : Account events h finished) {ticket : Nat} {request : WindowRequest}
    {resume : UiReply → UiRun (Except BridgeError Outcome × Session Memory Routine)}
    (hWorker : h.bridge.worker = .running ticket (.ask request resume)) :
    h.screen.calls.length = h.bridge.replies.length := by
  rw [hAccount.length_replies]
  cases hAccount.standing with
  | idle waiting hIdle hQueue hCalls hClicks => simp [hIdle] at hWorker
  | asking ticket request resume waiting hRunning hCalls hClicks => rw [hCalls]
  | answered ticket call done waiting hRunning hCalls hClicks => simp [hRunning] at hWorker

/-- **Worker and event loop come closer to their end with every step.** -/
theorem remaining_lt {e : HostEvent} {next : Host Memory Routine} {finished' : List WindowCall}
    (hAccount : Account events h finished) (hFollows : Follows w events h)
    (hNext : Account (events ++ [e]) next finished')
    (hHappens : Happens (interpreter catalog) shell h e next) (hStep : e.isStep = true) :
    next.remaining < h.remaining := by
  cases hHappens with
  | click request => contradiction
  | close place => contradiction
  | work hWork =>
    cases hFollows.moved_of_workerStep hWork with
    | asked request hWants hAsked =>
      -- only a command that runs waits for a window
      rcases hFollows.serves with ⟨session, hIdle⟩ | ⟨ticket, run, hRunning⟩
      · simp [Bridge.wants?, hIdle] at hWants
      · cases run with
        | done value => simp [Bridge.wants?, hRunning] at hWants
        | ask asked resume =>
          simp only [remaining, post, hRunning, hAsked, stepsAhead, List.length_append,
            List.length_singleton]
          simp
          omega
    | tookUp session ticket c rest hWorker hQueue =>
      have hAsked : h.asked = false := hFollows.not_asked (by rw [Bridge.wants?, hWorker])
      have hLe := stepsAhead_running_le ticket (session.invokeCommand (interpreter catalog) c)
      simp only [remaining, hWorker, hQueue, hAsked, List.length_cons]
      omega
    | finished ticket result session hWorker =>
      simp only [remaining, Bridge.finishCommand, hWorker, stepsAhead, List.length_append,
        List.length_singleton]
      omega
  | @loop _ task rest hTasks hLoop =>
    cases task with
    | setStatus text =>
      rw [loopStep, hTasks] at hLoop
      obtain rfl := Option.some.inj hLoop
      simp [remaining, hTasks]
    | releaseClosed =>
      rw [loopStep, hTasks] at hLoop
      obtain rfl := Option.some.inj hLoop
      simp [remaining, hTasks]
    | createWindow request =>
      rw [loopStep_createWindow hTasks] at hLoop
      obtain rfl := Option.some.inj hLoop
      obtain ⟨hAsked, -, ticket, resume, hRunning⟩ := hFollows.wants_of_posted hTasks
      obtain ⟨hCalls, -⟩ := h.screen.calls_createWindow shell request
      have hBefore := hAccount.length_calls hRunning
      rw [Bridge.answer_of_running hRunning] at hNext ⊢
      generalize h.screen.createWindow shell request = made at hCalls hNext ⊢
      cases hRest : resume (.ok made.1) with
      | done value =>
        simp only [remaining, stepsAhead, hRunning, hAsked, hTasks, List.length_cons, if_true]
        omega
      | ask other resume' =>
        -- one window is all that the command asks for
        rw [hRest] at hNext
        have hAfter : made.2.calls.length = h.bridge.replies.length := hNext.length_calls rfl
        rw [hCalls, List.length_append, List.length_singleton] at hAfter
        omega

end Account

/-- **Worker and event loop come to rest**, if nothing else happens. -/
theorem Course.length_add_remaining_le {more : List HostEvent} {last : Host Memory Routine}
    (hCourse : Course (interpreter catalog) shell (bundledStart config) events h)
    (hMore : Course (interpreter catalog) shell h more last)
    (hSteps : ∀ e ∈ more, e.isStep = true) : more.length + last.remaining ≤ h.remaining := by
  induction hMore with
  | nil => simp
  | snoc hMore hHappens ih =>
    have hBefore := hCourse.trans hMore
    obtain ⟨w, finished, hFollows, hAccount⟩ := hBefore.exists_account
    obtain ⟨-, finished', -, hNext⟩ := (hBefore.snoc hHappens).exists_account
    have hLess := hAccount.remaining_lt hFollows hNext hHappens
      (hSteps _ (List.mem_append_right _ List.mem_cons_self))
    have hLe := ih fun e hIn => hSteps e (List.mem_append_left _ hIn)
    rw [List.length_append, List.length_singleton]
    omega

end Host

end ScriptWindows
