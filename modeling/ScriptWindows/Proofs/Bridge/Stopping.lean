import ScriptWindows.Proofs.Bridge.Hearing

/-!
# Asking the worker to stop

A request to stop stands in the same queue as the commands, and it may be refused as they may. So
the first such request that enters the queue cuts all requests in two: those ahead of it are run,
in the order in which they entered, and those behind it never are. This module shows that the cut
is exact, and that whoever waits for a command hears of it once, whichever side it is on.

Main results:

* `BridgeWorld.Passes.flow`: what has entered the queue was taken up, or waits, or is behind the
  cut.
* `bridge_stops_at_request`: what an exited worker leaves, in any history.
-/

namespace ScriptWindows

open Dialogue

variable {μ ρ : Type}

/-! ## The cut -/

/-- The commands ahead of the first request to stop. -/
def aheadOfStop : List Request → List (Nat × PendingCommand)
  | [] => []
  | .stop :: _ => []
  | .invoke ticket c :: rest => (ticket, c) :: aheadOfStop rest

/-- Commands come ahead of whatever follows them. -/
theorem aheadOfStop_append {gone : List Request} (h : .stop ∉ gone) (rest : List Request) :
    aheadOfStop (gone ++ rest) = gone.filterMap Request.command? ++ aheadOfStop rest := by
  induction gone with
  | nil => rfl
  | cons r gone ih =>
    rw [List.mem_cons, not_or] at h
    cases r with
    | stop => exact absurd rfl h.1
    | invoke ticket c =>
      rw [List.cons_append, aheadOfStop, ih h.2]
      rfl

/-- Without a request to stop all commands are ahead. -/
theorem aheadOfStop_of_not_mem {requests : List Request} (h : .stop ∉ requests) :
    aheadOfStop requests = requests.filterMap Request.command? := by
  have hAll := aheadOfStop_append h []
  rwa [List.append_nil, aheadOfStop, List.append_nil] at hAll

/-- The commands ahead of a stop are the first ones. -/
theorem aheadOfStop_prefix_commands (requests : List Request) :
    aheadOfStop requests <+: requests.filterMap Request.command? := by
  induction requests with
  | nil => exact List.prefix_refl _
  | cons r rest ih =>
    cases r with
    | stop => exact List.nil_prefix
    | invoke ticket c => exact List.prefix_cons_inj _ |>.2 ih

namespace BridgeWorld

variable {engine : Engine μ ρ} {first : Session μ ρ} {start w next : BridgeWorld μ ρ} {act : Act}
  {past : List (Moment μ ρ)} {m : Moment μ ρ} {entered : List Request}

/-- How requests pass through the queue: while the worker is alive, those that have gone were taken
up and those that are left wait; afterwards those ahead of the cut were taken up. -/
structure Passes (entered : List Request) (w : BridgeWorld μ ρ) : Prop where
  accepted : w.accepted.map Accepted.request = entered.filterMap Request.command?
  alive : w.bridge.isAlive = true → ∃ gone, entered = gone ++ w.bridge.queue ∧ .stop ∉ gone ∧
    w.taken = (gone.filterMap Request.command?).map (·.1)
  exited : w.bridge.isAlive = false → w.taken = (aheadOfStop entered).map (·.1)

/-- **What an act does to the queue keeps this up.** -/
theorem Passes.flow (h : Passes entered m.world) (hFlow : Flow m next) :
    Passes (entered ++ m.entered) next := by
  cases hFlow with
  | joined hQueue hAlive hTaken hAccepted =>
    refine ⟨?_, ?_, ?_⟩
    · rw [hAccepted, h.accepted, List.filterMap_append]
    · intro hStill
      rw [hAlive] at hStill
      obtain ⟨gone, hEntered, hCommands, hGone⟩ := h.alive hStill
      refine ⟨gone, ?_, hCommands, hTaken.trans hGone⟩
      rw [hQueue, hEntered, List.append_assoc]
    · intro hExited
      -- nothing enters a queue that nobody takes from
      rw [hAlive] at hExited
      rw [Moment.entered_of_exited hExited, List.append_nil, hTaken, h.exited hExited]
  | took ticket c hEntered hQueue hBefore hAlive hTaken hAccepted =>
    obtain ⟨gone, hGone, hCommands, hTickets⟩ := h.alive hBefore
    rw [hEntered, List.append_nil]
    refine ⟨by rw [hAccepted, h.accepted], ?_, ?_⟩
    · intro hStill
      -- the command at the head has gone as well
      refine ⟨gone ++ [.invoke ticket c], ?_, ?_, ?_⟩
      · rw [hGone, hQueue, List.append_assoc]
        rfl
      · simp [hCommands]
      · rw [hTaken, hTickets]
        simp [Request.command?]
    · intro hExited
      rw [hAlive] at hExited
      contradiction
  | left hWork hEntered hWhy hQueue hBefore hAlive hTaken hAccepted =>
    obtain ⟨gone, hGone, hCommands, hTickets⟩ := h.alive hBefore
    rw [hEntered, List.append_nil]
    refine ⟨by rw [hAccepted, h.accepted], ?_, ?_⟩
    · intro hStill
      rw [hAlive] at hStill
      contradiction
    · intro hExited
      -- the cut is where the worker has left the queue
      have hCut : aheadOfStop m.world.bridge.queue = [] := by
        rcases hWhy with ⟨rest, hStop⟩ | ⟨hNone, -⟩
        · rw [hStop]
          rfl
        · rw [hNone]
          rfl
      rw [hTaken, hTickets, hGone, aheadOfStop_append hCommands, hCut, List.append_nil]

/-- In every history what entered the queue passes through it. -/
theorem History.passes (hStart : Kept engine first start) (hFirst : Passes [] start)
    (h : History engine start past w) : Passes (enteredIn past) w := by
  induction h with
  | nil => exact hFirst
  | snoc h act hAct ih =>
    rw [enteredIn_snoc]
    exact ih.flow (h.flow hStart hAct)

/-! ## Both sides of the cut -/

/-- The requests ahead of the first request to stop. -/
def ahead (w : BridgeWorld μ ρ) (past : List (Moment μ ρ)) : List Accepted :=
  w.accepted.take (aheadOfStop (enteredIn past)).length

/-- The requests behind it. -/
def behind (w : BridgeWorld μ ρ) (past : List (Moment μ ρ)) : List Accepted :=
  w.accepted.drop (aheadOfStop (enteredIn past)).length

/-- Every accepted command stands ahead of the stop or behind it. -/
theorem ahead_append_behind (w : BridgeWorld μ ρ) (past : List (Moment μ ρ)) :
    w.ahead past ++ w.behind past = w.accepted :=
  List.take_append_drop _ _

/-- The commands ahead of the stop are those that entered before it. -/
theorem Passes.ahead (h : Passes (enteredIn past) w) :
    (w.ahead past).map Accepted.request = aheadOfStop (enteredIn past) := by
  rw [BridgeWorld.ahead, List.map_take, h.accepted]
  exact (List.prefix_iff_eq_take.1 (aheadOfStop_prefix_commands _)).symm

/-- So are their tickets. -/
theorem Passes.tickets (h : Passes (enteredIn past) w) :
    (w.ahead past).map (·.ticket) = (aheadOfStop (enteredIn past)).map (·.1) := by
  rw [← h.ahead, List.map_map]
  rfl

/-- Without a request to stop nothing is behind. -/
theorem Passes.behind_eq_nil (h : Passes (enteredIn past) w) (hNone : .stop ∉ enteredIn past) :
    w.behind past = [] := by
  have hLength := congrArg List.length h.accepted
  rw [List.length_map] at hLength
  rw [behind, aheadOfStop_of_not_mem hNone, ← hLength, List.drop_length]

/-- The worker takes up what is ahead, in order. -/
theorem Passes.taken (h : Passes (enteredIn past) w) :
    w.taken <+: (w.ahead past).map (·.ticket) := by
  rw [h.tickets]
  cases hAlive : w.bridge.isAlive with
  | false =>
    rw [h.exited hAlive]
  | true =>
    obtain ⟨gone, hEntered, hCommands, hGone⟩ := h.alive hAlive
    rw [hGone, hEntered, aheadOfStop_append hCommands, List.map_append]
    exact List.prefix_append _ _

variable {turns : List Turn} {last : Session μ ρ}

/-- What was run is ahead. -/
theorem Passes.ran (h : Passes (enteredIn past) w)
    (hProgress : Progress engine first w turns last) :
    turns.map (·.accepted) <+: w.ahead past := by
  refine List.prefix_of_prefix_length_le hProgress.ran (List.take_prefix _ _) ?_
  have hTaken := h.taken.length_le
  obtain ⟨current, queued, -, hParts, -⟩ := hProgress.parts
  have hLength := congrArg List.length hParts
  simp only [List.length_map, List.length_append] at hTaken hLength ⊢
  omega

/-- An exited worker has run all that is ahead. -/
theorem Passes.ran_all (h : Passes (enteredIn past) w)
    (hProgress : Progress engine first w turns last) (hExited : w.bridge.isAlive = false) :
    turns.map (·.accepted) = w.ahead past := by
  refine (h.ran hProgress).eq_of_length ?_
  have hTaken := congrArg List.length (h.exited hExited)
  have hTickets := congrArg List.length h.tickets
  have hTurns := hProgress.exited hExited
  simp only [List.length_map] at hTaken hTickets ⊢
  omega

/-- No request is on both sides. -/
theorem Numbered.ticket_of_behind (h : Numbered w) {a : Accepted} (ha : a ∈ w.behind past) :
    a.ticket ∉ (w.ahead past).map (·.ticket) := by
  have hOnce := h.nodup_tickets
  rw [← ahead_append_behind w past, List.map_append] at hOnce
  intro hAhead
  exact (List.disjoint_of_nodup_append hOnce) hAhead (List.mem_map_of_mem ha)

/-- Commands are answered in the order in which they were run. -/
theorem Progress.reply_tickets (h : Progress engine first w turns last) :
    w.bridge.replies.map (·.1) = (turns.map (·.accepted)).map (·.ticket) := by
  rw [h.replies, List.map_map, List.map_map]
  rfl

/-- The answer to a request that was run is what it came to. -/
theorem Progress.answerTo (h : Progress engine first w turns last) (hNumbered : Numbered w)
    {t : Turn} (ht : t ∈ turns) : w.bridge.answerTo t.accepted.ticket = some t.result := by
  have hOnce : ((turns.map (·.accepted)).map (·.ticket)).Nodup :=
    hNumbered.nodup_tickets.sublist (h.ran.sublist.map _)
  obtain ⟨before, after, rfl⟩ := List.append_of_mem ht
  have hReplies := h.replies
  rw [List.map_append, List.map_cons] at hReplies
  refine Bridge.answerTo_of_replied (List.lookup_eq_some_iff.2 ⟨_, _, hReplies, ?_⟩)
  -- no request that was run before has this ticket
  intro reply hReply
  obtain ⟨other, hOther, rfl⟩ := List.mem_map.1 hReply
  simp only [List.map_append, List.map_cons] at hOnce
  have hApart := (List.nodup_append.1 hOnce).2.2 other.accepted.ticket
    (List.mem_map_of_mem (List.mem_map_of_mem hOther)) t.accepted.ticket List.mem_cons_self
  simpa using hApart.symm

/-- Whoever waits for a request that an exited worker has left hears that it has stopped. -/
theorem Passes.answerTo_of_behind (h : Passes (enteredIn past) w)
    (hProgress : Progress engine first w turns last) (hNumbered : Numbered w)
    (hExited : w.bridge.isAlive = false) {a : Accepted} (ha : a ∈ w.behind past) :
    w.bridge.answerTo a.ticket = some (.error .workerStopped) := by
  refine Bridge.answerTo_of_isAwaited ?_ hExited
  rw [Bridge.isAwaited, Option.isNone_iff_eq_none, List.lookup_eq_none_iff]
  intro reply hReply
  have hTicket : reply.1 ∈ (turns.map (·.accepted)).map (·.ticket) := by
    rw [← hProgress.reply_tickets]
    exact List.mem_map_of_mem hReply
  -- what was replied to is ahead
  have hAhead := ((h.ran hProgress).map (·.ticket)).subset hTicket
  have hApart : a.ticket ≠ reply.1 := by
    intro hSame
    exact hNumbered.ticket_of_behind ha (hSame ▸ hAhead)
  simpa using hApart

/-! ## What an exited worker leaves -/

/-- A call has come to its one result: its client has heard that and nothing else, or the client
waits and that is the answer that is there for it. -/
def Resolved (w : BridgeWorld μ ρ) (a : Accepted) (result : Except BridgeError Outcome) : Prop :=
  w.heardOf a = [⟨a.client, a.number, result⟩] ∧
      (∀ ticket, (w.clients a.client).state ≠ .waiting a.number ticket) ∨
    w.heardOf a = [] ∧ (w.clients a.client).state = .waiting a.number a.ticket ∧
      w.bridge.answerTo a.ticket = some result

/-- A call whose answer is there has come to that one result. -/
theorem Kept.resolved (h : Kept engine first w) {a : Accepted} (ha : a ∈ w.accepted)
    (hHears : Hears w a) {result : Except BridgeError Outcome}
    (hAnswer : w.bridge.answerTo a.ticket = some result) : Resolved w a result := by
  rcases hHears with ⟨hWaiting, hNone⟩ | ⟨hNot, heard, hOnce⟩
  · exact .inr ⟨hNone, hWaiting, hAnswer⟩
  · -- what was heard is the answer
    have hHeard := h.answerTo_of_heard ha hOnce
    rw [hAnswer] at hHeard
    obtain rfl := Option.some.inj hHeard
    exact .inl ⟨hOnce, hNot⟩

/-- The first request to stop cuts all requests in two, and the worker runs those ahead of it. -/
structure CutAtStop (engine : Engine μ ρ) (first : Session μ ρ) (past : List (Moment μ ρ))
    (w : BridgeWorld μ ρ) (turns : List Turn) (last : Session μ ρ) : Prop where
  /-- Calls became requests in the order in which they entered the queue. -/
  accepted : w.accepted.map Accepted.request = (enteredIn past).filterMap Request.command?
  ahead : (w.ahead past).map Accepted.request = aheadOfStop (enteredIn past)
  all : .stop ∉ enteredIn past → w.behind past = []
  /-- The worker takes up what is ahead, in this order, and runs it on one session. -/
  taken : w.taken <+: (w.ahead past).map (·.ticket)
  ran : turns.map (·.accepted) <+: w.ahead past
  inTurn : InTurn engine first turns last
  replies : w.bridge.replies = turns.map fun t => (t.accepted.ticket, t.result)
  /-- What is behind is neither taken up nor replied to, at any time. -/
  never : ∀ a ∈ w.behind past, a.ticket ∉ w.taken ∧ a.ticket ∉ w.bridge.replies.map (·.1)
  /-- An exited worker has run all that is ahead, and has replied to each once. -/
  exited : w.bridge.isAlive = false →
    w.taken = (w.ahead past).map (·.ticket) ∧ turns.map (·.accepted) = w.ahead past ∧
      ∀ a ∈ w.ahead past, (w.bridge.replies.map (·.1)).count a.ticket = 1
  /-- Then whoever waited for a request has its one result, its own outcome if it is ahead, and
  that the worker has stopped if it is behind. -/
  resolved : w.bridge.isAlive = false → ∀ a, InvokedIn past a →
    (∃ t ∈ turns, t.accepted = a ∧ w.Resolved a t.result) ∨
      a ∈ w.behind past ∧ w.Resolved a (.error .workerStopped)
  /-- The worker exits only when it takes a request to stop, or when the queue is empty and nobody
  is left. -/
  leaves : ∀ m ∈ past, ∀ next, m.world.perform engine m.act = some next →
    m.world.bridge.isAlive = true → next.bridge.isAlive = false → m.act = .work ∧
      ((∃ rest, m.world.bridge.queue = .stop :: rest) ∨
        m.world.bridge.queue = [] ∧ m.world.bridge.handles = 0)
  /-- While there is something in the queue, or nobody is left, the worker can move or waits for
  the UI. -/
  goesOn : w.bridge.isAlive = true → w.bridge.queue ≠ [] ∨ w.bridge.handles = 0 →
    (∃ next, w.perform engine .work = some next) ∨ ∃ request, w.bridge.wants? = some request

/-- A worker that has something to do goes on, or waits for a window. -/
theorem Kept.goesOn (h : Kept engine first w) (hAlive : w.bridge.isAlive = true)
    (hMore : w.bridge.queue ≠ [] ∨ w.bridge.handles = 0) :
    (∃ next, w.perform engine .work = some next) ∨ ∃ request, w.bridge.wants? = some request := by
  obtain ⟨turns, s, hProgress⟩ := h.progress
  have hWork : (w.bridge.step engine).isSome → ∃ next, w.perform engine .work = some next := by
    intro hMoves
    obtain ⟨b, hStep⟩ := Option.isSome_iff_exists.1 hMoves
    exact ⟨w.work b, by rw [perform, hStep]; rfl⟩
  -- a command that runs is done or waits, and an idle worker looks at the queue
  cases hWorker : w.bridge.worker with
  | importing run => exact absurd hWorker (hProgress.not_importing run)
  | exited failure =>
    rw [Bridge.isAlive, hWorker] at hAlive
    contradiction
  | running ticket run =>
    cases run with
    | done value => exact .inl (hWork (by simp [Bridge.step, hWorker]))
    | ask request resume => exact .inr ⟨request, by rw [Bridge.wants?, hWorker]⟩
  | idle session =>
    refine .inl ?_
    cases hQueue : w.bridge.queue with
    | nil =>
      have hNobody : w.bridge.handles = 0 := hMore.resolve_left fun hSome => hSome hQueue
      exact hWork (by simp [Bridge.step, hWorker, hQueue, hNobody])
    | cons r rest =>
      cases r with
      | stop => exact hWork (by simp [Bridge.step, hWorker, hQueue])
      | invoke ticket c => exact hWork (by simp [Bridge.step, hWorker, hQueue])

/-- **The cut is exact** wherever a history leads. -/
theorem History.cutAtStop (hStart : Kept engine first start) (hFirst : Passes [] start)
    (h : History engine start past w) : ∃ turns last, CutAtStop engine first past w turns last := by
  have hKept := h.reachable.kept hStart
  have hPasses := h.passes hStart hFirst
  obtain ⟨turns, last, hProgress⟩ := hKept.progress
  refine ⟨turns, last, {
    accepted := hPasses.accepted
    ahead := hPasses.ahead
    all := hPasses.behind_eq_nil
    taken := hPasses.taken
    ran := hPasses.ran hProgress
    inTurn := hProgress.inTurn
    replies := hProgress.replies
    never := ?_
    exited := ?_
    resolved := ?_
    leaves := ?_
    goesOn := hKept.goesOn }⟩
  · -- what entered behind the cut has a ticket of its own, and it was not taken up
    intro a ha
    have hApart := hKept.numbered.ticket_of_behind ha
    refine ⟨fun hTaken => hApart (hPasses.taken.subset hTaken), ?_⟩
    rw [hProgress.reply_tickets]
    exact fun hReplied => hApart (((hPasses.ran hProgress).map _).subset hReplied)
  · -- when the worker is gone, everything ahead of the cut has been run
    intro hExited
    have hRan := hPasses.ran_all hProgress hExited
    refine ⟨?_, hRan, ?_⟩
    · rw [hPasses.tickets, hPasses.exited hExited]
    · intro a ha
      have hOnce : ((w.ahead past).map (·.ticket)).Nodup :=
        hKept.numbered.nodup_tickets.sublist ((List.take_sublist _ _).map _)
      rw [hProgress.reply_tickets, hRan]
      exact List.count_eq_one_of_mem hOnce (List.mem_map_of_mem ha)
  · intro hExited a hInvoked
    obtain ⟨ha, hHears⟩ := h.hears hStart hInvoked
    -- ahead of the cut the answer is that of the turn, behind it the worker is told to be gone
    have hSide := ha
    rw [← ahead_append_behind w past, List.mem_append] at hSide
    rcases hSide with hAhead | hBehind
    · rw [← hPasses.ran_all hProgress hExited] at hAhead
      obtain ⟨t, ht, rfl⟩ := List.mem_map.1 hAhead
      exact .inl ⟨t, ht, rfl,
        hKept.resolved ha hHears (hProgress.answerTo hKept.numbered ht)⟩
    · exact .inr ⟨hBehind, hKept.resolved ha hHears
        (hPasses.answerTo_of_behind hProgress hKept.numbered hExited hBehind)⟩
  · intro m hIn next hAct hBefore hAfter
    obtain ⟨before, -, hHistory, -⟩ := h.moment hIn
    cases hHistory.flow hStart hAct with
    | joined hQueue hAlive =>
      rw [hAlive, hBefore] at hAfter
      contradiction
    | took ticket c hEntered hQueue hAliveBefore hAlive =>
      rw [hAlive] at hAfter
      contradiction
    | left hWork hEntered hWhy => exact ⟨hWork, hWhy⟩

end BridgeWorld

/-- **The first request to stop is the cut, in any history of any number of clients.** The worker
runs exactly what entered the queue ahead of it, in this order, or all requests if none entered.
An exited worker leaves each client that waits for a request with one result, and it has exited
for no other reason than a request to stop, or an empty queue and nobody left. -/
theorem bridge_stops_at_request {engine : Engine μ ρ} {tree : FileTree} {path : Path}
    {capacity : Nat} {b : Bridge μ ρ} {w : BridgeWorld μ ρ}
    {past : List (BridgeWorld.Moment μ ρ)}
    (hLaunch : Bridge.launch engine capacity
      ((Session.fresh engine).startIn engine tree path) = .ok b)
    (hPast : BridgeWorld.History engine { bridge := b } past w) :
    ∃ first turns last,
      (Session.fresh engine).startIn engine tree path = .done (.ok (), first) ∧
        BridgeWorld.CutAtStop engine first past w turns last := by
  obtain ⟨result, first, hImport⟩ := Session.exists_startIn engine tree path
  rw [hImport] at hLaunch
  obtain ⟨rfl, rfl⟩ := Bridge.launch_eq hLaunch
  have hStart := BridgeWorld.kept_launched engine first (max capacity 1)
  -- nothing has entered the queue yet, and nothing was taken up
  have hFirst : BridgeWorld.Passes []
      { bridge := { capacity := max capacity 1, worker := .idle first } } :=
    ⟨rfl, fun _ => ⟨[], rfl, List.not_mem_nil, rfl⟩, nofun⟩
  obtain ⟨turns, last, hCut⟩ := hPast.cutAtStop hStart hFirst
  exact ⟨first, turns, last, hImport, hCut⟩

/-- Two clients wait for a command each, with a request to stop between them. The first hears what
its command came to, and the second that the worker has stopped. -/
theorem bridge_stops_at_request_touch :
    ∃ b past w first turns last,
      Bridge.launch touchEngine 3 ((Session.fresh touchEngine).startIn touchEngine touchTree
        ⟨"touch"⟩) = .ok b ∧
      BridgeWorld.History touchEngine { bridge := b } past w ∧
      w.accepted.map (·.client) = [0, 1] ∧ w.taken = [0] ∧ w.bridge.isAlive = false ∧
      w.heard = [⟨0, 0, .error touchFault⟩, ⟨1, 0, .error .workerStopped⟩] ∧
      BridgeWorld.CutAtStop touchEngine first past w turns last := by
  have hStart : BridgeWorld.History touchEngine (touchWorld 3) [] (touchWorld 3) := .nil
  have hPast := ((((((((hStart.snoc
    (.invoke 0 false touchCommand) rfl).snoc
    .shutdown rfl).snoc
    (.invoke 1 false touchCommand) rfl).snoc
    .work rfl).snoc
    (.reply (.error touchFault)) rfl).snoc
    .work rfl).snoc
    .work rfl).snoc
    (.hear 0) rfl).snoc
    (.hear 1) rfl
  obtain ⟨first, turns, last, -, hCut⟩ := bridge_stops_at_request (launch_touch 3) hPast
  refine ⟨_, _, _, first, turns, last, launch_touch 3, hPast, ?_, ?_, ?_, ?_, hCut⟩
  · decide +kernel
  · decide +kernel
  · decide +kernel
  · rfl

end ScriptWindows
