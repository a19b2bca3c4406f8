import ScriptWindows.Proofs.Bridge.CallOrder
import ScriptWindows.Proofs.Bridge.Lifecycle
import ScriptWindows.Proofs.Bridge.ServedScripts

/-!
# One order for all clients

Many clients share one bridge, and nothing but the queue orders what they ask for. This module
shows that this order is enough: the worker takes requests up in the order in which they entered
the queue, each client's in the order of its calls, and what it replies is what one session comes
to when it runs the same commands in turn. Moves may come in any order, and the UI may answer
anything.

Main results:

* `InTurn.unique`: what commands run in turn come to depends on the answers of the UI alone.
* `BridgeWorld.Progress.move`: the worker is always where a session is that runs the requests in
  turn.
* `bridge_keeps_order`: both, of everything that moves can lead to.
-/

namespace ScriptWindows

open Dialogue

variable {μ ρ : Type}

/-! ## A session alone -/

/-- A request that was run: what the UI answered meanwhile, and what it came to. -/
structure Turn where
  accepted : Accepted
  exchange : UiExchange
  result : Except BridgeError Outcome

/-- Commands run in turn on one session. -/
inductive InTurn (engine : Engine μ ρ) (first : Session μ ρ) : List Turn → Session μ ρ → Prop
  | nil : InTurn engine first [] first
  | snoc {past : List Turn} {s next : Session μ ρ} {t : Turn} (h : InTurn engine first past s)
      (hEnds : (s.invokeCommand engine t.accepted.command).Ends t.exchange (t.result, next)) :
      InTurn engine first (past ++ [t]) next

/-- What commands run in turn come to depends on nothing but the commands and the answers of the
UI. -/
theorem InTurn.unique {engine : Engine μ ρ} {first s s' : Session μ ρ} {past past' : List Turn}
    (h : InTurn engine first past s) (h' : InTurn engine first past' s')
    (hSame : past.map (fun t => (t.accepted.command, t.exchange)) =
      past'.map fun t => (t.accepted.command, t.exchange)) :
    past.map (·.result) = past'.map (·.result) ∧ s = s' := by
  -- along both lists: one command after the other ends in the same way
  induction h generalizing past' s' with
  | nil =>
    obtain rfl : past' = [] := List.map_eq_nil_iff.1 hSame.symm
    generalize hNil : ([] : List Turn) = none at h'
    cases h' with
    | nil => exact ⟨rfl, rfl⟩
    | snoc h' hEnds' => simp at hNil
  | @snoc past s next t h hEnds ih =>
    cases h' with
    | nil => simp at hSame
    | @snoc past' middle' next' t' h' hEnds' =>
      simp only [List.map_append, List.map_cons, List.map_nil] at hSame
      obtain ⟨hPast, hLast⟩ := List.append_inj' hSame rfl
      obtain ⟨hResults, rfl⟩ := ih h' hPast
      obtain ⟨hCommand, hExchange⟩ := Prod.mk.inj (List.singleton_inj.1 hLast)
      rw [hCommand, hExchange] at hEnds
      have hValue : (t.result, next) = (t'.result, s') := Dialogue.done.inj (hEnds.unique hEnds')
      obtain ⟨hResult, rfl⟩ := Prod.mk.inj hValue
      exact ⟨by simp [hResults, hResult], rfl⟩

namespace BridgeWorld

variable {engine : Engine μ ρ} {first : Session μ ρ} {w next : BridgeWorld μ ρ}

/-! ## Progress of the worker -/

/-- The requests that are still in the queue. -/
def Waits (b : Bridge μ ρ) (queued : List Accepted) : Prop :=
  b.queue.filterMap Request.command? = queued.map fun a => (a.ticket, a.command)

/-- Where the worker is when a session has run these requests in turn. -/
def Stage (engine : Engine μ ρ) (w : BridgeWorld μ ρ) (past : List Turn) (s : Session μ ρ) : Prop :=
  match w.bridge.worker with
  | .importing _ => False
  | .idle session => session = s ∧ w.current = [] ∧ w.taken = past.map (·.accepted.ticket) ∧
    ∃ queued, w.accepted = past.map (·.accepted) ++ queued ∧ Waits w.bridge queued
  | .running ticket run => w.taken = past.map (·.accepted.ticket) ++ [ticket] ∧
    ∃ a queued, a.ticket = ticket ∧ (s.invokeCommand engine a.command).After w.current run ∧
      w.accepted = past.map (·.accepted) ++ a :: queued ∧ Waits w.bridge queued
  | .exited _ => w.taken = past.map (·.accepted.ticket) ∧ past.map (·.accepted) <+: w.accepted

/-- The worker has done what a session does that runs requests in turn. -/
structure Progress (engine : Engine μ ρ) (first : Session μ ρ) (w : BridgeWorld μ ρ)
    (past : List Turn) (s : Session μ ρ) : Prop where
  inTurn : InTurn engine first past s
  replies : w.bridge.replies = past.map fun t => (t.accepted.ticket, t.result)
  exchanges : w.exchanges = past.map (·.exchange)
  stage : Stage engine w past s

variable {past : List Turn} {s : Session μ ρ}

/-- A worker that commands have reached has imported its module. -/
theorem Progress.not_importing (h : Progress engine first w past s) :
    ∀ run, w.bridge.worker ≠ .importing run := by
  intro run hWorker
  have hStage := h.stage
  rw [Stage, hWorker] at hStage
  exact hStage

/-- What clients do beside the queue is no progress and no harm. -/
theorem Progress.of_same (h : Progress engine first w past s)
    (hSame : w.bridge.SameWork next.bridge) (hAccepted : next.accepted = w.accepted)
    (hTaken : next.taken = w.taken) (hExchanges : next.exchanges = w.exchanges)
    (hCurrent : next.current = w.current) : Progress engine first next past s := by
  have hStage := h.stage
  refine ⟨h.inTurn, hSame.replies.trans h.replies, hExchanges.trans h.exchanges, ?_⟩
  -- where the worker is depends on nothing else
  unfold Stage Waits at *
  rw [hSame.worker, hSame.queue, hAccepted, hTaken, hCurrent]
  exact hStage

/-- A request that enters the queue is the last one to be run. -/
theorem Progress.accept (h : Progress engine first w past s) (i : Nat) (state : ClientState)
    (c : PendingCommand) :
    Progress engine first (w.accept i state w.bridge.nextTicket c (w.bridge.queued c)) past s := by
  have hStage := h.stage
  refine ⟨h.inTurn, h.replies, h.exchanges, ?_⟩
  -- the request comes behind all that wait
  have hWaits : ∀ {queued : List Accepted}, Waits w.bridge queued →
      Waits (w.bridge.queued c) (queued ++ [⟨i, (w.clients i).made, w.bridge.nextTicket, c⟩]) := by
    intro queued hQueued
    rw [Waits] at hQueued
    simp [Waits, Bridge.queued, Request.command?, hQueued]
  have hSame : (w.accept i state w.bridge.nextTicket c (w.bridge.queued c)).bridge.worker =
      w.bridge.worker := rfl
  unfold Stage at *
  rw [hSame]
  cases hWorker : w.bridge.worker with
  | importing run =>
    rw [hWorker] at hStage
    exact hStage
  | idle session =>
    rw [hWorker] at hStage
    obtain ⟨rfl, hCurrent, hTaken, queued, hAccepted, hQueued⟩ := hStage
    refine ⟨rfl, hCurrent, hTaken, _, ?_, hWaits hQueued⟩
    rw [← List.append_assoc, ← hAccepted]
    rfl
  | running ticket run =>
    rw [hWorker] at hStage
    obtain ⟨hTaken, a, queued, hTicket, hAfter, hAccepted, hQueued⟩ := hStage
    refine ⟨hTaken, a, _, hTicket, hAfter, ?_, hWaits hQueued⟩
    rw [← List.cons_append, ← List.append_assoc, ← hAccepted]
    rfl
  | exited failure =>
    rw [hWorker] at hStage
    exact ⟨hStage.1, hStage.2.trans (List.prefix_append _ _)⟩

/-- The worker takes up the request that entered the queue first. -/
theorem Progress.takeUp (h : Progress engine first w past s) {session : Session μ ρ} {ticket : Nat}
    {c : PendingCommand} {rest : List Request} (hWorker : w.bridge.worker = .idle session)
    (hQueue : w.bridge.queue = .invoke ticket c :: rest) :
    Progress engine first (w.takeUp engine session ticket c rest) past s := by
  have hStage := h.stage
  rw [Stage, hWorker] at hStage
  obtain ⟨rfl, hCurrent, hTaken, queued, hAccepted, hQueued⟩ := hStage
  rw [Waits, hQueue] at hQueued
  -- the head of the queue is the first of the requests that wait
  obtain ⟨a, others, rfl, hHead, hRest⟩ := List.map_eq_cons_iff.1 hQueued.symm
  obtain ⟨rfl, rfl⟩ := Prod.mk.inj hHead
  refine ⟨h.inTurn, h.replies, h.exchanges, ?_, a, others, rfl, ?_, hAccepted, hRest.symm⟩
  · rw [← hTaken]
    rfl
  · show After _ w.current _
    rw [hCurrent]
    exact .refl _

/-- A command that has finished has come to what it comes to in a session alone. -/
theorem Progress.finish (h : Progress engine first w past s) {ticket : Nat}
    {result : Except BridgeError Outcome} {session : Session μ ρ}
    (hWorker : w.bridge.worker = .running ticket (.done (result, session))) :
    ∃ past', Progress engine first (w.finish ticket result session) past' session := by
  -- the command that ran becomes the last of those that were run
  have hStage := h.stage
  rw [Stage, hWorker] at hStage
  obtain ⟨hTaken, a, queued, rfl, hAfter, hAccepted, hQueued⟩ := hStage
  refine ⟨past ++ [⟨a, w.current, result⟩], h.inTurn.snoc (t := ⟨a, w.current, result⟩) hAfter, ?_, ?_,
    rfl, rfl, ?_, queued, ?_, hQueued⟩
  · show w.bridge.replies ++ [_] = _
    rw [h.replies, List.map_append]
    rfl
  · show w.exchanges ++ [_] = _
    rw [h.exchanges, List.map_append]
    rfl
  · show w.taken = _
    rw [hTaken, List.map_append]
    rfl
  · show w.accepted = _
    rw [hAccepted, List.map_append, List.append_assoc]
    rfl

/-- **The worker is always where a session alone would be.** -/
theorem Progress.move (h : Progress engine first w past s) (hMove : Move engine w next) :
    ∃ past' s', Progress engine first next past' s' := by
  -- the worker takes up, finishes or exits; all else is beside its work
  cases hMove with
  | accepted i state c hAlive hState => exact ⟨past, s, h.accept i state c⟩
  | refused i b hSame => exact ⟨past, s, h.of_same hSame rfl rfl rfl rfl⟩
  | blocked i c => exact ⟨past, s, h.of_same (.refl _) rfl rfl rfl rfl⟩
  | heard i number ticket result hWaiting hAnswer =>
    exact ⟨past, s, h.of_same (.refl _) rfl rfl rfl rfl⟩
  | bridged b hSame => exact ⟨past, s, h.of_same hSame rfl rfl rfl rfl⟩
  | tookUp session ticket c rest hWorker hQueue => exact ⟨past, s, h.takeUp hWorker hQueue⟩
  | finished ticket result session hWorker =>
    obtain ⟨past', hFinished⟩ := h.finish hWorker
    exact ⟨past', session, hFinished⟩
  | exited session hWorker =>
    have hStage := h.stage
    rw [Stage, hWorker] at hStage
    obtain ⟨-, -, hTaken, queued, hAccepted, -⟩ := hStage
    exact ⟨past, s, h.inTurn, h.replies, h.exchanges, hTaken, queued, hAccepted.symm⟩
  | answered ticket request resume r hWorker =>
    have hStage := h.stage
    rw [Stage, hWorker] at hStage
    obtain ⟨hTaken, a, queued, hTicket, hAfter, hAccepted, hQueued⟩ := hStage
    exact ⟨past, s, h.inTurn, h.replies, h.exchanges, hTaken, a, queued, hTicket,
      hAfter.answered r, hAccepted, hQueued⟩

/-! ## What clients hear -/

/-- What happened stays so: requests and replies only come behind others, and nothing comes of a
worker that has exited. -/
structure Grows (w next : BridgeWorld μ ρ) : Prop where
  accepted : w.accepted <+: next.accepted
  replies : w.bridge.replies <+: next.bridge.replies
  exited : w.bridge.isAlive = false →
    next.bridge.isAlive = false ∧ next.bridge.replies = w.bridge.replies

theorem Grows.of_same (hAccepted : w.accepted <+: next.accepted)
    (hWorker : next.bridge.worker = w.bridge.worker)
    (hReplies : next.bridge.replies = w.bridge.replies) : Grows w next where
  accepted := hAccepted
  replies := hReplies ▸ List.prefix_refl _
  exited := by
    intro hExited
    refine ⟨?_, hReplies⟩
    unfold Bridge.isAlive at *
    rw [hWorker]
    exact hExited

/-- A worker that moves has not exited before. -/
theorem Grows.of_alive (hAccepted : w.accepted <+: next.accepted)
    (hReplies : w.bridge.replies <+: next.bridge.replies) (hAlive : w.bridge.isAlive = true) :
    Grows w next where
  accepted := hAccepted
  replies := hReplies
  exited := by
    intro hExited
    rw [hAlive] at hExited
    contradiction

/-- No move takes back what was accepted or answered, or brings back a worker that has exited. -/
theorem Move.grows (h : Move engine w next) : Grows w next := by
  have hRefl := List.prefix_refl w.accepted
  -- only the worker replies, and only while it has not exited
  cases h with
  | accepted i state c hAlive hState => exact .of_same (List.prefix_append _ _) rfl rfl
  | refused i b hSame => exact .of_same hRefl hSame.worker hSame.replies
  | blocked i c => exact .of_same hRefl rfl rfl
  | heard i number ticket result hWaiting hAnswer => exact .of_same hRefl rfl rfl
  | bridged b hSame => exact .of_same hRefl hSame.worker hSame.replies
  | tookUp session ticket c rest hWorker hQueue =>
    exact .of_alive hRefl (List.prefix_refl _) (by rw [Bridge.isAlive, hWorker])
  | finished ticket result session hWorker =>
    exact .of_alive hRefl (List.prefix_append _ _) (by rw [Bridge.isAlive, hWorker])
  | exited session hWorker =>
    exact .of_alive hRefl (List.prefix_refl _) (by rw [Bridge.isAlive, hWorker])
  | answered ticket request resume r hWorker =>
    exact .of_alive hRefl (List.prefix_refl _) (by rw [Bridge.isAlive, hWorker])

/-- What was heard is the reply to the request that the call became, or that the worker has stopped
without one. -/
def Answered (w : BridgeWorld μ ρ) (h : Heard) : Prop :=
  ∃ a ∈ w.accepted, a.client = h.client ∧ a.number = h.number ∧
    (w.bridge.replies.lookup a.ticket = some h.result ∨
      h.result = .error .workerStopped ∧ w.bridge.isAlive = false ∧
        w.bridge.replies.lookup a.ticket = none)

/-- What a client heard stays true. -/
theorem Answered.grows {h : Heard} (hAnswered : Answered w h) (hGrows : Grows w next) :
    Answered next h := by
  obtain ⟨a, ha, hClient, hNumber, hResult⟩ := hAnswered
  -- a reply stays the first one for its ticket
  refine ⟨a, hGrows.accepted.subset ha, hClient, hNumber, ?_⟩
  rcases hResult with hReply | ⟨hStopped, hExited, hNone⟩
  · exact .inl (hGrows.replies.lookup_eq_some hReply)
  · obtain ⟨hStill, hSame⟩ := hGrows.exited hExited
    exact .inr ⟨hStopped, hStill, by rw [hSame, hNone]⟩

/-- What a client hears is the answer to its ticket. -/
theorem answered_hear (hNumbered : Numbered w) {i number ticket : Nat}
    {result : Except BridgeError Outcome} (hWaiting : (w.clients i).state = .waiting number ticket)
    (hAnswer : w.bridge.answerTo ticket = some result) : Answered w ⟨i, number, result⟩ := by
  obtain ⟨a, ha, hClient, hNumber, rfl⟩ := hNumbered.waiting i number ticket hWaiting
  refine ⟨a, ha, hClient, hNumber, ?_⟩
  -- the reply that is there is the answer, and without one the worker has exited
  unfold Bridge.answerTo at hAnswer
  split at hAnswer
  · rename_i reply hReply
    obtain rfl := Option.some.inj hAnswer
    exact .inl hReply
  · rename_i hNone
    split at hAnswer
    · contradiction
    · rename_i hExited
      obtain rfl := Option.some.inj hAnswer
      exact .inr ⟨rfl, Bool.eq_false_iff.2 hExited, hNone⟩

/-- Every move keeps what clients have heard, and adds true answers only. -/
theorem answered_move (hNumbered : Numbered w) (h : ∀ x ∈ w.heard, Answered w x)
    (hMove : Move engine w next) : ∀ x ∈ next.heard, Answered next x := by
  have hGrows := hMove.grows
  have hOld : ∀ x ∈ w.heard, Answered next x := fun x hx => (h x hx).grows hGrows
  cases hMove with
  | heard i number ticket result hWaiting hAnswer =>
    intro x hx
    rcases List.mem_append.1 hx with hBefore | hNow
    · exact hOld x hBefore
    · obtain rfl := List.mem_singleton.1 hNow
      exact (answered_hear hNumbered hWaiting hAnswer).grows hGrows
  | accepted i state c hAlive hState => exact hOld
  | refused i b hSame => exact hOld
  | blocked i c => exact hOld
  | bridged b hSame => exact hOld
  | tookUp session ticket c rest hWorker hQueue => exact hOld
  | finished ticket result session hWorker => exact hOld
  | exited session hWorker => exact hOld
  | answered ticket request resume r hWorker => exact hOld

/-! ## Everything that can be reached -/

/-- What holds of a bridge and its clients at any time. -/
structure Kept (engine : Engine μ ρ) (first : Session μ ρ) (w : BridgeWorld μ ρ) : Prop where
  numbered : Numbered w
  progress : ∃ past s, Progress engine first w past s
  answered : ∀ x ∈ w.heard, Answered w x

/-- What is kept by every step holds of every world that can be reached. -/
theorem Reachable.kept {start : BridgeWorld μ ρ} (hStart : Kept engine first start)
    (h : Reachable engine start w) : Kept engine first w := by
  -- along the moves, by what one move can do
  induction h with
  | refl => exact hStart
  | step h hStep ih =>
    obtain ⟨past, s, hProgress⟩ := ih.progress
    have hMove := hStep.move hProgress.not_importing
    exact ⟨ih.numbered.move hMove, hProgress.move hMove, answered_move ih.numbered ih.answered hMove⟩

end BridgeWorld

/-- The import of a new session asks for no window, so it is over at once. -/
theorem Session.exists_startIn (engine : Engine μ ρ) (tree : FileTree) (path : Path) :
    ∃ result first, (Session.fresh engine).startIn engine tree path = .done (result, first) :=
  (Session.fresh engine).startIn_done engine tree path

/-- A bridge that was launched has a worker with the session that was imported, and nothing to do. -/
theorem Bridge.launch_eq {engine : Engine μ ρ} {capacity : Nat} {result : Except BridgeError Unit}
    {first : Session μ ρ} {b : Bridge μ ρ}
    (h : launch engine capacity (.done (result, first)) = .ok b) :
    result = .ok () ∧ b = { capacity := max capacity 1, worker := .idle first } := by
  cases result with
  | error e => contradiction
  | ok done =>
    obtain rfl := Except.ok.inj h
    exact ⟨rfl, rfl⟩

/-- It holds of a bridge that was just launched. -/
theorem BridgeWorld.kept_launched (engine : Engine μ ρ) (first : Session μ ρ) (capacity : Nat) :
    Kept engine first { bridge := { capacity := capacity, worker := .idle first } } where
  numbered := {
    tickets := rfl
    acceptedMade := by simp
    refusedMade := by simp
    order := List.Pairwise.nil
    apart := by simp
    waiting := by simp }
  progress := ⟨[], first, .nil, rfl, rfl, rfl, rfl, rfl, [], rfl, rfl⟩
  answered := by simp

/-! ## One order -/

namespace BridgeWorld

/-- One order of all requests, that in which they entered the queue, accounts for what happened:
`turns` are those that were run, and `last` is where they leave a session alone. -/
structure OneOrder (engine : Engine μ ρ) (first : Session μ ρ) (w : BridgeWorld μ ρ)
    (turns : List Turn) (last : Session μ ρ) : Prop where
  /-- A client's requests stand in the order of its calls. -/
  calls : ∀ i, ((w.accepted.filter (·.client == i)).map (·.number)).Pairwise (· < ·)
  /-- A call that was refused is none of the requests. -/
  refused : ∀ r ∈ w.refused, ∀ a ∈ w.accepted, a.client = r.client → a.number ≠ r.number
  /-- The worker takes requests up in this order, each at most once. -/
  taken : w.taken <+: w.accepted.map (·.ticket)
  once : (w.accepted.map (·.ticket)).Nodup
  /-- The others wait in this order, while there is a worker to take them up. -/
  queued : w.bridge.isAlive = true → w.bridge.queue.filterMap Request.command? =
    (w.accepted.drop w.taken.length).map fun a => (a.ticket, a.command)
  /-- The worker runs the requests on one session, and the next one only after the last. -/
  idle : ∀ session, w.bridge.worker = .idle session → session = last ∧ w.taken.length = turns.length
  running : ∀ ticket run, w.bridge.worker = .running ticket run →
    w.taken.length = turns.length + 1 ∧ ∃ a, w.accepted[turns.length]? = some a ∧
      a.ticket = ticket ∧ (last.invokeCommand engine a.command).After w.current run
  exited : w.bridge.isAlive = false → w.taken.length = turns.length
  /-- What was run is what a session alone runs in turn, with the same answers of the UI. -/
  inTurn : InTurn engine first turns last
  only : ∀ {others : List Turn} {other : Session μ ρ}, InTurn engine first others other →
    others.map (fun t => (t.accepted.command, t.exchange)) =
      turns.map (fun t => (t.accepted.command, t.exchange)) →
    others.map (·.result) = turns.map (·.result) ∧ other = last
  ran : turns.map (·.accepted) <+: w.accepted
  exchanges : w.exchanges = turns.map (·.exchange)
  /-- What it comes to is replied. -/
  replies : w.bridge.replies = turns.map fun t => (t.accepted.ticket, t.result)
  /-- Who waits for a call hears what it comes to, or that the worker has stopped before it. -/
  heard : ∀ h ∈ w.heard,
    (∃ t ∈ turns, t.accepted.client = h.client ∧ t.accepted.number = h.number ∧
      t.result = h.result) ∨
    (h.result = .error .workerStopped ∧ w.bridge.isAlive = false ∧
      ∃ a ∈ w.accepted.drop turns.length, a.client = h.client ∧ a.number = h.number)

/-- The requests in three parts: those that were run, the one that runs if there is one, and those
that wait. Only the first two were taken up. -/
theorem Progress.parts (h : Progress engine first w past s) :
    ∃ current queued, w.accepted = past.map (·.accepted) ++ current ++ queued ∧
      w.taken = (past.map (·.accepted) ++ current).map (·.ticket) ∧
      (w.bridge.isAlive = true → Waits w.bridge queued) := by
  have hTickets : (past.map (·.accepted)).map (·.ticket) = past.map (·.accepted.ticket) :=
    List.map_map
  have hStage := h.stage
  unfold Stage at hStage
  -- by what the worker does: import, wait, run a command, or nothing any more
  split at hStage
  · exact hStage.elim
  · obtain ⟨-, -, hTaken, queued, hAccepted, hQueued⟩ := hStage
    refine ⟨[], queued, ?_, ?_, fun _ => hQueued⟩
    · rw [List.append_nil, hAccepted]
    · rw [List.append_nil, hTaken, hTickets]
  · obtain ⟨hTaken, a, queued, rfl, -, hAccepted, hQueued⟩ := hStage
    refine ⟨[a], queued, ?_, ?_, fun _ => hQueued⟩
    · rw [hAccepted, List.append_cons]
    · rw [hTaken, List.map_append, hTickets]
      rfl
  · rename_i hWorker
    obtain ⟨hTaken, queued, hAccepted⟩ := hStage
    refine ⟨[], queued, ?_, ?_, ?_⟩
    · rw [List.append_nil, hAccepted]
    · rw [List.append_nil, hTaken, hTickets]
    · -- what was queued when the worker exited is never run
      intro hAlive
      rw [Bridge.isAlive, hWorker] at hAlive
      contradiction

/-- The commands that were run are the first ones that were accepted. -/
theorem Progress.ran (h : Progress engine first w past s) :
    past.map (·.accepted) <+: w.accepted := by
  obtain ⟨current, queued, hAccepted, -, -⟩ := h.parts
  rw [hAccepted, List.append_assoc]
  exact List.prefix_append _ _

/-- Commands are taken in the order in which they were accepted. -/
theorem Progress.taken (h : Progress engine first w past s) :
    w.taken <+: w.accepted.map (·.ticket) := by
  obtain ⟨current, queued, hAccepted, hTaken, -⟩ := h.parts
  rw [hTaken, hAccepted]
  exact (List.prefix_append _ _).map _

/-- The queue of a worker that is alive holds the accepted commands that were not taken yet. -/
theorem Progress.queued (h : Progress engine first w past s) (hAlive : w.bridge.isAlive = true) :
    w.bridge.queue.filterMap Request.command? =
      (w.accepted.drop w.taken.length).map fun a => (a.ticket, a.command) := by
  obtain ⟨current, queued, hAccepted, hTaken, hQueued⟩ := h.parts
  have hRest : w.accepted.drop w.taken.length = queued := by
    rw [hAccepted, hTaken]
    exact List.drop_left' (List.length_map _).symm
  rw [hRest]
  exact hQueued hAlive

/-- An idle worker has run all that it took. -/
theorem Progress.idle (h : Progress engine first w past s) {session : Session μ ρ}
    (hWorker : w.bridge.worker = .idle session) :
    session = s ∧ w.taken.length = past.length := by
  have hStage := h.stage
  rw [Stage, hWorker] at hStage
  obtain ⟨hSession, -, hTaken, -⟩ := hStage
  exact ⟨hSession, by simp [hTaken]⟩

/-- A running worker has run all that it took but the last command. -/
theorem Progress.running (h : Progress engine first w past s) {ticket : Nat}
    {run : UiRun (Except BridgeError Outcome × Session μ ρ)}
    (hWorker : w.bridge.worker = .running ticket run) :
    w.taken.length = past.length + 1 ∧ ∃ a, w.accepted[past.length]? = some a ∧
      a.ticket = ticket ∧ (s.invokeCommand engine a.command).After w.current run := by
  have hStage := h.stage
  rw [Stage, hWorker] at hStage
  obtain ⟨hTaken, a, queued, hTicket, hAfter, hAccepted, -⟩ := hStage
  refine ⟨by simp [hTaken], a, ?_, hTicket, hAfter⟩
  rw [hAccepted, List.getElem?_append_right (by simp)]
  simp

/-- A worker that has exited has run all that it took. -/
theorem Progress.exited (h : Progress engine first w past s) (hExited : w.bridge.isAlive = false) :
    w.taken.length = past.length := by
  have hStage := h.stage
  unfold Stage at hStage
  unfold Bridge.isAlive at hExited
  split at hStage
  · exact hStage.elim
  · rename_i hWorker
    simp [hWorker] at hExited
  · rename_i hWorker
    simp [hWorker] at hExited
  · rw [hStage.1, List.length_map]

/-- What was heard is what the call comes to in a session alone. -/
theorem Answered.heard {h : Heard} (hAnswered : Answered w h) (hNumbered : Numbered w)
    (hProgress : Progress engine first w past s) :
    (∃ t ∈ past, t.accepted.client = h.client ∧ t.accepted.number = h.number ∧
      t.result = h.result) ∨
    (h.result = .error .workerStopped ∧ w.bridge.isAlive = false ∧
      ∃ a ∈ w.accepted.drop past.length, a.client = h.client ∧ a.number = h.number) := by
  obtain ⟨a, ha, hClient, hNumber, hReply | ⟨hStopped, hExited, hNone⟩⟩ := hAnswered
  · obtain ⟨before, after, hReplies, -⟩ := List.lookup_eq_some_iff.1 hReply
    have hFound : (a.ticket, h.result) ∈ w.bridge.replies := by
      rw [hReplies]
      exact List.mem_append_right _ List.mem_cons_self
    rw [hProgress.replies] at hFound
    obtain ⟨t, ht, hTurn⟩ := List.mem_map.1 hFound
    obtain ⟨hTicket, hResult⟩ := Prod.mk.inj hTurn
    -- no other request has this ticket
    have hRun := hNumbered.getElem?_ticket (hProgress.ran.subset (List.mem_map.2 ⟨t, ht, rfl⟩))
    rw [hTicket, hNumbered.getElem?_ticket ha] at hRun
    have hSame : t.accepted = a := (Option.some.inj hRun).symm
    exact .inl ⟨t, ht, by rw [hSame, hClient], by rw [hSame, hNumber], hResult⟩
  · refine .inr ⟨hStopped, hExited, a, ?_, hClient, hNumber⟩
    -- what was not run comes behind all that was
    obtain ⟨rest, hRest⟩ := hProgress.ran
    have hDrop : w.accepted.drop past.length = rest := by
      rw [← hRest]
      exact List.drop_left' (List.length_map _)
    rw [hDrop]
    rw [← hRest] at ha
    rcases List.mem_append.1 ha with hRan | hLeft
    · -- what was run has its reply
      obtain ⟨t, ht, rfl⟩ := List.mem_map.1 hRan
      have hReply : (t.accepted.ticket, t.result) ∈ w.bridge.replies := by
        rw [hProgress.replies]
        exact List.mem_map.2 ⟨t, ht, rfl⟩
      have hOther := List.lookup_eq_none_iff.1 hNone _ hReply
      simp at hOther
    · exact hLeft

/-- What every step keeps is one order of all commands. -/
theorem Kept.oneOrder (h : Kept engine first w) : ∃ turns last, OneOrder engine first w turns last := by
  obtain ⟨turns, last, hProgress⟩ := h.progress
  exact ⟨turns, last, {
    calls := h.numbered.calls
    refused := h.numbered.apart
    taken := hProgress.taken
    once := h.numbered.nodup_tickets
    queued := hProgress.queued
    idle := fun session => hProgress.idle
    running := fun ticket run => hProgress.running
    exited := hProgress.exited
    inTurn := hProgress.inTurn
    only := fun hOther => hOther.unique hProgress.inTurn
    ran := hProgress.ran
    exchanges := hProgress.exchanges
    replies := hProgress.replies
    heard := fun x hx => (h.answered x hx).heard h.numbered hProgress }⟩

end BridgeWorld

/-- **The queue is the one order of all clients' requests**, whatever moves lead there: requests
keep the order of each client's calls, the worker runs them one after another in this order, and
what it replies is what the session just imported comes to when it runs them alone. -/
theorem bridge_keeps_order {engine : Engine μ ρ} {tree : FileTree} {path : Path} {capacity : Nat}
    {b : Bridge μ ρ} {w : BridgeWorld μ ρ}
    (hLaunch : Bridge.launch engine capacity
      ((Session.fresh engine).startIn engine tree path) = .ok b)
    (hReach : BridgeWorld.Reachable engine { bridge := b } w) :
    ∃ first turns last,
      (Session.fresh engine).startIn engine tree path = .done (.ok (), first) ∧
        w.OneOrder engine first turns last := by
  obtain ⟨result, first, hImport⟩ := Session.exists_startIn engine tree path
  rw [hImport] at hLaunch
  obtain ⟨rfl, rfl⟩ := Bridge.launch_eq hLaunch
  have hKept := hReach.kept (BridgeWorld.kept_launched engine first (max capacity 1))
  obtain ⟨turns, last, hOrder⟩ := hKept.oneOrder
  exact ⟨first, turns, last, hImport, hOrder⟩

/-- One client waits for a command, another submits one meanwhile, and the first faults. -/
theorem bridge_keeps_order_touch :
    ∃ b w first turns last,
      Bridge.launch touchEngine 1 ((Session.fresh touchEngine).startIn touchEngine touchTree
        ⟨"touch"⟩) = .ok b ∧
      BridgeWorld.Reachable touchEngine { bridge := b } w ∧
      w.accepted.map (·.client) = [0, 1] ∧ w.heard = [⟨0, 0, .error touchFault⟩] ∧
      w.OneOrder touchEngine first turns last := by
  let touch : PendingCommand := { name := "Touch" }
  have hLaunch : Bridge.launch touchEngine 1 ((Session.fresh touchEngine).startIn touchEngine
      touchTree ⟨"touch"⟩) = .ok { capacity := 1, worker := .idle (touchSession .ready) } := by
    rw [startIn_touchTree]
    rfl
  let start : BridgeWorld Unit Unit :=
    { bridge := { capacity := 1, worker := .idle (touchSession .ready) } }
  have hStart : BridgeWorld.Reachable touchEngine start start := .refl
  have hReach := (((((hStart.step
    (.invoke _ 0 false touch rfl)).step
    (.work _ _ rfl)).step
    (.submit _ 1 touch rfl)).step
    (.reply _ ⟨"", ""⟩ (.error touchFault) rfl)).step
    (.work _ _ rfl)).step
    (.hear _ 0 0 0 (.error touchFault) rfl rfl)
  obtain ⟨first, turns, last, -, hOrder⟩ := bridge_keeps_order hLaunch hReach
  exact ⟨_, _, first, turns, last, hLaunch, hReach, rfl, rfl, hOrder⟩

end ScriptWindows
