import ScriptWindows.Proofs.Bridge.Histories

/-!
# Submissions that are refused

A submission never waits. It is refused if the queue is full, which is counted, or if the worker
has exited. This module shows that the count is exact, whoever submits and whatever else moves,
and that a refusal is all that becomes of a refused command.

Main results:

* `Bridge.submit_answers`: what a submission is answered.
* `BridgeWorld.History.bounded`: the queue never holds more than it can.
* `BridgeWorld.History.counted`: the count tells how often the queue was found full.
* `bridge_counts_refusals`: all of this for any history of a bridge that was launched.
-/

namespace ScriptWindows

variable {μ ρ : Type}

/-! ## One submission -/

/-- **What a submission is answered**: that the queue is full, or that the worker has stopped, or
the ticket of the command. -/
theorem Bridge.submit_answers {b : Bridge μ ρ} (hBounded : b.queue.length ≤ b.capacity)
    (c : PendingCommand) :
    ((b.submit c).1 = .error (.queueFull b.capacity) ↔
      b.isAlive = true ∧ b.queue.length = b.capacity) ∧
    ((b.submit c).1 = .error .workerStopped ↔ b.isAlive = false) ∧
    ∀ e, (b.submit c).1 = .error e → e = .queueFull b.capacity ∨ e = .workerStopped := by
  rcases b.room_cases with ⟨hAlive, hRoom⟩ | ⟨hAlive, hFull⟩ | hExited
  · rw [submit_of_room hAlive hRoom]
    have hNotFull : b.queue.length ≠ b.capacity := Nat.ne_of_lt hRoom
    simp [hAlive, hNotFull]
  · rw [submit_of_full hAlive hFull]
    have hExactly : b.queue.length = b.capacity := Nat.le_antisymm hBounded hFull
    simp [hAlive, hExactly]
  · rw [submit_of_exited hExited]
    simp [hExited]

namespace BridgeWorld

variable {engine : Engine μ ρ} {start w next : BridgeWorld μ ρ} {act : Act}
  {past : List (Moment μ ρ)} {m : Moment μ ρ}

/-- A world in which a call of a client was refused. Of the bridge only the count has changed, and
of the clients only the one that called. -/
def turnAway (w : BridgeWorld μ ρ) (i dropped : Nat) : BridgeWorld μ ρ :=
  { w.setClient i ⟨.idle, (w.clients i).made + 1⟩ with
    bridge := { w.bridge with dropped := dropped }
    refused := w.refused ++ [⟨i, (w.clients i).made⟩] }

/-- **A submission that is refused** changes nothing but the count, and the count only if the queue
was full. -/
theorem submit_of_refused {i : Nat} {c : PendingCommand} {e : BridgeError}
    (h : (w.bridge.submit c).1 = .error e) :
    w.submit i c =
      w.turnAway i (w.bridge.dropped + if e = .queueFull w.bridge.capacity then 1 else 0) := by
  rw [submit]
  rcases w.bridge.room_cases with ⟨hAlive, hRoom⟩ | ⟨hAlive, hFull⟩ | hExited
  · rw [Bridge.submit_of_room hAlive hRoom] at h
    contradiction
  · rw [Bridge.submit_of_full hAlive hFull] at h ⊢
    obtain rfl := Except.error.inj h
    rw [if_pos rfl]
    rfl
  · rw [Bridge.submit_of_exited hExited] at h ⊢
    obtain rfl := Except.error.inj h
    rw [if_neg (by simp)]
    rfl

/-! ## The count -/

/-- Whether an act is a submission that was answered that the queue is full. -/
def Moment.foundFull (m : Moment μ ρ) : Bool :=
  match m.act with
  | .submit _ c =>
    match (m.world.bridge.submit c).1 with
    | .error (.queueFull _) => true
    | _ => false
  | _ => false

/-- A count that an act leaves alone. -/
structure Uncounted (b other : Bridge μ ρ) : Prop where
  capacity : other.capacity = b.capacity
  dropped : other.dropped = b.dropped

/-- Shutting down refuses no command. -/
theorem uncounted_shutdown (b : Bridge μ ρ) : Uncounted b b.shutdown := by
  rw [Bridge.shutdown]
  rcases b.room_cases with ⟨hAlive, hRoom⟩ | ⟨hAlive, hFull⟩ | hExited
  · rw [Bridge.offer_of_room hAlive hRoom]
    exact ⟨rfl, rfl⟩
  · rw [Bridge.offer_of_full hAlive hFull]
    exact ⟨rfl, rfl⟩
  · rw [Bridge.offer_of_exited hExited]
    exact ⟨rfl, rfl⟩

/-- Nor does waiting for room for a stop. -/
theorem uncounted_requestStop {b after : Bridge μ ρ} (h : b.requestStop = some after) :
    Uncounted b after := by
  rw [Bridge.requestStop] at h
  rcases b.room_cases with ⟨hAlive, hRoom⟩ | ⟨hAlive, hFull⟩ | hExited
  · rw [Bridge.offer_of_room hAlive hRoom] at h
    obtain rfl := Option.some.inj h
    exact ⟨rfl, rfl⟩
  · rw [Bridge.offer_of_full hAlive hFull] at h
    contradiction
  · rw [Bridge.offer_of_exited hExited] at h
    obtain rfl := Option.some.inj h
    exact ⟨rfl, rfl⟩

/-- Nor does a step of the worker. -/
theorem uncounted_step {b after : Bridge μ ρ} (h : b.step engine = some after) :
    Uncounted b after := by
  unfold Bridge.step at h
  split at h
  · rename_i result session hWorker
    obtain rfl := Option.some.inj h
    cases result with
    | error e => exact ⟨rfl, rfl⟩
    | ok done => exact ⟨rfl, rfl⟩
  · obtain rfl := Option.some.inj h
    exact ⟨rfl, rfl⟩
  · contradiction
  · contradiction
  · contradiction
  · -- an idle worker takes a command up, or it exits
    split at h
    · obtain rfl := Option.some.inj h
      exact ⟨rfl, rfl⟩
    · obtain rfl := Option.some.inj h
      exact ⟨rfl, rfl⟩
    · split at h
      · obtain rfl := Option.some.inj h
        exact ⟨rfl, rfl⟩
      · contradiction

/-- Nor does an answer of the UI. -/
theorem uncounted_answer (b : Bridge μ ρ) (r : UiReply) : Uncounted b (b.answer r) := by
  unfold Bridge.answer
  split
  · exact ⟨rfl, rfl⟩
  · exact ⟨rfl, rfl⟩
  · exact ⟨rfl, rfl⟩

/-- An invocation that cannot be queued is not counted either. -/
theorem uncounted_invoke (w : BridgeWorld μ ρ) (i : Nat) (onUi : Bool) (c : PendingCommand) :
    Uncounted w.bridge (w.invoke i onUi c).bridge := by
  rw [invoke]
  rcases w.bridge.invoke_cases onUi c with ⟨-, hOk⟩ | hFull | ⟨e, hError⟩
  · rw [hOk]
    exact ⟨rfl, rfl⟩
  · rw [hFull]
    exact ⟨rfl, rfl⟩
  · rw [hError]
    exact ⟨rfl, rfl⟩

/-- What an act adds to the count. -/
structure Counts (m : Moment μ ρ) (next : BridgeWorld μ ρ) : Prop where
  capacity : next.bridge.capacity = m.world.bridge.capacity
  dropped : next.bridge.dropped = m.world.bridge.dropped + if m.foundFull then 1 else 0

/-- What refuses nothing keeps the count. -/
theorem Uncounted.counts (h : Uncounted m.world.bridge next.bridge) (hElse : m.foundFull = false) :
    Counts m next :=
  ⟨h.capacity, by rw [h.dropped, hElse]; rfl⟩

/-- A submission is counted if it finds the queue full. -/
theorem counts_submit (w : BridgeWorld μ ρ) (i : Nat) (c : PendingCommand) :
    Counts ⟨w, .submit i c⟩ (w.submit i c) := by
  rcases w.bridge.room_cases with ⟨hAlive, hRoom⟩ | ⟨hAlive, hFull⟩ | hExited
  · have hAnswer := Bridge.submit_of_room hAlive hRoom c
    refine Uncounted.counts ?_ (by simp [Moment.foundFull, hAnswer])
    rw [submit, hAnswer]
    exact ⟨rfl, rfl⟩
  · have hAnswer := Bridge.submit_of_full hAlive hFull c
    have hFound : Moment.foundFull ⟨w, .submit i c⟩ = true := by simp [Moment.foundFull, hAnswer]
    rw [submit, hAnswer]
    exact ⟨rfl, by rw [hFound]; rfl⟩
  · have hAnswer := Bridge.submit_of_exited hExited c
    refine Uncounted.counts ?_ (by simp [Moment.foundFull, hAnswer])
    rw [submit, hAnswer]
    exact ⟨rfl, rfl⟩

/-- **An act adds to the count** exactly if it is a submission that found the queue full. -/
theorem Counts.of_perform (h : w.perform engine act = some next) : Counts ⟨w, act⟩ next := by
  cases Performed.of_perform h with
  | submit i c hIdle => exact counts_submit w i c
  | invoke i onUi c hIdle => exact (uncounted_invoke w i onUi c).counts rfl
  | retry i c hBlocked => exact (uncounted_invoke w i false c).counts rfl
  | hear i number ticket result hWaiting hAnswer => exact Uncounted.counts ⟨rfl, rfl⟩ rfl
  | clone => exact Uncounted.counts ⟨rfl, rfl⟩ rfl
  | release => exact Uncounted.counts ⟨rfl, rfl⟩ rfl
  | shutdown => exact (uncounted_shutdown w.bridge).counts rfl
  | stop b hStop => exact (uncounted_requestStop hStop).counts rfl
  | work b hStep =>
    refine Uncounted.counts ?_ rfl
    rw [bridge_work]
    exact uncounted_step hStep
  | reply request r hWants => exact (uncounted_answer w.bridge r).counts rfl

/-! ## Any history -/

/-- **The count tells how often the queue was found full.** -/
theorem History.counted (h : History engine start past w) :
    w.bridge.capacity = start.bridge.capacity ∧
      w.bridge.dropped = start.bridge.dropped + past.countP Moment.foundFull := by
  induction h with
  | nil => exact ⟨rfl, rfl⟩
  | snoc h act hAct ih =>
    obtain ⟨hCapacity, hDropped⟩ := Counts.of_perform hAct
    refine ⟨hCapacity.trans ih.1, ?_⟩
    rw [hDropped, ih.2, List.countP_append, List.countP_singleton, Nat.add_assoc]

/-- An act lets a request in only if there is room for it. -/
theorem Moment.length_entered (h : m.world.bridge.queue.length ≤ m.world.bridge.capacity) :
    (m.world.bridge.queue ++ m.entered).length ≤ m.world.bridge.capacity := by
  rcases m.world.bridge.room_cases with ⟨hAlive, hRoom⟩ | ⟨hAlive, hFull⟩ | hExited
  · have hOne : m.entered.length ≤ 1 := by
      cases hOffered : m.offered? with
      | none => simp [Moment.entered_of_none hOffered]
      | some r => simp [Moment.entered_of_room hOffered hAlive hRoom]
    rw [List.length_append]
    omega
  · rwa [Moment.entered_of_full hAlive hFull, List.append_nil]
  · rwa [Moment.entered_of_exited hExited, List.append_nil]

/-- **The queue never holds more than it can.** -/
theorem History.bounded {first : Session μ ρ} (hStart : Kept engine first start)
    (hBounded : start.bridge.queue.length ≤ start.bridge.capacity)
    (h : History engine start past w) : w.bridge.queue.length ≤ w.bridge.capacity := by
  induction h with
  | nil => exact hBounded
  | @snoc past w next h act hAct ih =>
    have hCapacity := (Counts.of_perform hAct).capacity
    have hRoom := Moment.length_entered (m := ⟨w, act⟩) ih
    rw [hCapacity]
    cases h.flow hStart hAct with
    | joined hQueue => rwa [hQueue]
    | took ticket c hEntered hQueue =>
      have hLength : w.bridge.queue.length = next.bridge.queue.length + 1 :=
        congrArg List.length hQueue
      show _ ≤ w.bridge.capacity
      omega
    | left hWork hEntered hWhy hQueue => simp [hQueue]

/-- What was refused stays refused. -/
theorem refused_of_perform {first : Session μ ρ} (hKept : Kept engine first w)
    (h : w.perform engine act = some next) : w.refused <+: next.refused := by
  obtain ⟨turns, s, hProgress⟩ := hKept.progress
  have hRefl := List.prefix_refl w.refused
  cases (Step.of_perform h).move hProgress.not_importing with
  | refused i b hSame => exact List.prefix_append _ _
  | accepted i state c hAlive hState => exact hRefl
  | blocked i c => exact hRefl
  | heard i number ticket result hWaiting hAnswer => exact hRefl
  | bridged b hSame => exact hRefl
  | tookUp session ticket c rest hWorker hQueue => exact hRefl
  | finished ticket result session hWorker => exact hRefl
  | exited session hWorker => exact hRefl
  | answered ticket request resume r hWorker => exact hRefl

/-- A submission that is refused is on record as refused ever after. -/
theorem History.refused {first : Session μ ρ} (hStart : Kept engine first start)
    (h : History engine start past w) (hIn : m ∈ past) {i : Nat} {c : PendingCommand}
    {e : BridgeError} (hAct : m.act = .submit i c)
    (hRefused : (m.world.bridge.submit c).1 = .error e) :
    m.world.perform engine m.act = some (m.world.turnAway i
      (m.world.bridge.dropped + if e = .queueFull m.world.bridge.capacity then 1 else 0)) ∧
      ⟨i, (m.world.clients i).made⟩ ∈ w.refused := by
  induction h with
  | nil => contradiction
  | @snoc past w next h act hPerform ih =>
    rcases List.mem_append.1 hIn with hEarlier | hLast
    · obtain ⟨hTurned, hListed⟩ := ih hEarlier
      exact ⟨hTurned, (refused_of_perform (h.reachable.kept hStart) hPerform).subset hListed⟩
    · obtain rfl := List.mem_singleton.1 hLast
      obtain rfl : act = .submit i c := hAct
      cases Performed.of_perform hPerform with
      | submit _ _ hIdle =>
        have hNext := submit_of_refused (i := i) hRefused
        exact ⟨hPerform.trans (congrArg some hNext), by rw [hNext]; simp [turnAway]⟩

/-- Whatever the worker has taken up or replied to is a call that became a request. -/
structure Accounted (w : BridgeWorld μ ρ) : Prop where
  once : (w.accepted.map (·.ticket)).Nodup
  taken : w.taken <+: w.accepted.map (·.ticket)
  replies : w.bridge.replies.map (·.1) <+: w.accepted.map (·.ticket)

/-- A world that keeps what every step keeps accounts for what was taken up or replied to. -/
theorem Kept.accounted {first : Session μ ρ} (h : Kept engine first w) : Accounted w := by
  obtain ⟨turns, s, hProgress⟩ := h.progress
  refine ⟨h.numbered.nodup_tickets, hProgress.taken, ?_⟩
  have hTickets : w.bridge.replies.map (·.1) = (turns.map (·.accepted)).map (·.ticket) := by
    rw [hProgress.replies, List.map_map, List.map_map]
    rfl
  rw [hTickets]
  exact hProgress.ran.map _

end BridgeWorld

/-- **Refusals are exact, in any history of any number of clients.** The queue never holds more than
it can, which is one request at least. A submission is told that the queue is full exactly if the
worker is alive and the queue is full, and that the worker has stopped exactly if it has. The count
tells how often a submission found the queue full. A submission that is refused changes nothing
else, and its command never becomes a request, so it is neither run nor replied to. -/
theorem bridge_counts_refusals {engine : Engine μ ρ} {tree : FileTree} {path : Path}
    {capacity : Nat} {b : Bridge μ ρ} {w : BridgeWorld μ ρ}
    {past : List (BridgeWorld.Moment μ ρ)}
    (hLaunch : Bridge.launch engine capacity
      ((Session.fresh engine).startIn engine tree path) = .ok b)
    (hPast : BridgeWorld.History engine { bridge := b } past w) :
    w.bridge.queue.length ≤ max capacity 1 ∧
      (∀ c,
        ((w.bridge.submit c).1 = .error (.queueFull (max capacity 1)) ↔
          w.bridge.isAlive = true ∧ w.bridge.queue.length = max capacity 1) ∧
        ((w.bridge.submit c).1 = .error .workerStopped ↔ w.bridge.isAlive = false) ∧
        ∀ e, (w.bridge.submit c).1 = .error e →
          e = .queueFull (max capacity 1) ∨ e = .workerStopped) ∧
      w.bridge.dropped = past.countP BridgeWorld.Moment.foundFull ∧ w.Accounted ∧
      ∀ m ∈ past, ∀ i c e, m.act = .submit i c → (m.world.bridge.submit c).1 = .error e →
        m.world.perform engine m.act = some (m.world.turnAway i
          (m.world.bridge.dropped + if e = .queueFull (max capacity 1) then 1 else 0)) ∧
        ∀ a ∈ w.accepted, a.client = i → a.number ≠ (m.world.clients i).made := by
  obtain ⟨result, first, hImport⟩ := Session.exists_startIn engine tree path
  rw [hImport] at hLaunch
  obtain ⟨rfl, rfl⟩ := Bridge.launch_eq hLaunch
  have hStart := BridgeWorld.kept_launched engine first (max capacity 1)
  have hKept := hPast.reachable.kept hStart
  have hCapacity : w.bridge.capacity = max capacity 1 := hPast.counted.1
  have hCount := hPast.counted.2
  have hBounded := hPast.bounded hStart (Nat.zero_le _)
  refine ⟨by rwa [hCapacity] at hBounded, ?_, ?_, hKept.accounted, ?_⟩
  · intro c
    have hAnswers := Bridge.submit_answers hBounded c
    rwa [hCapacity] at hAnswers
  · rw [hCount, Nat.zero_add]
  · intro m hIn i c e hAct hRefused
    obtain ⟨hTurned, hListed⟩ := hPast.refused hStart hIn hAct hRefused
    -- the capacity was the same in every world
    obtain ⟨before, next, hBefore, -⟩ := hPast.moment hIn
    have hThen : m.world.bridge.capacity = max capacity 1 := hBefore.counted.1
    rw [hThen] at hTurned
    exact ⟨hTurned, fun a ha hClient => hKept.numbered.apart _ hListed a ha hClient⟩

/-- A bridge that was to hold nothing holds one command. A second client is told that it is full,
the worker takes the command up and is asked to stop, and the second client is told that it has
stopped. -/
theorem bridge_counts_refusals_touch :
    ∃ b past w,
      Bridge.launch touchEngine 0 ((Session.fresh touchEngine).startIn touchEngine touchTree
        ⟨"touch"⟩) = .ok b ∧
      BridgeWorld.History touchEngine { bridge := b } past w ∧
      w.accepted.map (·.client) = [0] ∧ w.refused.map (·.client) = [1, 1] ∧
      w.bridge.isAlive = false ∧ w.bridge.dropped = 1 ∧
      past.countP BridgeWorld.Moment.foundFull = 1 := by
  have hStart : BridgeWorld.History touchEngine (touchWorld 1) [] (touchWorld 1) := .nil
  have hPast := (((((((hStart.snoc
    (.submit 0 touchCommand) rfl).snoc
    (.submit 1 touchCommand) rfl).snoc
    .work rfl).snoc
    .shutdown rfl).snoc
    (.reply (.error touchFault)) rfl).snoc
    .work rfl).snoc
    .work rfl).snoc
    (.submit 1 touchCommand) rfl
  obtain ⟨-, -, hCount, -⟩ := bridge_counts_refusals (launch_touch 0) hPast
  refine ⟨_, _, _, launch_touch 0, hPast, ?_, ?_, ?_, ?_, hCount.symm⟩
  · decide +kernel
  · decide +kernel
  · decide +kernel
  · decide +kernel

end ScriptWindows
