import ScriptWindows.Proofs.Bridge.Histories

/-!
# Who waits, and who has heard

A client that calls a command and waits is told one thing, once: what the command came to, or that
the worker has stopped. Meanwhile other clients make calls and hear of theirs. This module follows
one call through any history.

Main results:

* `BridgeWorld.Talk.of_perform`: what an act does to the clients.
* `BridgeWorld.History.hears`: a client that waits has not heard of its call, and one that waits no
  longer has heard of it once.
* `BridgeWorld.Kept.answerTo_of_heard`: what was heard is the answer that is there.
-/

namespace ScriptWindows

variable {μ ρ : Type}

namespace BridgeWorld

variable {engine : Engine μ ρ} {first : Session μ ρ} {start w next : BridgeWorld μ ρ} {act : Act}
  {past : List (Moment μ ρ)} {m : Moment μ ρ} {a : Accepted}

/-! ## Calls that wait -/

/-- The client that makes a call and waits for its answer. -/
def Act.waits? : Act → Option Nat
  | .invoke i _ _ | .retry i => some i
  | _ => none

/-- The call became the request, and its client waits for the answer. -/
def InvokedIn (past : List (Moment μ ρ)) (a : Accepted) : Prop :=
  ∃ m ∈ past, m.act.waits? = some a.client ∧ (m.world.clients a.client).made = a.number ∧
    m.entered = [.invoke a.ticket a.command]

/-- What the client has heard of its call. -/
def heardOf (w : BridgeWorld μ ρ) (a : Accepted) : List Heard :=
  w.heard.filter fun h => h.client == a.client && h.number == a.number

/-- The client waits for the answer and has not heard of it, or it has heard of it once. -/
def Hears (w : BridgeWorld μ ρ) (a : Accepted) : Prop :=
  (w.clients a.client).state = .waiting a.number a.ticket ∧ w.heardOf a = [] ∨
    (∀ ticket, (w.clients a.client).state ≠ .waiting a.number ticket) ∧
      ∃ result, w.heardOf a = [⟨a.client, a.number, result⟩]

/-- What an act does to the clients: nothing, or one that does not wait makes a call, or one that
waits hears the answer. -/
inductive Talk (m : Moment μ ρ) (next : BridgeWorld μ ρ) : Prop
  | quiet (hNobody : m.act.waits? = none) (hClients : next.clients = m.world.clients)
      (hHeard : next.heard = m.world.heard)
  | calls (i : Nat) (after : Client) (hWaits : ∀ j, m.act.waits? = some j → j = i)
      (hBefore : ∀ number ticket, (m.world.clients i).state ≠ .waiting number ticket)
      (hAfter : ∀ number ticket, after.state = .waiting number ticket →
        number = (m.world.clients i).made)
      (hClients : next.clients = (m.world.setClient i after).clients)
      (hHeard : next.heard = m.world.heard)
      (hRequest : ∀ ticket c, m.act.waits? = some i → m.entered = [.invoke ticket c] →
        after.state = .waiting (m.world.clients i).made ticket ∧
          next.accepted = m.world.accepted ++ [⟨i, (m.world.clients i).made, ticket, c⟩])
  | hears (i number ticket : Nat) (result : Except BridgeError Outcome)
      (hNobody : m.act.waits? = none)
      (hWaiting : (m.world.clients i).state = .waiting number ticket)
      (hClients : next.clients = (m.world.setClient i ⟨.idle, (m.world.clients i).made⟩).clients)
      (hHeard : next.heard = m.world.heard ++ [⟨i, number, result⟩])

theorem talk_submit {i : Nat} (hIdle : (w.clients i).state = .idle) (c : PendingCommand) :
    Talk ⟨w, .submit i c⟩ (w.submit i c) := by
  have hBefore : ∀ number ticket, (w.clients i).state ≠ .waiting number ticket := by simp [hIdle]
  have hNobody : (Act.submit i c).waits? = none := rfl
  rw [submit]
  rcases w.bridge.submit_cases c with ⟨-, hOk⟩ | ⟨e, after, hError, -⟩
  · rw [hOk]
    exact .calls i ⟨.idle, _⟩ (by simp [hNobody]) hBefore (by simp) rfl rfl (by simp [hNobody])
  · rw [hError]
    exact .calls i ⟨.idle, _⟩ (by simp [hNobody]) hBefore (by simp) rfl rfl (by simp [hNobody])

/-- A call that waits, made for the first time or again. -/
theorem talk_invoke {i : Nat} {c : PendingCommand} (hWaits : m.act.waits? = some i)
    (hBefore : ∀ number ticket, (m.world.clients i).state ≠ .waiting number ticket)
    (hOffered : m.offered? = some (.invoke m.world.bridge.nextTicket c)) :
    Talk m (m.world.invoke i false c) := by
  have hOne : ∀ j, m.act.waits? = some j → j = i := by
    intro j hJ
    rw [hWaits] at hJ
    exact (Option.some.inj hJ).symm
  rw [invoke]
  rcases m.world.bridge.room_cases with ⟨hAlive, hRoom⟩ | ⟨hAlive, hFull⟩ | hExited
  · rw [Bridge.invoke_of_room hAlive hRoom]
    refine .calls i ⟨.waiting _ _, _⟩ hOne hBefore ?_ rfl rfl ?_
    · intro number ticket hAfter
      exact (ClientState.waiting.inj hAfter).1.symm
    · intro ticket c' _ hEntered
      -- the request that entered is the one that was offered
      rw [Moment.entered_of_room hOffered hAlive hRoom] at hEntered
      obtain ⟨rfl, rfl⟩ := Request.invoke.inj (List.singleton_inj.1 hEntered)
      exact ⟨rfl, rfl⟩
  · rw [Bridge.invoke_of_full hAlive hFull]
    refine .calls i ⟨.blocked c, _⟩ hOne hBefore (by simp) rfl rfl ?_
    intro ticket c' _ hEntered
    rw [Moment.entered_of_full hAlive hFull] at hEntered
    contradiction
  · rw [Bridge.invoke_of_exited hExited]
    refine .calls i ⟨.idle, _⟩ hOne hBefore (by simp) rfl rfl ?_
    intro ticket c' _ hEntered
    rw [Moment.entered_of_exited hExited] at hEntered
    contradiction

/-- **What an act does to the clients.** -/
theorem Talk.of_perform (h : w.perform engine act = some next) : Talk ⟨w, act⟩ next := by
  cases Performed.of_perform h with
  | submit i c hIdle => exact talk_submit hIdle c
  | invoke i onUi c hIdle =>
    have hBefore : ∀ number ticket, (w.clients i).state ≠ .waiting number ticket := by simp [hIdle]
    cases onUi with
    | true =>
      -- on the UI thread nobody waits
      have hEntered : Moment.entered ⟨w, .invoke i true c⟩ = [] := rfl
      refine .calls i ⟨.idle, _⟩ ?_ hBefore (by simp) rfl rfl (by simp [hEntered])
      intro j hJ
      exact (Option.some.inj hJ).symm
    | false => exact talk_invoke rfl hBefore rfl
  | retry i c hBlocked =>
    refine talk_invoke (m := ⟨w, .retry i⟩) rfl ?_ ?_
    · simp [hBlocked]
    · simp only [Moment.offered?, hBlocked]
  | hear i number ticket result hWaiting hAnswer =>
    exact .hears i number ticket result rfl hWaiting rfl rfl
  | clone => exact .quiet rfl rfl rfl
  | release => exact .quiet rfl rfl rfl
  | shutdown => exact .quiet rfl rfl rfl
  | stop b hStop => exact .quiet rfl rfl rfl
  | work b hStep =>
    refine .quiet rfl ?_ ?_
    · unfold work
      split <;> rfl
    · unfold work
      split <;> rfl
  | reply request r hWants => exact .quiet rfl rfl rfl

/-! ## One call -/

theorem heardOf_eq (h : next.heard = w.heard) : next.heardOf a = w.heardOf a := by
  rw [heardOf, h, heardOf]

theorem heardOf_append {i number : Nat} {result : Except BridgeError Outcome}
    (h : next.heard = w.heard ++ [⟨i, number, result⟩]) :
    next.heardOf a = w.heardOf a ++
      if i = a.client ∧ number = a.number then [⟨i, number, result⟩] else [] := by
  rw [heardOf, h, List.filter_append, heardOf]
  by_cases hThis : i = a.client ∧ number = a.number
  · simp [hThis]
  · rw [if_neg hThis]
    simpa using hThis

/-- **An act keeps this up** for a call that was made before. -/
theorem Hears.talk (h : Hears m.world a) (hMade : a.number < (m.world.clients a.client).made)
    (hTalk : Talk m next) : Hears next a := by
  -- nobody talks, a client makes a call, or a client hears of one
  cases hTalk with
  | quiet hNobody hClients hHeard =>
    unfold Hears heardOf at *
    rwa [hClients, hHeard]
  | calls i after hWaits hBefore hAfter hClients hHeard hRequest =>
    have hSame : next.heardOf a = m.world.heardOf a := heardOf_eq hHeard
    by_cases hClient : a.client = i
    · -- the client did not wait, and it does not wait for this call now
      subst hClient
      rcases h with ⟨hWaiting, -⟩ | ⟨-, hOnce⟩
      · exact absurd hWaiting (hBefore _ _)
      · refine .inr ⟨?_, by rwa [hSame]⟩
        intro ticket hWaiting
        have hState : after.state = .waiting a.number ticket := by
          simpa [hClients, setClient] using hWaiting
        have hNumber := hAfter _ _ hState
        omega
    · have hState : (next.clients a.client).state = (m.world.clients a.client).state := by
        rw [hClients]
        simp [setClient, hClient]
      unfold Hears at *
      rwa [hState, hSame]
  | hears i number ticket result hNobody hWaiting hClients hHeard =>
    have hNow : next.heardOf a = _ := heardOf_append hHeard
    by_cases hClient : a.client = i
    · subst hClient
      have hIdle : ∀ ticket, (next.clients a.client).state ≠ .waiting a.number ticket := by
        rw [hClients]
        simp [setClient]
      by_cases hNumber : number = a.number
      · -- this is the call that is answered
        subst hNumber
        rcases h with ⟨-, hNone⟩ | ⟨hNot, -⟩
        · rw [hNone, if_pos ⟨rfl, rfl⟩] at hNow
          exact .inr ⟨hIdle, result, hNow⟩
        · exact absurd hWaiting (hNot ticket)
      · -- the client waits for one call at a time, so this one is over
        rcases h with ⟨hWaits, -⟩ | ⟨-, hOnce⟩
        · rw [hWaiting] at hWaits
          exact absurd (ClientState.waiting.inj hWaits).1 hNumber
        · rw [if_neg (fun hThis => hNumber hThis.2), List.append_nil] at hNow
          exact .inr ⟨hIdle, by rwa [hNow]⟩
    · -- somebody else hears of another call
      have hState : (next.clients a.client).state = (m.world.clients a.client).state := by
        rw [hClients]
        simp [setClient, hClient]
      rw [if_neg (fun hThis => hClient hThis.1.symm), List.append_nil] at hNow
      unfold Hears at *
      rwa [hState, hNow]

/-- Nobody has heard of a call that was not made yet. -/
theorem Kept.heardOf_eq_nil (h : Kept engine first w)
    (hMade : a.number = (w.clients a.client).made) : w.heardOf a = [] := by
  rw [heardOf, List.filter_eq_nil_iff]
  intro x hx hThis
  simp only [Bool.and_eq_true, beq_iff_eq] at hThis
  obtain ⟨b, hb, hClient, hNumber, -⟩ := h.answered x hx
  -- what was heard of is a call that was made
  have hBefore := h.numbered.acceptedMade b hb
  rw [hClient, hThis.1, ← hMade] at hBefore
  omega

/-- **A client that waits has not heard of its call, and one that waits no longer has heard of it
once.** -/
theorem History.hears (hStart : Kept engine first start) (h : History engine start past w)
    (hInvoked : InvokedIn past a) : a ∈ w.accepted ∧ Hears w a := by
  induction h with
  | nil =>
    obtain ⟨m, hIn, -⟩ := hInvoked
    contradiction
  | @snoc past w next h act hAct ih =>
    have hKept := h.reachable.kept hStart
    obtain ⟨turns, s, hProgress⟩ := hKept.progress
    have hTalk := Talk.of_perform hAct
    obtain ⟨m, hIn, hWaits, hNumber, hEntered⟩ := hInvoked
    rcases List.mem_append.1 hIn with hEarlier | hLast
    · obtain ⟨hAccepted, hHears⟩ := ih ⟨m, hEarlier, hWaits, hNumber, hEntered⟩
      have hGrows := ((Step.of_perform hAct).move hProgress.not_importing).grows
      exact ⟨hGrows.accepted.subset hAccepted,
        hHears.talk (m := ⟨w, act⟩) (hKept.numbered.acceptedMade a hAccepted) hTalk⟩
    · -- the call was made just now
      obtain rfl := List.mem_singleton.1 hLast
      cases hTalk with
      | quiet hNobody => simp [hNobody] at hWaits
      | hears i number ticket result hNobody => simp [hNobody] at hWaits
      | calls i after hOne hBefore hAfter hClients hHeard hRequest =>
        obtain rfl : a.client = i := hOne _ hWaits
        obtain ⟨hState, hNext⟩ := hRequest _ _ hWaits hEntered
        have hMade : a.number = (w.clients a.client).made := hNumber.symm
        have hSame : next.heardOf a = w.heardOf a := heardOf_eq hHeard
        refine ⟨?_, .inl ⟨?_, ?_⟩⟩
        · rw [hNext, hMade.symm]
          exact List.mem_append_right _ (List.mem_singleton.2 rfl)
        · rw [hClients]
          simp [setClient, hState, hMade]
        · rw [hSame, hKept.heardOf_eq_nil hMade]

/-! ## The answer -/

/-- A client's calls have different numbers. -/
theorem Numbered.eq_of_call (h : Numbered w) {b : Accepted} (ha : a ∈ w.accepted)
    (hb : b ∈ w.accepted) (hClient : a.client = b.client) (hNumber : a.number = b.number) :
    a = b := by
  obtain ⟨i, hI, rfl⟩ := List.mem_iff_getElem.1 ha
  obtain ⟨j, hJ, rfl⟩ := List.mem_iff_getElem.1 hb
  have hOrder := List.pairwise_iff_getElem.1 h.order
  rcases Nat.lt_trichotomy i j with hLess | rfl | hMore
  · have hNumbers := hOrder i j hI hJ hLess hClient
    omega
  · rfl
  · have hNumbers := hOrder j i hJ hI hMore hClient.symm
    omega

/-- **What was heard is the answer that is there.** -/
theorem Kept.answerTo_of_heard (h : Kept engine first w) (ha : a ∈ w.accepted)
    {result : Except BridgeError Outcome} (hHeard : w.heardOf a = [⟨a.client, a.number, result⟩]) :
    w.bridge.answerTo a.ticket = some result := by
  have hIn : ⟨a.client, a.number, result⟩ ∈ w.heard := by
    have hFound : ⟨a.client, a.number, result⟩ ∈ w.heardOf a := by simp [hHeard]
    exact (List.mem_filter.1 hFound).1
  obtain ⟨b, hb, hClient, hNumber, hReply⟩ := h.answered _ hIn
  obtain rfl := h.numbered.eq_of_call hb ha hClient hNumber
  rcases hReply with hReply | ⟨rfl, hExited, hNone⟩
  · exact Bridge.answerTo_of_replied hReply
  · refine Bridge.answerTo_of_isAwaited ?_ hExited
    rw [Bridge.isAwaited, hNone]
    rfl

end BridgeWorld

end ScriptWindows
