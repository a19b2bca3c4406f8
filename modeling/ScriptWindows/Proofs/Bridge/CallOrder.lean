import ScriptWindows.Proofs.Bridge.Clients

/-!
# Calls and requests

A client makes its calls one after another, and a call becomes one request or none. So the queue,
whatever clients do between each other's calls, holds the requests of each client in the order of
its calls.

Main results:

* `BridgeWorld.Numbered.move`: requests keep the order of the calls that became requests.
* `BridgeWorld.Numbered.getElem?_ticket`: a ticket tells the place of its request among all.
-/

namespace ScriptWindows.BridgeWorld

variable {μ ρ : Type} {engine : Engine μ ρ} {w next : BridgeWorld μ ρ}

/-- Tickets number the requests, and a client numbers its calls, so the requests of a client stand
in the order of its calls, and no call is both a request and refused. -/
structure Numbered (w : BridgeWorld μ ρ) : Prop where
  tickets : w.accepted.map (·.ticket) = List.range w.bridge.nextTicket
  acceptedMade : ∀ a ∈ w.accepted, a.number < (w.clients a.client).made
  refusedMade : ∀ r ∈ w.refused, r.number < (w.clients r.client).made
  order : w.accepted.Pairwise fun a b => a.client = b.client → a.number < b.number
  apart : ∀ r ∈ w.refused, ∀ a ∈ w.accepted, a.client = r.client → a.number ≠ r.number
  waiting : ∀ i number ticket, (w.clients i).state = .waiting number ticket →
    ∃ a ∈ w.accepted, a.client = i ∧ a.number = number ∧ a.ticket = ticket

theorem Numbered.of_same (h : Numbered w) (hAccepted : next.accepted = w.accepted)
    (hRefused : next.refused = w.refused) (hTicket : next.bridge.nextTicket = w.bridge.nextTicket)
    (hMade : ∀ i, (next.clients i).made = (w.clients i).made)
    (hWaiting : ∀ i number ticket, (next.clients i).state = .waiting number ticket →
      (w.clients i).state = .waiting number ticket) : Numbered next where
  tickets := by rw [hAccepted, hTicket, h.tickets]
  acceptedMade := by
    intro a ha
    rw [hMade]
    exact h.acceptedMade a (hAccepted ▸ ha)
  refusedMade := by
    intro r hr
    rw [hMade]
    exact h.refusedMade r (hRefused ▸ hr)
  order := by
    rw [hAccepted]
    exact h.order
  apart := by
    rw [hAccepted, hRefused]
    exact h.apart
  waiting := by
    intro i number ticket hState
    rw [hAccepted]
    exact h.waiting i number ticket (hWaiting i number ticket hState)

/-- The number of calls a client has made never goes down. -/
theorem made_le_setClient {i : Nat} {c : Client} (h : (w.clients i).made ≤ c.made) (j : Nat) :
    (w.clients j).made ≤ ((w.setClient i c).clients j).made := by
  rw [setClient]
  simp only
  split
  · rename_i hSame
    rw [hSame]
    exact h
  · exact Nat.le_refl _

theorem Numbered.accept (h : Numbered w) {i : Nat} {state : ClientState} (c : PendingCommand)
    (hState : state = .idle ∨ state = .waiting (w.clients i).made w.bridge.nextTicket) :
    Numbered (w.accept i state w.bridge.nextTicket c (w.bridge.queued c)) := by
  -- earlier calls keep their numbers, and the new one has the next
  have hLe := made_le_setClient (w := w) (i := i) (c := ⟨state, (w.clients i).made + 1⟩)
    (Nat.le_succ _)
  refine ⟨?_, ?_, ?_, ?_, ?_, ?_⟩
  · show (w.accepted ++ [(_ : Accepted)]).map (·.ticket) = List.range (w.bridge.nextTicket + 1)
    rw [List.map_append, h.tickets, List.range_succ]
    rfl
  · intro a ha
    rcases List.mem_append.1 ha with hOld | hNew
    · exact Nat.lt_of_lt_of_le (h.acceptedMade a hOld) (hLe a.client)
    · obtain rfl := List.mem_singleton.1 hNew
      simp [BridgeWorld.accept, setClient]
  · intro r hr
    exact Nat.lt_of_lt_of_le (h.refusedMade r hr) (hLe r.client)
  · refine List.pairwise_append.2 ⟨h.order, List.pairwise_singleton _ _, ?_⟩
    intro a ha b hb hClient
    -- the new call has the number of calls made before it
    obtain rfl := List.mem_singleton.1 hb
    have hMade := h.acceptedMade a ha
    rw [hClient] at hMade
    exact hMade
  · intro r hr a ha hClient
    rcases List.mem_append.1 ha with hOld | hNew
    · exact h.apart r hr a hOld hClient
    · obtain rfl := List.mem_singleton.1 hNew
      have hMade := h.refusedMade r hr
      rw [← hClient] at hMade
      exact Nat.ne_of_gt hMade
  · intro j number ticket hWaits
    by_cases hSame : j = i
    · subst hSame
      have hNow : state = .waiting number ticket := by
        simpa [BridgeWorld.accept, setClient] using hWaits
      rcases hState with rfl | rfl
      · contradiction
      · obtain ⟨rfl, rfl⟩ := ClientState.waiting.inj hNow
        exact ⟨_, List.mem_append_right _ (List.mem_singleton.2 rfl), rfl, rfl, rfl⟩
    · have hBefore : (w.clients j).state = .waiting number ticket := by
        simpa [BridgeWorld.accept, setClient, hSame] using hWaits
      obtain ⟨a, ha, hFound⟩ := h.waiting j number ticket hBefore
      exact ⟨a, List.mem_append_left _ ha, hFound⟩

theorem Numbered.refuse (h : Numbered w) (i : Nat) {b : Bridge μ ρ} (hSame : w.bridge.SameWork b) :
    Numbered (w.refuse i b) := by
  have hLe := made_le_setClient (w := w) (i := i) (c := ⟨.idle, (w.clients i).made + 1⟩)
    (Nat.le_succ _)
  refine ⟨?_, ?_, ?_, h.order, ?_, ?_⟩
  · show w.accepted.map (·.ticket) = List.range b.nextTicket
    rw [hSame.nextTicket, h.tickets]
  · intro a ha
    exact Nat.lt_of_lt_of_le (h.acceptedMade a ha) (hLe a.client)
  · intro r hr
    rcases List.mem_append.1 hr with hOld | hNew
    · exact Nat.lt_of_lt_of_le (h.refusedMade r hOld) (hLe r.client)
    · obtain rfl := List.mem_singleton.1 hNew
      simp [BridgeWorld.refuse, setClient]
  · intro r hr a ha hClient
    rcases List.mem_append.1 hr with hOld | hNew
    · exact h.apart r hOld a ha hClient
    · obtain rfl := List.mem_singleton.1 hNew
      have hMade := h.acceptedMade a ha
      rw [hClient] at hMade
      exact Nat.ne_of_lt hMade
  · intro j number ticket hWaits
    refine h.waiting j number ticket ?_
    by_cases hClient : j = i
    · subst hClient
      simp [BridgeWorld.refuse, setClient] at hWaits
    · simpa [BridgeWorld.refuse, setClient, hClient] using hWaits

/-- A client that does not wait afterwards changes no number. -/
theorem Numbered.setClient (h : Numbered w) {i : Nat} {state : ClientState}
    (hState : ∀ number ticket, state ≠ .waiting number ticket) :
    Numbered (w.setClient i ⟨state, (w.clients i).made⟩) := by
  -- no call is made, and one client at most stops waiting
  refine h.of_same rfl rfl rfl ?_ ?_
  · intro j
    rw [BridgeWorld.setClient]
    simp only
    split
    · rename_i hSame
      rw [hSame]
    · rfl
  · intro j number ticket hWaits
    by_cases hSame : j = i
    · subst hSame
      exact absurd (by simpa [BridgeWorld.setClient] using hWaits) (hState number ticket)
    · simpa [BridgeWorld.setClient, hSame] using hWaits

/-- **Requests keep the order of the calls.** -/
theorem Numbered.move (h : Numbered w) (hMove : Move engine w next) : Numbered next := by
  -- only the first two moves concern a call that was made
  cases hMove with
  | accepted i state c hAlive hState => exact h.accept c hState
  | refused i b hSame => exact h.refuse i hSame
  | blocked i c => exact h.setClient (by simp)
  | heard i number ticket result hWaiting hAnswer =>
    have hIdle : Numbered (w.setClient i ⟨.idle, (w.clients i).made⟩) := h.setClient (by simp)
    exact hIdle.of_same rfl rfl rfl (fun _ => rfl) fun _ _ _ => id
  | bridged b hSame => exact h.of_same rfl rfl hSame.nextTicket (fun _ => rfl) fun _ _ _ => id
  | tookUp session ticket c rest hWorker hQueue =>
    exact h.of_same rfl rfl rfl (fun _ => rfl) fun _ _ _ => id
  | finished ticket result session hWorker =>
    exact h.of_same rfl rfl rfl (fun _ => rfl) fun _ _ _ => id
  | exited session hWorker => exact h.of_same rfl rfl rfl (fun _ => rfl) fun _ _ _ => id
  | answered ticket request resume r hWorker =>
    exact h.of_same rfl rfl rfl (fun _ => rfl) fun _ _ _ => id

/-! ## What the order tells -/

theorem Numbered.calls (h : Numbered w) (i : Nat) :
    ((w.accepted.filter (·.client == i)).map (·.number)).Pairwise (· < ·) := by
  refine List.pairwise_map.2 ((h.order.filter _).imp_of_mem ?_)
  intro a b ha hb hOrder
  have hFirst : a.client = i := beq_iff_eq.1 (List.mem_filter.1 ha).2
  have hSecond : b.client = i := beq_iff_eq.1 (List.mem_filter.1 hb).2
  exact hOrder (hFirst.trans hSecond.symm)

theorem Numbered.nodup_tickets (h : Numbered w) : (w.accepted.map (·.ticket)).Nodup := by
  rw [h.tickets]
  exact List.nodup_range

/-- A ticket tells the place of its request. -/
theorem Numbered.getElem?_ticket (h : Numbered w) {a : Accepted} (ha : a ∈ w.accepted) :
    w.accepted[a.ticket]? = some a := by
  obtain ⟨i, hFound⟩ := List.mem_iff_getElem?.1 ha
  have hTicket : (w.accepted.map (·.ticket))[i]? = some a.ticket := by
    rw [List.getElem?_map, hFound]
    rfl
  -- tickets are given out in order, from zero on
  rw [h.tickets] at hTicket
  obtain ⟨hInside, hSame⟩ := List.getElem?_eq_some_iff.1 hTicket
  rw [List.getElem_range] at hSame
  rw [← hSame, hFound]

end ScriptWindows.BridgeWorld
