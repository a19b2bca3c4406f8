import ScriptWindows.Ui.Dispatch

/-!
# Nested work

Work that runs on the UI thread may ask for work there as well, to any depth, and go on with what
came of it. A task that is posted takes its result back by a way that may be cut off: the task can
be refused, dropped, or run where it may touch no window. This module follows every call of such a
nest from where it is made to where it returns, whatever the dispatcher does.

A dispatcher may also keep a task for ever. Its caller then waits for ever, so what is seen of the
nest is the beginning of what is seen if the task has another fate. The laws are therefore stated
for every beginning.

Main results:

* `Seen.posted_of_isUi`: nothing is posted from the UI thread.
* `Seen.history`: what is seen of a single call.
* `nested_work_is_served`: work runs at most once and on the UI thread only, and each call that
  returns tells what became of its work.
-/

namespace ScriptWindows

variable {ρ : Type}

/-! ## Where work runs -/

namespace Dispatcher

/-- Where the work of a call runs, or why it does not, and the number of tasks posted until then. -/
inductive Takes (d : Dispatcher) (caller : Thread) (posted : Nat) :
    Except BridgeError Thread → Nat → Prop
  | inline (hUi : d.isUi caller = true) : Takes d caller posted (.ok caller) posted
  | marshaled {t : Thread} (hUi : d.isUi caller = false) (hFate : d.fate posted caller = .ran t)
      (hRuns : d.isUi t = true) : Takes d caller posted (.ok t) (posted + 1)
  | refused {cause : BridgeError} (hUi : d.isUi caller = false)
      (hFate : d.fate posted caller = .refused cause) :
      Takes d caller posted (.error cause) (posted + 1)
  | dropped (hUi : d.isUi caller = false) (hFate : d.fate posted caller = .dropped) :
      Takes d caller posted (.error (.uiUnavailable "UI task dropped before it ran")) (posted + 1)
  | stray {t : Thread} (hUi : d.isUi caller = false) (hFate : d.fate posted caller = .ran t)
      (hStray : d.isUi t = false) : Takes d caller posted (.error (wrongThread t)) (posted + 1)

variable {d : Dispatcher} {caller t : Thread} {posted after : Nat}
  {place : Except BridgeError Thread}

/-- Of every work it can be told where it runs, or why it does not. -/
theorem exists_takes (d : Dispatcher) (caller : Thread) (posted : Nat) :
    ∃ place after, d.Takes caller posted place after := by
  cases hUi : d.isUi caller with
  | true => exact ⟨_, _, .inline hUi⟩
  | false =>
    cases hFate : d.fate posted caller with
    | refused cause => exact ⟨_, _, .refused hUi hFate⟩
    | dropped => exact ⟨_, _, .dropped hUi hFate⟩
    | ran t =>
      cases hRuns : d.isUi t with
      | true => exact ⟨_, _, .marshaled hUi hFate hRuns⟩
      | false => exact ⟨_, _, .stray hUi hFate hRuns⟩

/-- A work that is run is run on the UI thread. -/
theorem Takes.isUi (h : d.Takes caller posted (.ok t) after) : d.isUi t = true := by
  cases h with
  | inline hUi => exact hUi
  | marshaled hUi hFate hRuns => exact hRuns

/-- The UI thread does its work itself. -/
theorem Takes.of_isUi (h : d.Takes caller posted place after) (hUi : d.isUi caller = true) :
    place = .ok caller ∧ after = posted := by
  cases h with
  | inline => exact ⟨rfl, rfl⟩
  | marshaled hOther => simp [hUi] at hOther
  | refused hOther => simp [hUi] at hOther
  | dropped hOther => simp [hUi] at hOther
  | stray hOther => simp [hUi] at hOther

variable {σ α : Type}

/-- Work that has a place is done there, once. -/
theorem Takes.run_ok (h : d.Takes caller posted (.ok t) after)
    (work : Thread → StateM (Posting σ) α) (s : σ) :
    (d.onUiThread caller work).run ⟨posted, s⟩ =
      (.ok ((work t).run ⟨after, s⟩).1, ((work t).run ⟨after, s⟩).2) := by
  cases h with
  | inline hUi => exact onUiThread_of_isUi hUi work _
  | marshaled hUi hFate hRuns =>
    rw [onUiThread_of_not_isUi hUi]
    simp only [hFate, guarded, leave, hRuns, if_true]
    rfl

/-- Work that has no place is not done. -/
theorem Takes.run_error {e : BridgeError} (h : d.Takes caller posted (.error e) after)
    (work : Thread → StateM (Posting σ) α) (s : σ) :
    (d.onUiThread caller work).run ⟨posted, s⟩ = (.error e, ⟨after, s⟩) := by
  cases h with
  | refused hUi hFate => rw [onUiThread_of_not_isUi hUi, hFate]
  | dropped hUi hFate => rw [onUiThread_of_not_isUi hUi, hFate]
  | stray hUi hFate hStray =>
    rw [onUiThread_of_not_isUi hUi, hFate]
    exact guarded_of_not_isUi hStray work _

end Dispatcher

/-! ## Nests -/

/-- A program that asks for work on the UI thread and goes on with what came of it. So does the work,
which also sees the thread that it runs on. -/
inductive Nest (ρ : Type)
  | done (value : ρ)
  | call (work : Thread → Nest ρ) (resume : Except BridgeError ρ → Nest ρ)

/-- What is seen of a call: it is made, perhaps from inside the work of another one; its work begins
on a thread and ends with a value; the call returns. With a call and its return goes the number of
tasks posted until then. -/
inductive CallEvent (ρ : Type)
  | called (call : Nat) (within : Option Nat) (caller : Thread) (posted : Nat)
  | began (call : Nat) (thread : Thread)
  | ended (call : Nat) (value : ρ)
  | returned (call : Nat) (result : Except BridgeError ρ) (posted : Nat)

namespace CallEvent

/-- The call that an event belongs to. -/
def call : CallEvent ρ → Nat
  | .called call .. | .began call _ | .ended call _ | .returned call .. => call

@[simp] theorem call_called (number : Nat) (within : Option Nat) (caller : Thread) (posted : Nat) :
    (called number within caller posted : CallEvent ρ).call = number := rfl

@[simp] theorem call_began (number : Nat) (thread : Thread) :
    (began number thread : CallEvent ρ).call = number := rfl

@[simp] theorem call_ended (number : Nat) (value : ρ) : (ended number value).call = number := rfl

@[simp] theorem call_returned (number : Nat) (result : Except BridgeError ρ) (posted : Nat) :
    (returned number result posted).call = number := rfl

end CallEvent

/-- The calls that were made so far, and what was seen of them. -/
structure Watch (ρ : Type) where
  calls : Nat := 0
  events : List (CallEvent ρ) := []

namespace Nest

/-- Note what is seen, with the number of tasks posted until now. -/
def note (event : Nat → CallEvent ρ) : StateM (Posting (Watch ρ)) Unit :=
  modify fun p => { p with state := { p.state with events := p.state.events ++ [event p.posted] } }

/-- The number of a call that is made. -/
def number : StateM (Posting (Watch ρ)) Nat := modifyGet fun p =>
  (p.state.calls, { p with state := { p.state with calls := p.state.calls + 1 } })

/-- Do what a nest says on a thread, inside the work of a call if there is one. -/
def perform (d : Dispatcher) (within : Option Nat) (t : Thread) :
    Nest ρ → StateM (Posting (Watch ρ)) ρ
  | .done value => return value
  | .call work resume => do
    let call ← number
    note (.called call within t)
    let result ← d.onUiThread t fun on => do
      note fun _ => .began call on
      let value ← (work on).perform d (some call) on
      note fun _ => .ended call value
      return value
    note (.returned call result)
    (resume result).perform d within t

/-- The work of a call, with its beginning and its end seen. -/
def watched (d : Dispatcher) (call : Nat) (work : Thread → Nest ρ) (on : Thread) :
    StateM (Posting (Watch ρ)) ρ := do
  note fun _ => .began call on
  let value ← (work on).perform d (some call) on
  note fun _ => .ended call value
  return value

/-- A call is made, its work has whatever fate, the call returns, and the nest goes on. -/
theorem run_call (d : Dispatcher) (within : Option Nat) (t : Thread) (work : Thread → Nest ρ)
    (resume : Except BridgeError ρ → Nest ρ) (posted calls : Nat) (earlier : List (CallEvent ρ))
    {result : Except BridgeError ρ} {after calls' : Nat} {seen : List (CallEvent ρ)}
    (hCall : (d.onUiThread t (watched d calls work)).run
      ⟨posted, ⟨calls + 1, earlier ++ [.called calls within t posted]⟩⟩ =
        (result, ⟨after, ⟨calls', seen⟩⟩)) :
    ((Nest.call work resume).perform d within t).run ⟨posted, ⟨calls, earlier⟩⟩ =
      ((resume result).perform d within t).run
        ⟨after, ⟨calls', seen ++ [.returned calls result after]⟩⟩ := by
  rw [perform]
  change (fun r => ((resume r.1).perform d within t).run ⟨r.2.posted, ⟨r.2.state.calls,
    r.2.state.events ++ [.returned calls r.1 r.2.posted]⟩⟩)
    ((d.onUiThread t (watched d calls work)).run
      ⟨posted, ⟨calls + 1, earlier ++ [.called calls within t posted]⟩⟩) = _
  rw [hCall]

/-- What is seen of work that runs stands between its beginning and its end. -/
theorem run_watched {d : Dispatcher} {call : Nat} {work : Thread → Nest ρ} {on : Thread}
    {posted calls after calls' : Nat} {earlier seen : List (CallEvent ρ)} {value : ρ}
    (hWork : ((work on).perform d (some call) on).run
      ⟨posted, ⟨calls, earlier ++ [.began call on]⟩⟩ = (value, ⟨after, ⟨calls', seen⟩⟩)) :
    (watched d call work on).run ⟨posted, ⟨calls, earlier⟩⟩ =
      (value, ⟨after, ⟨calls', seen ++ [.ended call value]⟩⟩) := by
  change (fun r : ρ × Posting (Watch ρ) => (r.1, (⟨r.2.posted, ⟨r.2.state.calls,
    r.2.state.events ++ [.ended call r.1]⟩⟩ : Posting (Watch ρ))))
    (((work on).perform d (some call) on).run ⟨posted, ⟨calls, earlier ++ [.began call on]⟩⟩) = _
  rw [hWork]

/-- All that is seen of a nest that is started on a thread after so many posts. -/
def events (nest : Nest ρ) (d : Dispatcher) (t : Thread) (posted : Nat) : List (CallEvent ρ) :=
  ((nest.perform d none t).run ⟨posted, {}⟩).2.state.events

end Nest

/-! ## Named work -/

mutual

/-- Work with a name, as the nest that it is on a thread. -/
def Work.nest (t : Thread) : Work → Nest Ran
  | .mk _ calls => Work.nestAll calls fun results => .done (.mk t results)

/-- Calls for work in order, and what follows when they have returned. -/
def Work.nestAll : List Work → (List (Except BridgeError Ran) → Nest Ran) → Nest Ran
  | [], next => next []
  | work :: rest, next =>
    .call (fun on => work.nest on) fun first => Work.nestAll rest fun others => next (first :: others)

end

/-- Works are performed one after the other, the first from where all of them begin. -/
theorem Work.run_performAll_cons {d : Dispatcher} {t : Thread} {work : Work} {rest : List Work}
    {before after : Posting (List (String × Thread))} {first : Except BridgeError Ran}
    (hFirst : (d.onUiThread t fun on => Work.perform d on work).run before = (first, after)) :
    (Work.performAll d t (work :: rest)).run before =
      (first :: ((Work.performAll d t rest).run after).1, ((Work.performAll d t rest).run after).2) := by
  rw [Work.performAll]
  change (fun r : Except BridgeError Ran × Posting (List (String × Thread)) =>
    (r.1 :: ((Work.performAll d t rest).run r.2).1, ((Work.performAll d t rest).run r.2).2))
    ((d.onUiThread t fun on => Work.perform d on work).run before) = _
  rw [hFirst]

mutual

/-- **Work with a name is such a nest**: it comes to the same, with as many posts. -/
theorem Work.run_nest (d : Dispatcher) (within : Option Nat) (t : Thread) (posted calls : Nat)
    (seen : List (CallEvent Ran)) (log : List (String × Thread)) :
    ∀ work : Work, ∃ calls' seen', ((work.nest t).perform d within t).run ⟨posted, ⟨calls, seen⟩⟩ =
      (((work.perform d t).run ⟨posted, log⟩).1,
        ⟨((work.perform d t).run ⟨posted, log⟩).2.posted, ⟨calls', seen'⟩⟩)
  | .mk name works => by
    obtain ⟨calls', seen', hRun⟩ := Work.run_nestAll d within t posted calls seen
      (log ++ [(name, t)]) works fun results => .done (.mk t results)
    exact ⟨calls', seen', by rw [Work.nest, hRun]; rfl⟩

/-- Works of strings are nests: what is posted and what the works return is the same. -/
theorem Work.run_nestAll (d : Dispatcher) (within : Option Nat) (t : Thread) (posted calls : Nat)
    (seen : List (CallEvent Ran)) (log : List (String × Thread)) :
    ∀ (works : List Work) (next : List (Except BridgeError Ran) → Nest Ran), ∃ calls' seen',
      ((Work.nestAll works next).perform d within t).run ⟨posted, ⟨calls, seen⟩⟩ =
        ((next ((Work.performAll d t works).run ⟨posted, log⟩).1).perform d within t).run
          ⟨((Work.performAll d t works).run ⟨posted, log⟩).2.posted, ⟨calls', seen'⟩⟩
  | [], next => ⟨calls, seen, rfl⟩
  | work :: rest, next => by
    -- the work is done on the thread that takes it, or nowhere; then the others have their turn
    obtain ⟨place, before, hTakes⟩ := d.exists_takes t posted
    cases place with
    | ok on =>
      obtain ⟨calls', seen', hWork⟩ := Work.run_nest d (some calls) on before (calls + 1)
        (seen ++ [.called calls within t posted] ++ [.began calls on]) log work
      obtain ⟨calls'', seen'', hRest⟩ := Work.run_nestAll d within t
        ((work.perform d on).run ⟨before, log⟩).2.posted calls'
        (seen' ++ [.ended calls ((work.perform d on).run ⟨before, log⟩).1] ++
          [.returned calls (.ok ((work.perform d on).run ⟨before, log⟩).1)
            ((work.perform d on).run ⟨before, log⟩).2.posted])
        ((work.perform d on).run ⟨before, log⟩).2.state rest
        fun others => next (.ok ((work.perform d on).run ⟨before, log⟩).1 :: others)
      refine ⟨calls'', seen'', ?_⟩
      rw [Work.nestAll, Nest.run_call d within t _ _ posted calls seen (by
        rw [hTakes.run_ok, Nest.run_watched hWork]), hRest,
        Work.run_performAll_cons (hTakes.run_ok (fun on => Work.perform d on work) log)]
    | error e =>
      obtain ⟨calls', seen', hRest⟩ := Work.run_nestAll d within t before (calls + 1)
        (seen ++ [.called calls within t posted] ++ [.returned calls (.error e) before]) log rest
        fun others => next (.error e :: others)
      refine ⟨calls', seen', ?_⟩
      rw [Work.nestAll, Nest.run_call d within t _ _ posted calls seen (hTakes.run_error _ _), hRest,
        Work.run_performAll_cons (hTakes.run_error (fun on => Work.perform d on work) log)]

end

/-! ## What is seen -/

/-- What is seen of a nest, from so many posts and calls on, what it comes to, and how many posts and
calls there are then. -/
inductive Seen (d : Dispatcher) : Option Nat → Thread → Nest ρ → Nat → Nat →
    List (CallEvent ρ) → ρ → Nat → Nat → Prop
  | done {within : Option Nat} {t : Thread} (value : ρ) (posted calls : Nat) :
      Seen d within t (.done value) posted calls [] value posted calls
  | served {within : Option Nat} {t on : Thread} {work : Thread → Nest ρ}
      {resume : Except BridgeError ρ → Nest ρ} {posted before after last calls calls' calls'' : Nat}
      {inner rest : List (CallEvent ρ)} {value result : ρ}
      (hTakes : d.Takes t posted (.ok on) before)
      (hWork : Seen d (some calls) on (work on) before (calls + 1) inner value after calls')
      (hRest : Seen d within t (resume (.ok value)) after calls' rest result last calls'') :
      Seen d within t (.call work resume) posted calls
        (.called calls within t posted :: .began calls on :: inner ++
          .ended calls value :: .returned calls (.ok value) after :: rest) result last calls''
  | unserved {within : Option Nat} {t : Thread} {work : Thread → Nest ρ}
      {resume : Except BridgeError ρ → Nest ρ} {posted after last calls calls' : Nat}
      {rest : List (CallEvent ρ)} {e : BridgeError} {result : ρ}
      (hTakes : d.Takes t posted (.error e) after)
      (hRest : Seen d within t (resume (.error e)) after (calls + 1) rest result last calls') :
      Seen d within t (.call work resume) posted calls
        (.called calls within t posted :: .returned calls (.error e) after :: rest) result last calls'

/-- **What a nest does is seen.** -/
theorem Nest.exists_seen (d : Dispatcher) (nest : Nest ρ) (within : Option Nat) (t : Thread)
    (posted calls : Nat) (earlier : List (CallEvent ρ)) :
    ∃ events value posted' calls', Seen d within t nest posted calls events value posted' calls' ∧
      (nest.perform d within t).run ⟨posted, ⟨calls, earlier⟩⟩ =
        (value, ⟨posted', ⟨calls', earlier ++ events⟩⟩) := by
  induction nest generalizing within t posted calls earlier with
  | done value =>
    refine ⟨[], value, posted, calls, .done value posted calls, ?_⟩
    rw [List.append_nil]
    rfl
  | call work resume ihWork ihRest =>
    -- what is seen of a call that is served stands around what is seen of its work
    obtain ⟨place, before, hTakes⟩ := d.exists_takes t posted
    cases place with
    | ok on =>
      obtain ⟨inner, value, after, calls', hWork, hRun⟩ := ihWork on (some calls) on before (calls + 1)
        (earlier ++ [.called calls within t posted] ++ [.began calls on])
      obtain ⟨rest, result, last, calls'', hRest, hRunRest⟩ := ihRest (.ok value) within t after calls'
        (earlier ++ [.called calls within t posted] ++ [.began calls on] ++ inner ++
          [.ended calls value] ++ [.returned calls (.ok value) after])
      refine ⟨_, _, _, _, .served hTakes hWork hRest, ?_⟩
      rw [run_call d within t work resume posted calls earlier (by
        rw [hTakes.run_ok, run_watched hRun]), hRunRest]
      simp
    | error e =>
      obtain ⟨rest, result, last, calls', hRest, hRun⟩ := ihRest (.error e) within t before (calls + 1)
        (earlier ++ [.called calls within t posted] ++ [.returned calls (.error e) before])
      refine ⟨_, _, _, _, .unserved hTakes hRest, ?_⟩
      rw [run_call d within t work resume posted calls earlier (hTakes.run_error _ _), hRun]
      simp

/-! ## Single calls -/

/-- What is seen of a single call. -/
def seenOf (call : Nat) (events : List (CallEvent ρ)) : List (CallEvent ρ) :=
  events.filter (·.call = call)

/-- What is seen of a call is told part by part. -/
theorem seenOf_append (call : Nat) (events more : List (CallEvent ρ)) :
    seenOf call (events ++ more) = seenOf call events ++ seenOf call more :=
  List.filter_append events more

/-- Nothing is seen of a call that no event is about. -/
theorem seenOf_eq_nil {call : Nat} {events : List (CallEvent ρ)}
    (h : ∀ e ∈ events, e.call ≠ call) : seenOf call events = [] := by
  rw [seenOf, List.filter_eq_nil_iff]
  intro e hIn
  simpa using h e hIn

theorem seenOf_cons (call : Nat) (e : CallEvent ρ) (events : List (CallEvent ρ)) :
    seenOf call (e :: events) =
      if e.call = call then e :: seenOf call events else seenOf call events := by
  rw [seenOf, List.filter_cons]
  by_cases h : e.call = call <;> simp [seenOf, h]

/-- What is seen of a call is what happens and is about that call. -/
theorem mem_seenOf {call : Nat} {events : List (CallEvent ρ)} {e : CallEvent ρ} :
    e ∈ seenOf call events ↔ e ∈ events ∧ e.call = call := by
  rw [seenOf, List.mem_filter, decide_eq_true_iff]

/-- All that can be seen of a call once it has returned, in this order. -/
inductive Dispatcher.History (d : Dispatcher) (call : Nat) : List (CallEvent ρ) → Prop
  | served {within : Option Nat} {caller t : Thread} {before after : Nat} {value : ρ}
      (hTakes : d.Takes caller before (.ok t) after) :
      History d call [.called call within caller before, .began call t, .ended call value,
        .returned call (.ok value) after]
  | unserved {within : Option Nat} {caller : Thread} {before after : Nat} {e : BridgeError}
      (hTakes : d.Takes caller before (.error e) after) :
      History d call [.called call within caller before, .returned call (.error e) after]

namespace Seen

variable {d : Dispatcher} {within : Option Nat} {t : Thread} {nest : Nest ρ}
  {posted calls posted' calls' : Nat} {events : List (CallEvent ρ)} {value : ρ}

/-- **Nothing is posted from the UI thread**, however deep work asks for work. -/
theorem posted_of_isUi (h : Seen d within t nest posted calls events value posted' calls')
    (hUi : d.isUi t = true) : posted' = posted := by
  induction h with
  | done value posted calls => rfl
  | served hTakes hWork hRest ihWork ihRest =>
    obtain ⟨-, rfl⟩ := hTakes.of_isUi hUi
    rw [ihRest hUi, ihWork hTakes.isUi]
  | unserved hTakes hRest ih =>
    obtain ⟨hPlace, -⟩ := hTakes.of_isUi hUi
    contradiction

/-- Calls are numbered in the order in which they are made. -/
theorem numbered (h : Seen d within t nest posted calls events value posted' calls') :
    calls ≤ calls' ∧ ∀ e ∈ events, calls ≤ e.call ∧ e.call < calls' := by
  induction h with
  | done value posted calls => exact ⟨Nat.le_refl _, by simp⟩
  | served hTakes hWork hRest ihWork ihRest =>
    obtain ⟨hLe, hInner⟩ := ihWork
    obtain ⟨hLe', hLater⟩ := ihRest
    refine ⟨by omega, ?_⟩
    intro e hIn
    simp only [List.cons_append, List.mem_cons, List.mem_append] at hIn
    -- the four events of the call itself, those of its work, and those that follow
    rcases hIn with rfl | rfl | hIn | rfl | rfl | hIn
    · exact ⟨Nat.le_refl _, by rw [CallEvent.call_called]; omega⟩
    · exact ⟨Nat.le_refl _, by rw [CallEvent.call_began]; omega⟩
    · have := hInner e hIn
      omega
    · exact ⟨Nat.le_refl _, by rw [CallEvent.call_ended]; omega⟩
    · exact ⟨Nat.le_refl _, by rw [CallEvent.call_returned]; omega⟩
    · have := hLater e hIn
      omega
  | unserved hTakes hRest ih =>
    obtain ⟨hLe, hLater⟩ := ih
    refine ⟨by omega, ?_⟩
    intro e hIn
    simp only [List.mem_cons] at hIn
    rcases hIn with rfl | rfl | hIn
    · exact ⟨Nat.le_refl _, by rw [CallEvent.call_called]; omega⟩
    · exact ⟨Nat.le_refl _, by rw [CallEvent.call_returned]; omega⟩
    · have := hLater e hIn
      omega

/-- Nothing is seen of other calls. -/
theorem seenOf_eq_nil (h : Seen d within t nest posted calls events value posted' calls') {call : Nat}
    (hOther : call < calls ∨ calls' ≤ call) : seenOf call events = [] := by
  refine ScriptWindows.seenOf_eq_nil fun e hIn => ?_
  have := h.numbered.2 e hIn
  omega

/-- **What is seen of a single call** is the history of one call, whatever the calls around it do. -/
theorem history (h : Seen d within t nest posted calls events value posted' calls') {call : Nat}
    (hFrom : calls ≤ call) (hTo : call < calls') : d.History call (seenOf call events) := by
  induction h with
  | done value posted calls => omega
  | @served within t on work resume posted before after last calls calls' calls'' inner rest value
      result hTakes hWork hRest ihWork ihRest =>
    have hLe := hWork.numbered.1
    by_cases hOwn : calls = call
    · subst hOwn
      have hInner : seenOf calls inner = [] := hWork.seenOf_eq_nil (.inl (by omega))
      have hLater : seenOf calls rest = [] := hRest.seenOf_eq_nil (.inl (by omega))
      -- work on the UI thread posts nothing, so the call returns after its own post
      obtain rfl := hWork.posted_of_isUi hTakes.isUi
      have hSeen : d.History calls [.called calls within t posted, .began calls on,
        .ended calls value, .returned calls (.ok value) after] := .served hTakes
      simpa [seenOf_append, seenOf_cons, hInner, hLater] using hSeen
    · -- it is made by the work or after it, and numbers tell which
      have hOthers : seenOf call (.called calls within t posted :: .began calls on :: inner ++
          .ended calls value :: .returned calls (.ok value) after :: rest) =
          seenOf call inner ++ seenOf call rest := by
        simp [seenOf_append, seenOf_cons, hOwn]
      rw [hOthers]
      by_cases hIn : call < calls'
      · rw [hRest.seenOf_eq_nil (.inl hIn), List.append_nil]
        exact ihWork (by omega) hIn
      · rw [hWork.seenOf_eq_nil (.inr (by omega)), List.nil_append]
        exact ihRest (by omega) hTo
  | @unserved within t work resume posted after last calls calls' rest e result hTakes hRest ih =>
    by_cases hOwn : calls = call
    · subst hOwn
      have hLater : seenOf calls rest = [] := hRest.seenOf_eq_nil (.inl (by omega))
      have hSeen : d.History (ρ := ρ) calls [.called calls within t posted,
        .returned calls (.error e) after] := .unserved hTakes
      simpa [seenOf_cons, hLater] using hSeen
    · have hOthers : seenOf call (.called calls within t posted ::
          .returned calls (.error e) after :: rest) = seenOf call rest := by
        simp [seenOf_cons, hOwn]
      rw [hOthers]
      exact ih (by omega) hTo

/-- A call is made by the nest itself, on its thread, or from inside of work that has begun there. -/
theorem maker (h : Seen d within t nest posted calls events value posted' calls') {call before : Nat}
    {maker : Option Nat} {caller : Thread} (hCalled : .called call maker caller before ∈ events) :
    (maker = within ∧ caller = t) ∨ ∃ outer, maker = some outer ∧ .began outer caller ∈ events := by
  induction h with
  | done value posted calls => contradiction
  | @served within t on work resume posted before after last calls calls' calls'' inner rest value
      result hTakes hWork hRest ihWork ihRest =>
    simp only [List.cons_append, List.mem_cons, List.mem_append, CallEvent.called.injEq, reduceCtorEq,
      false_or] at hCalled ⊢
    rcases hCalled with ⟨rfl, rfl, rfl, rfl⟩ | hIn | hIn
    · exact .inl ⟨rfl, rfl⟩
    · rcases ihWork hIn with ⟨rfl, rfl⟩ | ⟨outer, rfl, hBegan⟩
      · -- the work of this call has made it
        exact .inr ⟨calls, rfl, .inl rfl⟩
      · exact .inr ⟨outer, rfl, .inr (.inl hBegan)⟩
    · rcases ihRest hIn with hOwn | ⟨outer, rfl, hBegan⟩
      · exact .inl hOwn
      · exact .inr ⟨outer, rfl, .inr (.inr hBegan)⟩
  | unserved hTakes hRest ih =>
    simp only [List.mem_cons, CallEvent.called.injEq, reduceCtorEq, false_or] at hCalled ⊢
    rcases hCalled with ⟨rfl, rfl, rfl, rfl⟩ | hIn
    · exact .inl ⟨rfl, rfl⟩
    · rcases ih hIn with hOwn | ⟨outer, rfl, hBegan⟩
      · exact .inl hOwn
      · exact .inr ⟨outer, rfl, hBegan⟩

end Seen

/-! ## Every moment of a nest -/

/-- Whether the work of a call begins. -/
def CallEvent.begins (call : Nat) : CallEvent ρ → Bool
  | .began number _ => number = call
  | .called .. | .ended .. | .returned .. => false

/-- An event in which the work of a call begins is about that call. -/
theorem CallEvent.call_of_begins {call : Nat} {e : CallEvent ρ} (h : e.begins call = true) :
    e.call = call := by
  cases e with
  | began number thread => simpa [begins] using h
  | called number within caller posted => contradiction
  | ended number value => contradiction
  | returned number result posted => contradiction

/-- A work begins as often in all that happens as in what is seen of its call. -/
theorem countP_seenOf (call : Nat) (events : List (CallEvent ρ)) :
    (seenOf call events).countP (CallEvent.begins call) = events.countP (CallEvent.begins call) := by
  rw [seenOf, List.countP_filter]
  refine List.countP_congr fun e _ => ?_
  constructor
  · intro h
    exact (Bool.and_eq_true_iff.1 h).1
  · intro h
    simp [h, CallEvent.call_of_begins h]

namespace Dispatcher

variable {d : Dispatcher} {call : Nat} {whole : List (CallEvent ρ)}

/-- A work is begun at most once. -/
theorem History.once (h : d.History call whole) : whole.countP (CallEvent.begins call) ≤ 1 := by
  cases h with
  | served hTakes => simp [CallEvent.begins]
  | unserved hTakes => simp [CallEvent.begins]

/-- A work that is begun is begun on the UI thread. -/
theorem History.onUi {t : Thread} (h : d.History call whole) (hBegan : .began call t ∈ whole) :
    d.isUi t = true := by
  cases h with
  | served hTakes =>
    obtain rfl : t = _ := by simpa using hBegan
    exact hTakes.isUi
  | unserved hTakes => simp at hBegan

/-- A work is begun on one thread only. -/
theorem History.began_unique {t t' : Thread} (h : d.History call whole)
    (hBegan : .began call t ∈ whole) (hBegan' : .began call t' ∈ whole) : t = t' := by
  cases h with
  | served hTakes =>
    obtain rfl : t = _ := by simpa using hBegan
    exact Eq.symm (by simpa using hBegan')
  | unserved hTakes => simp at hBegan

/-- A call from the UI thread is served at once. -/
theorem History.inline {within : Option Nat} {caller : Thread} {before : Nat}
    (h : d.History call whole) (hCalled : .called call within caller before ∈ whole)
    (hUi : d.isUi caller = true) :
    ∃ value, whole = [.called call within caller before, .began call caller, .ended call value,
      .returned call (.ok value) before] := by
  cases h with
  | served hTakes =>
    obtain ⟨rfl, rfl, rfl⟩ : _ ∧ _ ∧ _ := by simpa using hCalled
    obtain ⟨hPlace, rfl⟩ := hTakes.of_isUi hUi
    obtain rfl := Except.ok.inj hPlace
    exact ⟨_, rfl⟩
  | unserved hTakes =>
    obtain ⟨rfl, rfl, rfl⟩ : _ ∧ _ ∧ _ := by simpa using hCalled
    obtain ⟨hPlace, -⟩ := hTakes.of_isUi hUi
    contradiction

/-- Nothing more is seen of a call that has returned. -/
theorem History.eq_of_returned {seen : List (CallEvent ρ)} {result : Except BridgeError ρ} {after : Nat}
    (h : d.History call whole) (hPart : seen <+: whole)
    (hReturned : .returned call result after ∈ seen) : seen = whole := by
  -- a call returns last
  have hLast : ∃ first last, whole = first ++ [last] ∧ .returned call result after ∉ first := by
    cases h with
    | served hTakes => exact ⟨[_, _, _], _, rfl, by simp⟩
    | unserved hTakes => exact ⟨[_], _, rfl, by simp⟩
  obtain ⟨first, last, rfl, hBefore⟩ := hLast
  rcases List.prefix_concat_iff.1 hPart with rfl | hFirst
  · rfl
  · exact absurd (hFirst.subset hReturned) hBefore

/-- A call returns exactly the value that its work ended with. -/
theorem History.ok_iff {result : Except BridgeError ρ} {after : Nat} {value : ρ}
    (h : d.History call whole) (hReturned : .returned call result after ∈ whole) :
    result = .ok value ↔ .ended call value ∈ whole := by
  cases h with
  | served hTakes =>
    obtain ⟨rfl, -⟩ : _ ∧ _ := by simpa using hReturned
    simp [eq_comm]
  | unserved hTakes =>
    obtain ⟨rfl, -⟩ : _ ∧ _ := by simpa using hReturned
    simp

/-- Only a call that was made returns. -/
theorem History.exists_called {result : Except BridgeError ρ} {after : Nat} (h : d.History call whole)
    (hReturned : .returned call result after ∈ whole) :
    ∃ within caller before, .called call within caller before ∈ whole := by
  cases h with
  | served hTakes => exact ⟨_, _, _, List.mem_cons_self⟩
  | unserved hTakes => exact ⟨_, _, _, List.mem_cons_self⟩

/-- The work of a call that returned a value was taken and begun. -/
theorem History.of_ok {within : Option Nat} {caller : Thread} {before after : Nat} {value : ρ}
    (h : d.History call whole) (hCalled : .called call within caller before ∈ whole)
    (hReturned : .returned call (.ok value) after ∈ whole) :
    ∃ t, d.Takes caller before (.ok t) after ∧ .began call t ∈ whole := by
  cases h with
  | served hTakes =>
    obtain ⟨rfl, rfl, rfl⟩ : _ ∧ _ ∧ _ := by simpa using hCalled
    obtain ⟨-, rfl⟩ : _ ∧ _ := by simpa using hReturned
    exact ⟨_, hTakes, List.mem_cons_of_mem _ List.mem_cons_self⟩
  | unserved hTakes => simp at hReturned

/-- The work of a call that returned an error was never begun, and the error is the one the
dispatcher gave. -/
theorem History.of_error {within : Option Nat} {caller : Thread} {before after : Nat} {e : BridgeError}
    (h : d.History call whole) (hCalled : .called call within caller before ∈ whole)
    (hReturned : .returned call (.error e) after ∈ whole) :
    d.Takes caller before (.error e) after ∧ ∀ t, .began call t ∉ whole := by
  cases h with
  | served hTakes => simp at hReturned
  | unserved hTakes =>
    obtain ⟨rfl, rfl, rfl⟩ : _ ∧ _ ∧ _ := by simpa using hCalled
    obtain ⟨rfl, rfl⟩ : _ ∧ _ := by simpa using hReturned
    exact ⟨hTakes, by simp⟩

/-- What a dispatcher and the calls of a nest have in common at every moment. -/
structure Serves (d : Dispatcher) (seen : List (CallEvent ρ)) : Prop where
  /-- Each piece of work runs at most once. -/
  once : ∀ call, seen.countP (CallEvent.begins call) ≤ 1
  /-- It runs on the UI thread only. -/
  onUi : ∀ call t, .began call t ∈ seen → d.isUi t = true
  /-- A call returns a value if and only if its work has run and has come to this value. -/
  ok_iff : ∀ call result after value, .returned call result after ∈ seen →
    (result = .ok value ↔ .ended call value ∈ seen)
  /-- What returns has been called. -/
  made : ∀ call result after, .returned call result after ∈ seen →
    ∃ within caller before, .called call within caller before ∈ seen
  /-- The work of a call that returns a value ran where the dispatcher took it. -/
  served : ∀ call within caller before value after, .called call within caller before ∈ seen →
    .returned call (.ok value) after ∈ seen →
      ∃ t, d.Takes caller before (.ok t) after ∧ .began call t ∈ seen
  /-- A call that returns an error tells why the dispatcher took its work nowhere, and the work never
  runs. -/
  failed : ∀ call within caller before e after, .called call within caller before ∈ seen →
    .returned call (.error e) after ∈ seen →
      d.Takes caller before (.error e) after ∧ ∀ t, .began call t ∉ seen
  /-- Work that asks for work is served at once, on the thread on which it runs, and posts nothing. -/
  inside : ∀ call outer caller before, .called call (some outer) caller before ∈ seen →
    d.isUi caller = true ∧ (∀ t, .began outer t ∈ seen → t = caller) ∧
      (∀ t, .began call t ∈ seen → t = caller) ∧
      ∀ result after, .returned call result after ∈ seen →
        after = before ∧ ∃ value, result = .ok value

end Dispatcher

/-- All that happens while a nest is performed is seen from its first event on. -/
theorem Nest.seen_events (nest : Nest ρ) (d : Dispatcher) (t : Thread) (posted : Nat) :
    ∃ value posted' calls', Seen d none t nest posted 0 (nest.events d t posted) value posted' calls' := by
  obtain ⟨events, value, posted', calls', hSeen, hRun⟩ := exists_seen d nest none t posted 0 []
  refine ⟨value, posted', calls', ?_⟩
  rw [Nest.events, hRun]
  exact hSeen

namespace Seen

variable {d : Dispatcher} {within : Option Nat} {t : Thread} {nest : Nest ρ}
  {posted calls posted' calls' : Nat} {events seen : List (CallEvent ρ)} {value : ρ}

theorem history_of_mem (h : Seen d within t nest posted calls events value posted' calls')
    {e : CallEvent ρ} (hIn : e ∈ events) : d.History e.call (seenOf e.call events) :=
  h.history (h.numbered.2 e hIn).1 (h.numbered.2 e hIn).2

/-- Work begins at most once. -/
theorem once (h : Seen d within t nest posted calls events value posted' calls') (call : Nat) :
    events.countP (CallEvent.begins call) ≤ 1 := by
  rcases Nat.eq_zero_or_pos (events.countP (CallEvent.begins call)) with hNone | hSome
  · omega
  · obtain ⟨e, hIn, hBegins⟩ := List.countP_pos_iff.1 hSome
    have hOnce := (h.history_of_mem hIn).once
    rwa [CallEvent.call_of_begins hBegins, countP_seenOf] at hOnce

/-- All there is to a call is seen once it has returned. -/
theorem history_of_returned (h : Seen d within t nest posted calls events value posted' calls')
    (hSeen : seen <+: events) {call after : Nat} {result : Except BridgeError ρ}
    (hIn : .returned call result after ∈ seen) : d.History call (seenOf call seen) := by
  have hWhole : d.History call (seenOf call events) := h.history_of_mem (hSeen.subset hIn)
  have hPart : seenOf call seen <+: seenOf call events := hSeen.filter _
  rwa [hWhole.eq_of_returned hPart (mem_seenOf.2 ⟨hIn, rfl⟩)]

/-- A call from inside of work is served at once, on the thread of this work. -/
theorem inside (h : Seen d none t nest posted calls events value posted' calls')
    {call outer before : Nat} {caller : Thread}
    (hCalled : .called call (some outer) caller before ∈ events) :
    d.isUi caller = true ∧ .began outer caller ∈ events ∧
      ∃ value, seenOf call events = [.called call (some outer) caller before, .began call caller,
        .ended call value, .returned call (.ok value) before] := by
  rcases h.maker hCalled with ⟨hNone, -⟩ | ⟨maker, hMaker, hBegan⟩
  · contradiction
  · obtain rfl := Option.some.inj hMaker
    have hUi := (h.history_of_mem hBegan).onUi (mem_seenOf.2 ⟨hBegan, rfl⟩)
    have hOwn : d.History call (seenOf call events) := h.history_of_mem hCalled
    exact ⟨hUi, hBegan, hOwn.inline (mem_seenOf.2 ⟨hCalled, rfl⟩) hUi⟩

end Seen

/-- **Nested work is served**: whatever the dispatcher does with the tasks, and on whatever thread a nest
is started. -/
theorem nested_work_is_served (d : Dispatcher) (t : Thread) (posted : Nat) (nest : Nest ρ)
    {seen : List (CallEvent ρ)} (hSeen : seen <+: nest.events d t posted) : d.Serves seen := by
  obtain ⟨value, posted', calls', hEvents⟩ := nest.seen_events d t posted
  generalize nest.events d t posted = events at hSeen hEvents
  -- each part is read off the history of one call, whatever the others do in between
  have hOf : ∀ {e}, e ∈ seen → e ∈ seenOf e.call events :=
    fun hIn => mem_seenOf.2 ⟨hSeen.subset hIn, rfl⟩
  exact {
    once := fun call => Nat.le_trans hSeen.sublist.countP_le (hEvents.once call)
    onUi := fun call t hIn => (hEvents.history_of_mem (hSeen.subset hIn)).onUi (hOf hIn)
    ok_iff := by
      intro call result after value hIn
      have hOwn := hEvents.history_of_returned hSeen hIn
      rw [hOwn.ok_iff (mem_seenOf.2 ⟨hIn, rfl⟩), mem_seenOf]
      simp
    made := by
      intro call result after hIn
      have hOwn := hEvents.history_of_returned hSeen hIn
      obtain ⟨within, caller, before, hCalled⟩ := hOwn.exists_called (mem_seenOf.2 ⟨hIn, rfl⟩)
      exact ⟨within, caller, before, (mem_seenOf.1 hCalled).1⟩
    served := by
      intro call within caller before value after hCalled hIn
      have hOwn := hEvents.history_of_returned hSeen hIn
      obtain ⟨t, hTakes, hBegan⟩ :=
        hOwn.of_ok (mem_seenOf.2 ⟨hCalled, rfl⟩) (mem_seenOf.2 ⟨hIn, rfl⟩)
      exact ⟨t, hTakes, (mem_seenOf.1 hBegan).1⟩
    failed := by
      intro call within caller before e after hCalled hIn
      have hOwn := hEvents.history_of_returned hSeen hIn
      obtain ⟨hTakes, hNever⟩ :=
        hOwn.of_error (mem_seenOf.2 ⟨hCalled, rfl⟩) (mem_seenOf.2 ⟨hIn, rfl⟩)
      exact ⟨hTakes, fun t hBegan => hNever t (mem_seenOf.2 ⟨hBegan, rfl⟩)⟩
    inside := by
      intro call outer caller before hIn
      obtain ⟨hUi, hBegan, value, hWhole⟩ := hEvents.inside (hSeen.subset hIn)
      refine ⟨hUi, ?_, ?_, ?_⟩
      · intro t hAlso
        exact (hEvents.history_of_mem hBegan).began_unique (hOf hAlso) (mem_seenOf.2 ⟨hBegan, rfl⟩)
      · intro t hAlso
        have hOwn := hOf hAlso
        rw [CallEvent.call_began, hWhole] at hOwn
        simpa using hOwn
      · intro result after hAlso
        have hOwn := hOf hAlso
        rw [CallEvent.call_returned, hWhole] at hOwn
        obtain ⟨rfl, rfl⟩ : _ ∧ _ := by simpa using hOwn
        exact ⟨rfl, value, rfl⟩ }

/-- A dispatcher that runs its first task, refuses the second, drops the third, and runs all others where
they may touch no window. Only the first thread is the UI thread. -/
def moodyDispatcher : Dispatcher where
  isUi t := t.id = 0
  fate
    | 0, _ => .ran ⟨0, some "ui"⟩
    | 1, _ => .refused (.uiUnavailable "event loop closed")
    | 2, _ => .dropped
    | _, caller => .ran caller

/-- Work that asks for work, and after it three calls more. -/
def moodyNest : Nest Nat :=
  .call (fun _ => .call (fun t => .done t.id) fun inner => .done (if inner.isOk then 7 else 8))
    fun _ => .call (fun _ => .done 1) fun _ => .call (fun _ => .done 2) fun _ =>
      .call (fun _ => .done 3) fun _ => .done 4

theorem nested_work_is_served_moody :
    moodyNest.events moodyDispatcher ⟨1, some "main"⟩ 0 =
        [.called 0 none ⟨1, some "main"⟩ 0, .began 0 ⟨0, some "ui"⟩,
          .called 1 (some 0) ⟨0, some "ui"⟩ 1, .began 1 ⟨0, some "ui"⟩, .ended 1 0,
          .returned 1 (.ok 0) 1, .ended 0 7, .returned 0 (.ok 7) 1,
          .called 2 none ⟨1, some "main"⟩ 1,
          .returned 2 (.error (.uiUnavailable "event loop closed")) 2,
          .called 3 none ⟨1, some "main"⟩ 2,
          .returned 3 (.error (.uiUnavailable "UI task dropped before it ran")) 3,
          .called 4 none ⟨1, some "main"⟩ 3,
          .returned 4 (.error (Dispatcher.wrongThread ⟨1, some "main"⟩)) 4] ∧
      moodyDispatcher.Serves (moodyNest.events moodyDispatcher ⟨1, some "main"⟩ 0) :=
  ⟨rfl, nested_work_is_served moodyDispatcher ⟨1, some "main"⟩ 0 moodyNest List.prefix_rfl⟩

end ScriptWindows
