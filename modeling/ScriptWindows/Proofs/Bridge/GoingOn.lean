import ScriptWindows.Bridge.Worker

/-!
# Going on in small steps

`Bridge.advance` lets the worker go on until it has to wait, whatever surrounds it. That is never
more than the worker's own steps and what the surroundings do for it, one after another, so what
holds along every run of small steps holds there too.

Main results:

* `Bridge.Leads.serve`: the worker takes up one request after another.
* `Bridge.Leads.advance`: a relation that small steps keep is kept by going on as far as possible.
* `Bridge.goesOn_advance`: going on as far as possible is going on in small steps.
* `Bridge.rests_advance`: afterwards the worker has no step left.
-/

namespace ScriptWindows.Bridge

variable {μ ρ σ : Type}

/-- A bridge with the state of what surrounds it. -/
abbrev Surrounded (μ ρ σ : Type) := Bridge μ ρ × σ

/-- A relation between bridges in their surroundings that leads along all that happens while the
worker goes on: its own steps, the windows that are made for it or have to wait, and what is done
when a command has finished. -/
structure Leads (engine : Engine μ ρ) (env : Surroundings σ)
    (R : Surrounded μ ρ σ → Surrounded μ ρ σ → Prop) : Prop where
  refl : ∀ x, R x x
  trans : ∀ {x y z}, R x y → R y z → R x z
  /-- A step with which no command finishes. -/
  step : ∀ {b next : Bridge μ ρ} (s : σ), b.step engine = some next → next.replies = b.replies →
    R (b, s) (next, s)
  made : ∀ {b : Bridge μ ρ} {request : WindowRequest} {reply : UiReply} {s after : σ},
    b.wants? = some request → (env.makeWindow request).run s = (some reply, after) →
    R (b, s) (b.answer reply, after)
  waits : ∀ {b : Bridge μ ρ} {request : WindowRequest} {s after : σ}, b.wants? = some request →
    (env.makeWindow request).run s = (none, after) → R (b, s) (b, after)
  finish : ∀ {b : Bridge μ ρ} {ticket : Nat} {result : Except BridgeError Outcome}
    {session : Session μ ρ} (s : σ), b.worker = .running ticket (.done (result, session)) →
    R (b, s) (b.finishCommand ticket result session, ((env.onReply ticket result).run s).2)

/-- A worker that has a step of its own waits for no window. -/
theorem wants?_of_step {engine : Engine μ ρ} {b next : Bridge μ ρ}
    (hStep : b.step engine = some next) : b.wants? = none := by
  rw [wants?]
  split
  · rename_i hWorker
    rw [step, hWorker] at hStep
    contradiction
  · rename_i hWorker
    rw [step, hWorker] at hStep
    contradiction
  · rfl

/-! ## Answers -/

theorem run_pursue_ask {α : Type} (env : Surroundings σ) (request : WindowRequest)
    (resume : UiReply → UiRun α) (s : σ) :
    (pursue env (.ask request resume)).run s =
      match (env.makeWindow request).run s with
      | (some reply, after) => (pursue env (resume reply)).run after
      | (none, after) => (.ask request resume, after) := by
  rw [pursue, StateT.run_bind]
  rcases (env.makeWindow request).run s with ⟨reply, after⟩
  cases reply with
  | none => rfl
  | some reply => rfl

namespace Leads

variable {engine : Engine μ ρ} {env : Surroundings σ}
  {R : Surrounded μ ρ σ → Surrounded μ ρ σ → Prop}

/-- A computation goes on wherever the worker holds it. -/
theorem pursue {α : Type} (h : Leads engine env R) (hold : UiRun α → Bridge μ ρ)
    (hWants : ∀ request resume, (hold (.ask request resume)).wants? = some request)
    (hAnswer : ∀ request resume r, (hold (.ask request resume)).answer r = hold (resume r))
    (run : UiRun α) (s : σ) :
    R (hold run, s) (hold ((Bridge.pursue env run).run s).1, ((Bridge.pursue env run).run s).2) := by
  -- each window that is made is an answer, and one that has to wait is none
  induction run generalizing s with
  | done value => exact h.refl _
  | ask request resume ih =>
    rw [run_pursue_ask]
    cases hMade : (env.makeWindow request).run s with
    | mk reply after =>
      cases reply with
      | none => exact h.waits (hWants request resume) hMade
      | some reply =>
        refine h.trans (h.made (hWants request resume) hMade) ?_
        rw [hAnswer]
        exact ih reply after

theorem importing (h : Leads engine env R) (b : Bridge μ ρ)
    (run : UiRun (Except BridgeError Unit × Session μ ρ)) (s : σ) :
    R ({ b with worker := .importing run }, s)
      ({ b with worker := .importing ((Bridge.pursue env run).run s).1 },
        ((Bridge.pursue env run).run s).2) :=
  h.pursue (fun run => { b with worker := .importing run }) (fun _ _ => rfl) (fun _ _ _ => rfl) run s

theorem running (h : Leads engine env R) (b : Bridge μ ρ) (ticket : Nat)
    (run : UiRun (Except BridgeError Outcome × Session μ ρ)) (s : σ) :
    R ({ b with worker := .running ticket run }, s)
      ({ b with worker := .running ticket ((Bridge.pursue env run).run s).1 },
        ((Bridge.pursue env run).run s).2) :=
  h.pursue (fun run => { b with worker := .running ticket run }) (fun _ _ => rfl)
    (fun _ _ _ => rfl) run s

/-! ## Requests -/

/-- **The worker takes up one request after another**, in the order of the queue. -/
theorem serve (h : Leads engine env R) (requests : List Request) (b : Bridge μ ρ)
    (session : Session μ ρ) (s : σ) :
    R ({ b with queue := requests, worker := .idle session }, s)
      ((Bridge.serve engine env b session requests).run s) := by
  -- each request in turn: it is taken up, runs as far as it can, and finishes
  induction requests generalizing b session s with
  | nil =>
    show R _ (if b.handles = 0 then _ else _, s)
    by_cases hHandles : b.handles = 0
    · rw [if_pos hHandles]
      have hStep : Bridge.step engine { b with queue := [], worker := .idle session } =
          some (exit { b with queue := [] } none) := if_pos hHandles
      exact h.step s hStep rfl
    · rw [if_neg hHandles]
      exact h.refl _
  | cons r rest ih =>
    cases r with
    | stop => exact h.step s rfl rfl
    | invoke ticket c =>
      refine h.trans (h.step s rfl rfl) ?_
      have hRun := h.running { b with queue := rest } ticket (session.invokeCommand engine c) s
      refine h.trans hRun ?_
      rw [Bridge.serve, StateT.run_bind]
      rcases (Bridge.pursue env (session.invokeCommand engine c)).run s with ⟨left, after⟩
      cases left with
      | ask request resume => exact h.refl _
      | done value =>
        refine h.trans (h.finish after rfl) ?_
        exact ih (b.finishCommand ticket value.1 value.2) value.2 _

/-- **What small steps lead along, going on as far as possible leads along.** -/
theorem advance (h : Leads engine env R) (b : Bridge μ ρ) (s : σ) :
    R (b, s) ((Bridge.advance engine env b).run s) := by
  rw [Bridge.advance]
  cases hWorker : b.worker with
  | exited failure => exact h.refl _
  | idle session =>
    have hServe := h.serve b.queue b session s
    rw [← hWorker] at hServe
    exact hServe
  | importing run =>
    have hRun := h.importing b run s
    rw [← hWorker] at hRun
    refine h.trans hRun ?_
    simp only [StateT.run_bind]
    rcases (Bridge.pursue env run).run s with ⟨left, after⟩
    cases left with
    | ask request resume => exact h.refl _
    | done value =>
      -- after an import that failed there is nothing to serve
      obtain ⟨result, session⟩ := value
      cases result with
      | error e => exact h.step after rfl rfl
      | ok done => exact h.trans (h.step after rfl rfl) (h.serve b.queue b session after)
  | running ticket run =>
    have hRun := h.running b ticket run s
    rw [← hWorker] at hRun
    refine h.trans hRun ?_
    simp only [StateT.run_bind]
    rcases (Bridge.pursue env run).run s with ⟨left, after⟩
    cases left with
    | ask request resume => exact h.refl _
    | done value =>
      refine h.trans (h.finish after rfl) ?_
      exact h.serve b.queue (b.finishCommand ticket value.1 value.2) value.2 _

end Leads

/-! ## Steps of the worker and answers of the UI -/

/-- What steps of the worker and answers of the UI lead to. -/
inductive GoesOn (engine : Engine μ ρ) : Bridge μ ρ → Bridge μ ρ → Prop
  | refl (b : Bridge μ ρ) : GoesOn engine b b
  | step {b next last : Bridge μ ρ} (hStep : b.step engine = some next)
      (h : GoesOn engine next last) : GoesOn engine b last
  | answer {b last : Bridge μ ρ} {request : WindowRequest} (r : UiReply)
      (hWants : b.wants? = some request) (h : GoesOn engine (b.answer r) last) :
      GoesOn engine b last

theorem GoesOn.trans {engine : Engine μ ρ} {b middle last : Bridge μ ρ} (h : GoesOn engine b middle)
    (h' : GoesOn engine middle last) : GoesOn engine b last := by
  induction h with
  | refl b => exact h'
  | step hStep h ih => exact .step hStep (ih h')
  | answer r hWants h ih => exact .answer r hWants (ih h')

theorem leads_goesOn (engine : Engine μ ρ) (env : Surroundings σ) :
    Leads engine env fun x y => GoesOn engine x.1 y.1 where
  refl x := .refl x.1
  trans := GoesOn.trans
  step s hStep hReplies := .step hStep (.refl _)
  made hWants hMade := .answer _ hWants (.refl _)
  waits hWants hWaits := .refl _
  finish s hWorker := .step (by rw [step, hWorker]) (.refl _)

/-- **Going on as far as possible is going on in small steps.** -/
theorem goesOn_advance (engine : Engine μ ρ) (env : Surroundings σ) (b : Bridge μ ρ) (s : σ) :
    GoesOn engine b ((advance engine env b).run s).1 :=
  (leads_goesOn engine env).advance b s

/-! ## Where it ends -/

/-- Whether every window is made at once. -/
def Surroundings.MakesAll (env : Surroundings σ) : Prop :=
  ∀ request s, ((env.makeWindow request).run s).1.isSome = true

theorem isDone_pursue {α : Type} {env : Surroundings σ} (hMakes : env.MakesAll) (run : UiRun α)
    (s : σ) : ((pursue env run).run s).1.isDone = true := by
  induction run generalizing s with
  | done value => rfl
  | ask request resume ih =>
    rw [run_pursue_ask]
    have hSome := hMakes request s
    generalize (env.makeWindow request).run s = made at hSome ⊢
    obtain ⟨reply, after⟩ := made
    cases reply with
    | none => contradiction
    | some reply => exact ih reply after

/-- The worker has no step left, and waits for no window if all are made at once. -/
structure Rests (engine : Engine μ ρ) (env : Surroundings σ) (b : Bridge μ ρ) : Prop where
  step : b.step engine = none
  wants : env.MakesAll → b.wants? = none

variable (engine : Engine μ ρ) (env : Surroundings σ)

theorem rests_exit (b : Bridge μ ρ) (failure : Option BridgeError) :
    Rests engine env (b.exit failure) := ⟨rfl, fun _ => rfl⟩

theorem rests_serve (requests : List Request) (b : Bridge μ ρ) (session : Session μ ρ) (s : σ) :
    Rests engine env ((serve engine env b session requests).run s).1 := by
  induction requests generalizing b session s with
  | nil =>
    show Rests engine env (if b.handles = 0 then _ else _)
    by_cases hHandles : b.handles = 0
    · rw [if_pos hHandles]
      exact rests_exit engine env _ none
    · rw [if_neg hHandles]
      exact ⟨if_neg hHandles, fun _ => rfl⟩
  | cons r rest ih =>
    cases r with
    | stop => exact rests_exit engine env b none
    | invoke ticket c =>
      rw [serve, StateT.run_bind]
      have hDone := fun hMakes : env.MakesAll =>
        isDone_pursue hMakes (session.invokeCommand engine c) s
      generalize (pursue env (session.invokeCommand engine c)).run s = pursued at hDone ⊢
      obtain ⟨left, after⟩ := pursued
      cases left with
      | ask request resume => exact ⟨rfl, fun hMakes => nomatch hDone hMakes⟩
      | done value => exact ih (b.finishCommand ticket value.1 value.2) value.2 _

/-- **After going on as far as possible the worker has no step left.** -/
theorem rests_advance (b : Bridge μ ρ) (s : σ) :
    Rests engine env ((advance engine env b).run s).1 := by
  rw [advance]
  cases hWorker : b.worker with
  | exited failure =>
    show Rests engine env b
    exact ⟨by rw [step, hWorker], fun _ => by rw [wants?, hWorker]⟩
  | idle session => exact rests_serve engine env b.queue b session s
  | importing run =>
    simp only [StateT.run_bind]
    have hDone := fun hMakes : env.MakesAll => isDone_pursue hMakes run s
    generalize (pursue env run).run s = pursued at hDone ⊢
    obtain ⟨left, after⟩ := pursued
    cases left with
    | ask request resume => exact ⟨rfl, fun hMakes => nomatch hDone hMakes⟩
    | done value =>
      obtain ⟨result, session⟩ := value
      cases result with
      | error e => exact rests_exit engine env b (some e)
      | ok done => exact rests_serve engine env b.queue b session after
  | running ticket run =>
    simp only [StateT.run_bind]
    have hDone := fun hMakes : env.MakesAll => isDone_pursue hMakes run s
    generalize (pursue env run).run s = pursued at hDone ⊢
    obtain ⟨left, after⟩ := pursued
    cases left with
    | ask request resume => exact ⟨rfl, fun hMakes => nomatch hDone hMakes⟩
    | done value =>
      exact rests_serve engine env b.queue (b.finishCommand ticket value.1 value.2) value.2 _

end ScriptWindows.Bridge
