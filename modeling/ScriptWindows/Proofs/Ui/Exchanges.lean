import ScriptWindows.Ui.Dialogue

/-!
# Dialogues as far as they went

Who answers the questions of a dialogue is decided outside of it. What a dialogue comes to is
therefore told beside the exchange it had: its questions, each with the answer it got. Nothing is
assumed about the answers.

Main results:

* `Dialogue.After.unique`: what a dialogue comes to depends on the answers alone.
* `Dialogue.ends_bind_done`: what is done with the value of a dialogue has no exchange of its own.
* `Dialogue.exists_ends_of_answerWith`: a dialogue that is answered in a state has an exchange.
-/

namespace ScriptWindows.Dialogue

variable {Q A α β : Type}

/-- What is left of a dialogue after an exchange. -/
inductive After : Dialogue Q A α → List (Q × A) → Dialogue Q A α → Prop
  | refl (d : Dialogue Q A α) : After d [] d
  | ask {question : Q} {resume : A → Dialogue Q A α} {answer : A} {exchange : List (Q × A)}
      {rest : Dialogue Q A α} (h : After (resume answer) exchange rest) :
      After (.ask question resume) ((question, answer) :: exchange) rest

/-- A dialogue is done after an exchange, with this value. -/
def Ends (d : Dialogue Q A α) (exchange : List (Q × A)) (value : α) : Prop :=
  d.After exchange (.done value)

theorem ends_done {value value' : α} {exchange : List (Q × A)} :
    (Dialogue.done value : Dialogue Q A α).Ends exchange value' ↔
      exchange = [] ∧ value' = value := by
  constructor
  · intro h
    cases h with
    | refl => exact ⟨rfl, rfl⟩
  · rintro ⟨rfl, rfl⟩
    exact .refl _

theorem ends_done_mk {a a' : α} {b b' : β} {exchange : List (Q × A)} :
    (Dialogue.done (a, b) : Dialogue Q A (α × β)).Ends exchange (a', b') ↔
      exchange = [] ∧ a' = a ∧ b' = b := by
  rw [ends_done, Prod.mk.injEq]

/-- A dialogue that asks ends after its question was answered and the rest has ended. -/
theorem ends_ask {question : Q} {resume : A → Dialogue Q A α} {exchange : List (Q × A)} {value : α} :
    (Dialogue.ask question resume).Ends exchange value ↔
      ∃ answer rest, exchange = (question, answer) :: rest ∧ (resume answer).Ends rest value := by
  constructor
  · intro h
    cases h with
    | ask h => exact ⟨_, _, rfl, h⟩
  · rintro ⟨answer, rest, rfl, h⟩
    exact .ask h

/-- One more answer carries a dialogue one step further. -/
theorem After.answered {d : Dialogue Q A α} {exchange : List (Q × A)} {question : Q}
    {resume : A → Dialogue Q A α} (h : d.After exchange (.ask question resume)) (answer : A) :
    d.After (exchange ++ [(question, answer)]) (resume answer) := by
  generalize hLast : Dialogue.ask question resume = last at h
  -- the question stands at the end, so the induction is on the exchange before it
  induction h with
  | refl d =>
    subst hLast
    exact .ask (.refl _)
  | ask h ih => exact .ask (ih hLast)

/-- **What is left of a dialogue depends on the answers alone.** -/
theorem After.unique {d rest rest' : Dialogue Q A α} {exchange : List (Q × A)}
    (h : d.After exchange rest) (h' : d.After exchange rest') : rest = rest' := by
  induction h with
  | refl d =>
    cases h' with
    | refl => rfl
  | ask h ih =>
    cases h' with
    | ask h' => exact ih h'

/-- **What is done with the value of a dialogue** has no exchange of its own. -/
theorem ends_bind_done {d : Dialogue Q A α} {f : α → β} {exchange : List (Q × A)} {value : β} :
    (d.bind fun a => .done (f a)).Ends exchange value ↔
      ∃ a, d.Ends exchange a ∧ f a = value := by
  -- each question of the dialogue is one of the whole
  induction d generalizing exchange with
  | done a =>
    rw [bind, ends_done]
    constructor
    · rintro ⟨rfl, rfl⟩
      exact ⟨a, .refl _, rfl⟩
    · rintro ⟨b, hEnds, rfl⟩
      obtain ⟨rfl, rfl⟩ := ends_done.1 hEnds
      exact ⟨rfl, rfl⟩
  | ask question resume ih =>
    rw [bind]
    constructor
    · intro h
      cases h with
      | ask h =>
        obtain ⟨a, hEnds, hValue⟩ := (ih _).1 h
        exact ⟨a, .ask hEnds, hValue⟩
    · rintro ⟨a, hEnds, hValue⟩
      cases hEnds with
      | ask hEnds => exact .ask ((ih _).2 ⟨a, hEnds, hValue⟩)

theorem ends_bind_done_mk {γ : Type} {d : Dialogue Q A (α × β)} {f : α → γ}
    {exchange : List (Q × A)} {c : γ} {b : β} :
    (d.bind fun r => .done (f r.1, r.2)).Ends exchange (c, b) ↔
      ∃ a, d.Ends exchange (a, b) ∧ f a = c := by
  rw [ends_bind_done]
  constructor
  · rintro ⟨⟨a, b'⟩, hEnds, hValue⟩
    obtain ⟨rfl, rfl⟩ := Prod.mk.inj hValue
    exact ⟨a, hEnds, rfl⟩
  · rintro ⟨a, hEnds, rfl⟩
    exact ⟨(a, b), hEnds, rfl⟩

/-! ## Answers in a state -/

/-- Questions that were asked one after another of what answers them in a state, and the state that
this leads to. -/
inductive Answered {σ : Type} (answer : Q → StateM σ A) : σ → List (Q × A) → σ → Prop
  | nil (s : σ) : Answered answer s [] s
  | cons {s middle last : σ} {question : Q} {reply : A} {rest : List (Q × A)}
      (hReply : (answer question).run s = (reply, middle))
      (h : Answered answer middle rest last) :
      Answered answer s ((question, reply) :: rest) last

/-- Answer every question as it comes, and keep the exchange. -/
def overheard {σ : Type} (answer : Q → StateM σ A) :
    Dialogue Q A α → StateM σ (List (Q × A) × α)
  | .done value => pure ([], value)
  | .ask question resume => do
    let reply ← answer question
    let (exchange, value) ← (resume reply).overheard answer
    pure ((question, reply) :: exchange, value)

theorem run_overheard_ask {σ : Type} (answer : Q → StateM σ A) (question : Q)
    (resume : A → Dialogue Q A α) (s : σ) :
    ((Dialogue.ask question resume).overheard answer).run s =
      match (answer question).run s with
      | (reply, middle) =>
        match ((resume reply).overheard answer).run middle with
        | ((exchange, value), last) => (((question, reply) :: exchange, value), last) := rfl

/-- Listening changes nothing. -/
theorem answerWith_eq_overheard {σ : Type} (answer : Q → StateM σ A) (d : Dialogue Q A α) :
    d.answerWith answer = Prod.snd <$> d.overheard answer := by
  induction d with
  | done value => rfl
  | ask question resume ih =>
    simp only [answerWith, overheard, map_bind, map_pure, ih]
    rfl

/-- **What was overheard** was answered in the state, and the dialogue is done after it. -/
theorem ends_of_overheard {σ : Type} {answer : Q → StateM σ A} {d : Dialogue Q A α} {s last : σ}
    {exchange : List (Q × A)} {value : α}
    (h : (d.overheard answer).run s = ((exchange, value), last)) :
    Answered answer s exchange last ∧ d.Ends exchange value := by
  -- each question is answered where the one before it left the state
  induction d generalizing s exchange with
  | done a =>
    obtain ⟨hDone, rfl⟩ := Prod.mk.inj h
    obtain ⟨rfl, rfl⟩ := Prod.mk.inj hDone
    exact ⟨.nil _, .refl _⟩
  | ask question resume ih =>
    cases hReply : (answer question).run s with
    | mk reply middle =>
      rw [run_overheard_ask, hReply] at h
      cases hRest : ((resume reply).overheard answer).run middle with
      | mk r after =>
        simp only [hRest] at h
        obtain ⟨hDone, rfl⟩ := Prod.mk.inj h
        obtain ⟨rfl, rfl⟩ := Prod.mk.inj hDone
        obtain ⟨hAnswered, hEnds⟩ := ih reply hRest
        exact ⟨.cons hReply hAnswered, .ask hEnds⟩

/-- **A dialogue that is answered in a state** has an exchange of these answers, and is done after
it. -/
theorem exists_ends_of_answerWith {σ : Type} {answer : Q → StateM σ A} {d : Dialogue Q A α}
    {s last : σ} {value : α} (h : (d.answerWith answer).run s = (value, last)) :
    ∃ exchange, Answered answer s exchange last ∧ d.Ends exchange value := by
  rw [answerWith_eq_overheard, StateT.run_map] at h
  cases hHeard : (d.overheard answer).run s with
  | mk r after =>
    rw [hHeard] at h
    obtain ⟨rfl, rfl⟩ := Prod.mk.inj h
    exact ⟨r.1, ends_of_overheard hHeard⟩

end ScriptWindows.Dialogue
