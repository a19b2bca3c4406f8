/-!
# Dialogues

A computation that may ask questions: it either is done, or asks one and goes on with the
answer. Who answers is decided elsewhere, so the same computation can be answered at once, be
left waiting for an answer, or have its questions counted. Every dialogue comes to an end,
whatever the answers.

Main results:

* `bind_done`, `bind_assoc`: dialogues follow one another as computations do.
* `answerWith_bind`: answering two dialogues that follow one another is answering the first and
  then the second.
-/

namespace ScriptWindows

/-- A computation that asks questions of type `Q` and is answered by `A`. -/
inductive Dialogue (Q A α : Type)
  | done (value : α)
  | ask (question : Q) (resume : A → Dialogue Q A α)

namespace Dialogue

variable {Q A α β γ : Type}

/-- Go on with the value of a dialogue once it is done. -/
def bind : Dialogue Q A α → (α → Dialogue Q A β) → Dialogue Q A β
  | .done value, next => next value
  | .ask question resume, next => .ask question fun answer => (resume answer).bind next

instance : Monad (Dialogue Q A) where
  pure := .done
  bind := bind

/-- Ask one question. -/
def request (question : Q) : Dialogue Q A A := .ask question .done

/-- Answer every question as it comes. -/
def answerWith {m : Type → Type} [Monad m] (answer : Q → m A) : Dialogue Q A α → m α
  | .done value => pure value
  | .ask question resume => do (resume (← answer question)).answerWith answer

/-- Whether a dialogue is done without asking anything. -/
def isDone : Dialogue Q A α → Bool
  | .done _ => true
  | .ask .. => false

/-! ## Laws -/

theorem bind_done (d : Dialogue Q A α) : d.bind .done = d := by
  induction d with
  | done value => rfl
  | ask question resume ih => simp only [bind, ih]

theorem bind_assoc (d : Dialogue Q A α) (f : α → Dialogue Q A β) (g : β → Dialogue Q A γ) :
    (d.bind f).bind g = d.bind fun value => (f value).bind g := by
  induction d with
  | done value => rfl
  | ask question resume ih => simp only [bind, ih]

instance : LawfulMonad (Dialogue Q A) := LawfulMonad.mk' (Dialogue Q A)
  bind_done (fun _ _ => rfl) bind_assoc

/-- Answering two dialogues that follow one another is answering the first and then the
second. -/
theorem answerWith_bind {m : Type → Type} [Monad m] [LawfulMonad m] (answer : Q → m A)
    (d : Dialogue Q A α) (next : α → Dialogue Q A β) :
    (d.bind next).answerWith answer =
      d.answerWith answer >>= fun value => (next value).answerWith answer := by
  induction d with
  | done value => simp [bind, answerWith]
  | ask question resume ih => simp [bind, answerWith, ih]

end Dialogue

end ScriptWindows
