import Mathlib
import ScriptWindows.Ui.OpenWindows

/-!
# Windows that are kept

Windows are pushed and pruned in any order, each prune with a test of its own, which may have a state
and answer for one window now this way and now that. A window is told from all others by the number of
its push, whatever it shows.

Main results:

* `OpenWindows.prune_eq`: a prune asks about every window once and in order, and keeps those that were
  reported open.
* `OpenWindows.Keeps.keptWhileOpen`: what is kept after any course of pushes and prunes.
-/

namespace ScriptWindows.OpenWindows

variable {α σ : Type}

/-! ## One prune -/

/-- A test that also notes what it was asked and what it answered. -/
def heard (isOpen : α → StateM σ Bool) (window : α) : StateM (σ × List (α × Bool)) Bool := fun p =>
  let reply := (isOpen window).run p.1
  (reply.1, (reply.2, p.2 ++ [(window, reply.1)]))

/-- The questions that a prune asks, each with its answer. -/
def asked (w : OpenWindows α) (isOpen : α → StateM σ Bool) (s : σ) : List (α × Bool) :=
  ((w.prune (heard isOpen)).run (s, [])).2.2

theorem run_keepOpen_cons {isOpen : α → StateM σ Bool} {window : α} {rest others : List α}
    {s middle last : σ} {isKept : Bool} (hReply : (isOpen window).run s = (isKept, middle))
    (hRest : (keepOpen isOpen rest).run middle = (others, last)) :
    (keepOpen isOpen (window :: rest)).run s = (if isKept then window :: others else others, last) := by
  rw [keepOpen, StateT.run_bind, hReply]
  change ((keepOpen isOpen rest >>= _).run middle : Id _) = _
  rw [StateT.run_bind, hRest]
  rfl

/-- **Every window is asked about once and in order**, and those stay that are reported open. Listening
changes nothing. -/
theorem run_keepOpen (isOpen : α → StateM σ Bool) (ws : List α) (s : σ) (earlier : List (α × Bool)) :
    ∃ asked last, (keepOpen (heard isOpen) ws).run (s, earlier) =
        ((asked.filter Prod.snd).map Prod.fst, (last, earlier ++ asked)) ∧
      (keepOpen isOpen ws).run s = ((asked.filter Prod.snd).map Prod.fst, last) ∧
      asked.map Prod.fst = ws := by
  induction ws generalizing s earlier with
  | nil => exact ⟨[], s, by rw [List.append_nil]; rfl, rfl, rfl⟩
  | cons window rest ih =>
    cases hReply : (isOpen window).run s with
    | mk isKept middle =>
      obtain ⟨asked, last, hHeard, hRun, hAsked⟩ := ih middle (earlier ++ [(window, isKept)])
      have hNoted : (heard isOpen window).run (s, earlier) =
          (isKept, (middle, earlier ++ [(window, isKept)])) := by
        change (((isOpen window).run s).1, (((isOpen window).run s).2,
          earlier ++ [(window, ((isOpen window).run s).1)])) = _
        rw [hReply]
      have hKept : ((((window, isKept) :: asked).filter Prod.snd).map Prod.fst) =
          if isKept then window :: (asked.filter Prod.snd).map Prod.fst
          else (asked.filter Prod.snd).map Prod.fst := by
        cases isKept <;> simp
      refine ⟨(window, isKept) :: asked, last, ?_, ?_, by rw [List.map_cons, hAsked]⟩
      · rw [run_keepOpen_cons hNoted hHeard, hKept, List.append_assoc, List.singleton_append]
      · rw [run_keepOpen_cons hReply hRun, hKept]

/-- **What a prune does.** -/
theorem prune_eq (w : OpenWindows α) (isOpen : α → StateM σ Bool) (s : σ) :
    (w.asked isOpen s).map Prod.fst = w.windows ∧
      ((w.prune isOpen).run s).1.2.windows = ((w.asked isOpen s).filter Prod.snd).map Prod.fst ∧
      ((w.prune isOpen).run s).1.1 + ((w.prune isOpen).run s).1.2.size = w.size := by
  obtain ⟨asked, last, hHeard, hRun, hAsked⟩ := run_keepOpen isOpen w.windows s []
  have hAll : w.asked isOpen s = asked := by
    rw [OpenWindows.asked, prune, StateT.run_bind, hHeard]
    rfl
  have hPrune : (w.prune isOpen).run s =
      ((w.size - ((asked.filter Prod.snd).map Prod.fst).length, ⟨(asked.filter Prod.snd).map Prod.fst⟩),
        last) := by
    rw [prune, StateT.run_bind, hRun]
    rfl
  have hFewer : ((asked.filter Prod.snd).map Prod.fst).length ≤ w.size := by
    rw [size, ← hAsked, List.length_map, List.length_map]
    exact List.length_filter_le _ _
  rw [hAll, hPrune]
  exact ⟨hAsked, rfl, Nat.sub_add_cancel hFewer⟩

/-- A test that only looks at its state keeps the windows that it reports open there. -/
theorem prune_of_reads {isOpen : α → StateM σ Bool} {s : σ} {report : α → Bool}
    (h : ∀ window, (isOpen window).run s = (report window, s)) (w : OpenWindows α) :
    w.asked isOpen s = w.windows.map (fun window => (window, report window)) ∧
      ((w.prune isOpen).run s).1.2.windows = w.windows.filter report := by
  -- the state is the same before each question
  have hHeard : ∀ ws earlier, (keepOpen (heard isOpen) ws).run (s, earlier) =
      (ws.filter report, (s, earlier ++ ws.map fun window => (window, report window))) := by
    intro ws
    induction ws with
    | nil => intro earlier; rw [List.map_nil, List.append_nil]; rfl
    | cons window rest ih =>
      intro earlier
      have hNoted : (heard isOpen window).run (s, earlier) =
          (report window, (s, earlier ++ [(window, report window)])) := by
        change (((isOpen window).run s).1, (((isOpen window).run s).2,
          earlier ++ [(window, ((isOpen window).run s).1)])) = _
        rw [h]
      rw [run_keepOpen_cons hNoted (ih _), List.append_assoc, List.map_cons, List.singleton_append,
        List.filter_cons]
  have hAsked : w.asked isOpen s = w.windows.map (fun window => (window, report window)) := by
    rw [OpenWindows.asked, prune, StateT.run_bind, hHeard]
    rfl
  refine ⟨hAsked, ?_⟩
  rw [(w.prune_eq isOpen s).2.1, hAsked, List.filter_map, List.map_map]
  exact List.map_id' _

/-! ## Any course of pushes and prunes -/

/-- What was done to windows: one was pushed, or they were pruned, with the questions that were asked,
each with its answer, and the number of windows that were let go. -/
inductive WindowEvent (α : Type)
  | pushed (window : α)
  | pruned (asked : List (α × Bool)) (released : Nat)

namespace WindowEvent

@[simp] def pushed? : WindowEvent α → Option α
  | .pushed window => some window
  | .pruned .. => none

@[simp] def released? : WindowEvent α → Option Nat
  | .pushed _ => none
  | .pruned _ released => some released

end WindowEvent

/-- The windows that were pushed, in this order. -/
def pushedIn (past : List (WindowEvent α)) : List α := past.filterMap WindowEvent.pushed?

/-- How many windows each prune has let go. -/
def releasedIn (past : List (WindowEvent α)) : List Nat := past.filterMap WindowEvent.released?

@[simp] theorem pushedIn_pushed (past : List (WindowEvent α)) (window : α) :
    pushedIn (past ++ [.pushed window]) = pushedIn past ++ [window] := by
  simp [pushedIn]

@[simp] theorem pushedIn_pruned (past : List (WindowEvent α)) (asked : List (α × Bool))
    (released : Nat) : pushedIn (past ++ [.pruned asked released]) = pushedIn past := by
  simp [pushedIn]

@[simp] theorem releasedIn_pushed (past : List (WindowEvent α)) (window : α) :
    releasedIn (past ++ [.pushed window]) = releasedIn past := by
  simp [releasedIn]

@[simp] theorem releasedIn_pruned (past : List (WindowEvent α)) (asked : List (α × Bool))
    (released : Nat) : releasedIn (past ++ [.pruned asked released]) = releasedIn past ++ [released] := by
  simp [releasedIn]

/-- The windows that are kept after a course of pushes and prunes from none on. Each window has the
number of its push; each prune has a test in a state of its own. -/
inductive Keeps : List (WindowEvent (Nat × α)) → OpenWindows (Nat × α) → Prop
  | nil : Keeps [] {}
  | push {past : List (WindowEvent (Nat × α))} {w : OpenWindows (Nat × α)} (h : Keeps past w)
      (window : α) :
      Keeps (past ++ [.pushed ((pushedIn past).length, window)])
        (w.push ((pushedIn past).length, window))
  | prune {past : List (WindowEvent (Nat × α))} {w : OpenWindows (Nat × α)} {σ : Type}
      (h : Keeps past w) (isOpen : Nat × α → StateM σ Bool) (s : σ) :
      Keeps (past ++ [.pruned (w.asked isOpen s) ((w.prune isOpen).run s).1.1])
        ((w.prune isOpen).run s).1.2

namespace Keeps

variable {past : List (WindowEvent (Nat × α))} {w : OpenWindows (Nat × α)}

/-- Windows are numbered in the order in which they are pushed. -/
theorem numbers (h : Keeps past w) :
    (pushedIn past).map Prod.fst = List.range (pushedIn past).length := by
  induction h with
  | nil => rfl
  | push h window ih => simp [ih, List.range_succ]
  | prune h isOpen s ih => simpa using ih

/-- What is kept stands in the order in which it was pushed. -/
theorem order (h : Keeps past w) : w.windows.Sublist (pushedIn past) := by
  induction h with
  | nil => exact List.Sublist.refl _
  | push h window ih =>
    rw [windows_push, pushedIn_pushed]
    exact ih.append (List.Sublist.refl _)
  | @prune past w σ h isOpen s ih =>
    obtain ⟨hAsked, hKept, -⟩ := w.prune_eq isOpen s
    rw [hKept, pushedIn_pruned]
    exact (List.filter_sublist.map Prod.fst).trans (hAsked ▸ ih)

theorem nodup (h : Keeps past w) : (w.windows.map Prod.fst).Nodup := by
  refine (h.order.map Prod.fst).nodup ?_
  rw [h.numbers]
  exact List.nodup_range

/-- **A window is kept if and only if every prune since its push has reported it open.** -/
theorem mem_windows_iff (h : Keeps past w) {x : Nat × α} :
    x ∈ w.windows ↔ ∃ earlier later, past = earlier ++ .pushed x :: later ∧
      ∀ asked released, .pruned asked released ∈ later → (x, true) ∈ asked := by
  induction h with
  | nil => simp
  | @push past w h window ih =>
    rw [windows_push, List.mem_append, List.mem_singleton, ih]
    constructor
    · rintro (⟨earlier, later, rfl, hOpen⟩ | rfl)
      · -- a push is no prune
        refine ⟨earlier, later ++ [.pushed _], by rw [List.append_assoc, List.cons_append], ?_⟩
        intro asked released hIn
        exact hOpen asked released (by simpa using hIn)
      · exact ⟨past, [], rfl, by simp⟩
    · rintro ⟨earlier, later, hPast, hOpen⟩
      -- the last event is this push, or it is behind the push of the window
      rcases List.eq_nil_or_concat' later with rfl | ⟨others, last, rfl⟩
      · obtain ⟨-, hLast⟩ := List.append_inj' hPast rfl
        exact .inr (WindowEvent.pushed.inj (List.singleton_inj.1 hLast)).symm
      · rw [← List.cons_append, ← List.append_assoc] at hPast
        obtain ⟨rfl, -⟩ := List.append_inj' hPast rfl
        exact .inl ⟨earlier, others, rfl, fun asked released hIn =>
          hOpen asked released (List.mem_append_left _ hIn)⟩
  | @prune past w σ h isOpen s ih =>
    obtain ⟨hAsked, hKept, -⟩ := w.prune_eq isOpen s
    have hMem : x ∈ ((w.prune isOpen).run s).1.2.windows ↔ (x, true) ∈ w.asked isOpen s := by
      rw [hKept]
      simp
    have hBefore : (x, true) ∈ w.asked isOpen s → x ∈ w.windows := by
      intro hIn
      rw [← hAsked]
      exact List.mem_map_of_mem (f := Prod.fst) hIn
    rw [hMem]
    constructor
    · intro hIn
      -- it was kept until now, and this prune has reported it open as well
      obtain ⟨earlier, later, rfl, hOpen⟩ := ih.1 (hBefore hIn)
      refine ⟨earlier, later ++ [.pruned _ _], by rw [List.append_assoc, List.cons_append], ?_⟩
      intro asked released hEvent
      rcases List.mem_append.1 hEvent with hEarlier | hLast
      · exact hOpen asked released hEarlier
      · obtain ⟨rfl, -⟩ := WindowEvent.pruned.inj (List.mem_singleton.1 hLast)
        exact hIn
    · rintro ⟨earlier, later, hPast, hOpen⟩
      rcases List.eq_nil_or_concat' later with rfl | ⟨others, last, rfl⟩
      · obtain ⟨-, hLast⟩ := List.append_inj' hPast rfl
        have := List.singleton_inj.1 hLast
        contradiction
      · rw [← List.cons_append, ← List.append_assoc] at hPast
        obtain ⟨-, hLast⟩ := List.append_inj' hPast rfl
        exact hOpen _ _ (List.mem_append_right _ (hLast ▸ List.mem_cons_self))

/-- **A window that is not kept any more was reported closed.** -/
theorem reported (h : Keeps past w) {x : Nat × α} (hPushed : x ∈ pushedIn past) :
    x ∈ w.windows ∨ ∃ asked released, .pruned asked released ∈ past ∧ (x, false) ∈ asked := by
  induction h with
  | nil => contradiction
  | @push past w h window ih =>
    rw [pushedIn_pushed, List.mem_append, List.mem_singleton] at hPushed
    rw [windows_push, List.mem_append, List.mem_singleton]
    rcases hPushed with hEarlier | rfl
    · rcases ih hEarlier with hKept | ⟨asked, released, hIn, hClosed⟩
      · exact .inl (.inl hKept)
      · exact .inr ⟨asked, released, List.mem_append_left _ hIn, hClosed⟩
    · exact .inl (.inr rfl)
  | @prune past w σ h isOpen s ih =>
    obtain ⟨hAsked, hKept, -⟩ := w.prune_eq isOpen s
    rw [pushedIn_pruned] at hPushed
    rcases ih hPushed with hBefore | ⟨asked, released, hIn, hClosed⟩
    · rw [← hAsked, List.mem_map] at hBefore
      obtain ⟨⟨y, isOpen⟩, hIn, rfl⟩ := hBefore
      cases isOpen with
      | true => exact .inl (by rw [hKept]; simpa using hIn)
      | false => exact .inr ⟨_, _, List.mem_append_right _ List.mem_cons_self, hIn⟩
    · exact .inr ⟨asked, released, List.mem_append_left _ hIn, hClosed⟩

/-- **A prune asks about every window that is kept, once and in order.** -/
theorem asked_before (h : Keeps past w) {earlier later : List (WindowEvent (Nat × α))}
    {asked : List ((Nat × α) × Bool)} {released : Nat}
    (hPast : past = earlier ++ .pruned asked released :: later) :
    ∃ before, Keeps earlier before ∧ asked.map Prod.fst = before.windows := by
  induction h generalizing later with
  | nil => simp at hPast
  | @push past w h window ih =>
    rcases List.eq_nil_or_concat' later with rfl | ⟨others, last, rfl⟩
    · obtain ⟨-, hLast⟩ := List.append_inj' hPast rfl
      have := List.singleton_inj.1 hLast
      contradiction
    · rw [← List.cons_append, ← List.append_assoc] at hPast
      exact ih (List.append_inj' hPast rfl).1
  | @prune past w σ h isOpen s ih =>
    rcases List.eq_nil_or_concat' later with rfl | ⟨others, last, rfl⟩
    · obtain ⟨rfl, hLast⟩ := List.append_inj' hPast rfl
      obtain ⟨rfl, -⟩ := WindowEvent.pruned.inj (List.singleton_inj.1 hLast)
      exact ⟨w, h, (w.prune_eq isOpen s).1⟩
    · rw [← List.cons_append, ← List.append_assoc] at hPast
      exact ih (List.append_inj' hPast rfl).1

/-- **Windows that were pushed are kept or were let go.** -/
theorem counts (h : Keeps past w) : (pushedIn past).length = w.size + (releasedIn past).sum := by
  induction h with
  | nil => rfl
  | push h window ih =>
    rw [pushedIn_pushed, releasedIn_pushed, List.length_append, ih, size, size, windows_push,
      List.length_append]
    simp only [List.length_singleton]
    omega
  | @prune past w σ h isOpen s ih =>
    have hReleased := (w.prune_eq isOpen s).2.2
    rw [pushedIn_pruned, releasedIn_pruned, List.sum_append, ih, List.sum_singleton]
    omega

end Keeps

/-- What is kept after a course of pushes and prunes. -/
structure KeptWhileOpen (past : List (WindowEvent (Nat × α))) (w : OpenWindows (Nat × α)) : Prop where
  /-- A window is told from all others by the number of its push. -/
  numbers : (pushedIn past).map Prod.fst = List.range (pushedIn past).length
  /-- Windows stand in the order in which they were pushed. -/
  order : w.windows.Sublist (pushedIn past)
  /-- Those are kept that every later prune has reported open. -/
  kept : ∀ x, x ∈ w.windows ↔ ∃ earlier later, past = earlier ++ .pushed x :: later ∧
    ∀ asked released, .pruned asked released ∈ later → (x, true) ∈ asked
  /-- A prune asks about every window that is kept then, once and in order. -/
  asked : ∀ earlier asked released later, past = earlier ++ .pruned asked released :: later →
    ∃ before, Keeps earlier before ∧ asked.map Prod.fst = before.windows
  /-- What was pushed is kept or was let go. -/
  counts : (pushedIn past).length = w.size + (releasedIn past).sum

/-- **What is kept** after any course of pushes and prunes. -/
theorem Keeps.keptWhileOpen {past : List (WindowEvent (Nat × α))} {w : OpenWindows (Nat × α)}
    (h : Keeps past w) : KeptWhileOpen past w where
  numbers := h.numbers
  order := h.order
  kept _ := h.mem_windows_iff
  asked _ _ _ _ hPast := h.asked_before hPast
  counts := h.counts

end ScriptWindows.OpenWindows
