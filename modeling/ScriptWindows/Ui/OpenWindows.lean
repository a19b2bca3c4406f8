/-!
# Open windows

The windows that are kept alive, in the order in which they were opened. Closed ones are let go
by asking about each window once, in that order; the test may have effects.

Main results:

* `windows_push`: an opened window is the last one.
* `released_add_length`: those released and those kept are all there were.
* `prune_pure`: with a test that has no effect, exactly the windows it reports open are kept.
-/

namespace ScriptWindows

/-- Windows that are kept alive. -/
structure OpenWindows (α : Type) where
  windows : List α := []
deriving Repr

namespace OpenWindows

variable {α : Type}

def push (w : OpenWindows α) (window : α) : OpenWindows α := ⟨w.windows ++ [window]⟩

def size (w : OpenWindows α) : Nat := w.windows.length

def isEmpty (w : OpenWindows α) : Bool := w.windows.isEmpty

/-- The windows a test reports open, each asked about once and in order. -/
def keepOpen {m : Type → Type} [Monad m] (isOpen : α → m Bool) : List α → m (List α)
  | [] => pure []
  | window :: rest => do
    let kept ← isOpen window
    let others ← keepOpen isOpen rest
    pure (if kept then window :: others else others)

/-- Let go of every window a test reports closed, and tell how many those were. -/
def prune {m : Type → Type} [Monad m] (w : OpenWindows α) (isOpen : α → m Bool) :
    m (Nat × OpenWindows α) := do
  let kept ← keepOpen isOpen w.windows
  pure (w.size - kept.length, ⟨kept⟩)

/-! ## Laws -/

theorem windows_push (w : OpenWindows α) (window : α) :
    (w.push window).windows = w.windows ++ [window] := rfl

theorem keepOpen_pure (isOpen : α → Bool) (ws : List α) :
    keepOpen (m := Id) (fun w => pure (isOpen w)) ws = pure (ws.filter isOpen) := by
  induction ws with
  | nil => rfl
  | cons w ws ih =>
    simp only [keepOpen, ih, List.filter_cons]
    rfl

/-- With a test that has no effect, exactly the windows it reports open are kept. -/
theorem prune_pure (w : OpenWindows α) (isOpen : α → Bool) :
    w.prune (m := Id) (fun x => pure (isOpen x)) =
      pure (w.size - (w.windows.filter isOpen).length, ⟨w.windows.filter isOpen⟩) := by
  simp only [prune, keepOpen_pure]
  rfl

/-- Those released and those kept are all there were. -/
theorem released_add_length (w : OpenWindows α) (isOpen : α → Bool) :
    w.size - (w.windows.filter isOpen).length + (w.windows.filter isOpen).length = w.size :=
  Nat.sub_add_cancel (List.length_filter_le isOpen w.windows)

end OpenWindows

end ScriptWindows
