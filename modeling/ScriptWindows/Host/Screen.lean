import ScriptWindows.Bridge.Desk
import ScriptWindows.Ui.OpenWindows

/-!
# The screen of the host

What the UI thread holds: the status line of the main window and the message windows. A message
window that is no longer visible is kept until closed windows are let go, which happens before
each new window and after a user has closed one.

Main results:

* `windows_releaseClosed`: exactly the visible windows are kept.
* `visible_createWindow`: a new window takes away no visible one.
-/

namespace ScriptWindows

/-- A window that shows a message. -/
structure MessageWindow where
  title : String
  message : String
  isVisible : Bool := true
deriving DecidableEq, Repr

/-- Whether a window is listed does not say that it is visible. The status line shows the last
status that was set. -/
structure Screen where
  windows : OpenWindows MessageWindow := {}
  statuses : List String := []
  calls : List (WindowRequest × Except String Unit) := []

namespace Screen

/-- What the status line shows. -/
def status (s : Screen) : String := s.statuses.getLastD "Ready"

def setStatus (s : Screen) (text : String) : Screen := { s with statuses := s.statuses ++ [text] }

/-- Let go of every window that is no longer visible. -/
def releaseClosed (s : Screen) : Screen :=
  { s with windows := (s.windows.prune (m := Id) fun w => pure w.isVisible).2 }

/-- Hide the window at a place of the list. It stays listed. -/
def hide (s : Screen) (place : Nat) : Screen :=
  { s with windows := ⟨s.windows.windows.modify place fun w => { w with isVisible := false }⟩ }

/-- Make a window, if the shell can, and keep it. Closed ones are let go first. -/
def createWindow (shell : Shell) (request : WindowRequest) (s : Screen) :
    Except String Unit × Screen :=
  let result := shell s.calls.length request
  let noted := { s.releaseClosed with calls := s.calls ++ [(request, result)] }
  match result with
  | .ok () =>
    (.ok (), { noted with windows := noted.windows.push ⟨request.title, request.message, true⟩ })
  | .error reason => (.error reason, noted)

/-! ## Laws -/

/-- Exactly the visible windows are kept. -/
theorem windows_releaseClosed (s : Screen) :
    s.releaseClosed.windows.windows = s.windows.windows.filter (·.isVisible) := by
  have pruned := OpenWindows.prune_pure s.windows (·.isVisible)
  simp only [releaseClosed, pruned]
  rfl

/-- A new window takes away no visible one. -/
theorem visible_createWindow (shell : Shell) (request : WindowRequest) (s : Screen) :
    s.windows.windows.filter (·.isVisible) <+:
      (createWindow shell request s).2.windows.windows := by
  unfold createWindow
  dsimp only
  split
  · simp only [OpenWindows.windows_push, windows_releaseClosed]
    exact List.prefix_append _ _
  · simp only [windows_releaseClosed]
    exact List.prefix_refl _

end Screen

end ScriptWindows
