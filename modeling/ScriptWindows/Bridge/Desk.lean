import ScriptWindows.Bridge.Session
import ScriptWindows.Ui.Dispatch

/-!
# Answering requests for windows

A shell makes the windows that scripts ask for. Each request goes to the UI thread by way of a
dispatcher; there the shell is called, and every call is kept with the thread it came on.

Main results:

* `createWindow_of_dropped`: a task that is dropped makes no window.
* `createWindow_of_isUi`: on the UI thread the shell is called at once.
-/

namespace ScriptWindows

/-- What a shell says to the request that comes after so many others. -/
abbrev Shell := Nat → WindowRequest → Except String Unit

/-- A request that reached a shell, the thread on which it did, and what the shell said. -/
structure ShellCall where
  request : WindowRequest
  thread : Thread
  result : Except String Unit

/-- Tasks posted and requests that reached the shell. -/
abbrev Desk := Posting (List ShellCall)

namespace Desk

/-- Call the shell on a thread. -/
def callShell (shell : Shell) (request : WindowRequest) (t : Thread) :
    StateM Desk (Except String Unit) := fun desk =>
  let result := shell desk.state.length request
  (result, { desk with state := desk.state ++ [⟨request, t, result⟩] })

/-- Bring a request to the shell. -/
def createWindow (d : Dispatcher) (shell : Shell) (caller : Thread) (request : WindowRequest) :
    StateM Desk UiReply :=
  d.onUiThread caller (callShell shell request)

/-- Answer a computation that asks for windows. -/
def answer {α : Type} (d : Dispatcher) (shell : Shell) (caller : Thread) (run : UiRun α) :
    StateM Desk α :=
  run.answerWith (createWindow d shell caller)

/-- The windows that were made, in order. -/
def windows (desk : Desk) : List ShellCall := desk.state.filter (·.result.isOk)

/-! ## Laws -/

/-- On the UI thread the shell is called at once. -/
theorem createWindow_of_isUi {d : Dispatcher} {caller : Thread} (h : d.isUi caller = true)
    (shell : Shell) (request : WindowRequest) (desk : Desk) :
    (createWindow d shell caller request).run desk =
      (.ok (shell desk.state.length request),
        { desk with state := desk.state ++
          [⟨request, caller, shell desk.state.length request⟩] }) :=
  Dispatcher.onUiThread_of_isUi h _ desk

/-- A task that is dropped makes no window. -/
theorem createWindow_of_dropped {d : Dispatcher} {caller : Thread} {desk : Desk}
    (h : d.isUi caller = false) (dropped : d.fate desk.posted caller = .dropped) (shell : Shell)
    (request : WindowRequest) :
    ((createWindow d shell caller request).run desk).2.state = desk.state := by
  unfold createWindow
  rw [Dispatcher.onUiThread_of_not_isUi h, dropped]

end Desk

end ScriptWindows
