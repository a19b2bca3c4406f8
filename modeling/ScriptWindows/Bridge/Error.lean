import ScriptWindows.Path

/-!
# Failures between host and scripts

Failures of a session or of the way to it. A command that throws is not one of them: that is
part of what the command reports.
-/

namespace ScriptWindows

/-- Why a session, or the way to it, could not do what it was asked. -/
inductive BridgeError
  | engine (reason : String)
  | importFailure (path : Path) (reason : String)
  | alreadyInitialized
  | sessionUnavailable (reason : String)
  | noPendingCommand
  | commandNotFound (name : String)
  | crossThread (operation : String)
  | uiUnavailable (reason : String)
  | blockingOnUiThread
  | queueFull (capacity : Nat)
  | workerStopped
deriving DecidableEq, Repr

def BridgeError.message : BridgeError → String
  | .engine reason => "failed to start script engine: " ++ reason
  | .importFailure path reason =>
    "failed to import command module " ++ path.text ++ ": " ++ reason
  | .alreadyInitialized => "command module already imported into this session"
  | .sessionUnavailable reason => "script session is unavailable: " ++ reason
  | .noPendingCommand => "no pending command to invoke"
  | .commandNotFound name => "command not found: " ++ name
  | .crossThread operation => "UI object touched off the UI thread during " ++ operation
  | .uiUnavailable reason => "UI event loop unavailable: " ++ reason
  | .blockingOnUiThread => "blocking bridge invocation on the UI thread would deadlock"
  | .queueFull capacity => s!"bridge queue is full (cap={capacity})"
  | .workerStopped => "bridge worker has stopped"

end ScriptWindows
