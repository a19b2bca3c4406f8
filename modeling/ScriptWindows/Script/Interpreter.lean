import ScriptWindows.Script.Evaluate

/-!
# The engine for programs

An engine whose module texts stand for programs, as a catalog tells. Calling a function of a
module runs its statements with the parameters of the command.

Main results:

* `exported_routine`: a function that is given out can be called.
* `interpreter_memory`: a new session remembers nothing.
-/

namespace ScriptWindows.Script

/-- Run a computation to its end, with what was thrown as the error it becomes. -/
def Run.conclude {α : Type} (run : Run α) (memory : Memory) :
    ScriptRun Routine (Except CommandError α × Memory) := do
  let (result, after) ← (run.run.run memory : Dialogue _ _ _)
  return (result.mapError Value.thrown, after)

/-- What is given out under a name, once its value is known. A function among the values does
nothing when it is called. -/
def Export.evaluated : Export → Run (Exported Routine)
  | .routine body => return .routine ⟨body⟩
  | .failing message => return .failing ⟨message, true⟩
  | .value e => do
    match ← e.eval none with
    | .routine => return .routine ⟨[]⟩
    | _ => return .value

/-- What is given out under names, in the order in which they were written. -/
def evaluateExports : List (String × Export) → Run (List (String × Exported Routine))
  | [] => return []
  | (name, e) :: rest => do
    let exported ← e.evaluated
    return (name, exported) :: (← evaluateExports rest)

/-- Everything a module gives out, in the order in which an object lists it. A module that
returns early gives out nothing. -/
def Program.exports : Program → Run (List (String × Exported Routine))
  | .malformed message => throw (.failure message)
  | .script top spec => do
    match ← Statement.runAll none top with
    | .returned _ => return []
    | .next =>
      match spec with
      | .fields entries => do return listed (← evaluateExports entries)
      | .other v => throw (.string (.ofString (Registry.wrongKind v.kind "object")))

/-- The engine for the programs that a catalog knows by their text. -/
def interpreter (catalog : String → Program) : Engine Memory Routine where
  memory := {}
  evaluate source memory := (catalog source).exports.conclude memory
  call routine parameters memory :=
    (do
      match ← Statement.runAll (some (listed (Value.ofFields parameters))) routine.body with
      | .next => return .undefined
      | .returned v => return v : Run Value).conclude memory |>.bind
        fun (result, after) => .done (result.bind Value.results, after)

/-- A catalog that knows one script by its text. Any other text gives out nothing. -/
def knowing (script : String) (program : Program) (source : String) : Program :=
  if source = script then program else .script [] (.fields [])

/-! ## Laws -/

/-- The one script that a catalog knows is found. -/
theorem knowing_self (script : String) (program : Program) :
    knowing script program script = program := by
  rw [knowing, if_pos rfl]

/-- An engine evaluates the script that it knows. -/
theorem evaluate_knowing (script : String) (program : Program) (memory : Memory) :
    (interpreter (knowing script program)).evaluate script memory =
      program.exports.conclude memory := by
  show (knowing script program script).exports.conclude memory = _
  rw [knowing_self]

/-- A function that is given out can be called. -/
theorem exported_routine (body : List Statement) :
    (Export.routine body).evaluated = pure (.routine ⟨body⟩) := rfl

/-- A new session remembers nothing. -/
theorem interpreter_memory (catalog : String → Program) :
    (interpreter catalog).memory = {} := rfl

end ScriptWindows.Script
