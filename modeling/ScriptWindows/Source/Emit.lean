import ScriptWindows.Files.Basic
import ScriptWindows.Source.Page

/-!
# Writing generated files

A generated text is made first and written afterwards, so that a fault in it leaves the
destination as it was.

Main result: `emitCodeBehind_of_fault`, a source file that cannot be made is not written.
-/

namespace ScriptWindows.Source

/-- Why a generated file could not be made or written. -/
inductive EmitError
  | mapping (cause : MappingError)
  | write (path : Path) (cause : FileError)
deriving DecidableEq, Repr

def EmitError.message : EmitError → String
  | .mapping cause => cause.message
  | .write path cause => "failed to write " ++ path.text ++ ": " ++ cause.message

/-- The failure underneath an error, as the last part of its wording. -/
def EmitError.cause? : EmitError → Option String
  | .mapping _ => none
  | .write _ cause => some cause.message

section
variable {m : Type → Type} [Monad m] [Files m]

/-- Write a generated text. -/
def emitText (path : Path) (text : String) : ExceptT EmitError m Unit := do
  match ← (Files.writeText path text : m _) with
  | .ok () => pure ()
  | .error cause => throw (.write path cause)

/-- Write the page of a window. -/
def emitPage (page : Page) (path : Path) : ExceptT EmitError m Unit := emitText path page.render

/-- Write the source file of a window. -/
def emitCodeBehind (code : CodeBehind) (path : Path) : ExceptT EmitError m Unit := do
  match code.render with
  | .error cause => throw (.mapping cause)
  | .ok text => emitText path text

/-- A source file that cannot be made is not written. -/
theorem emitCodeBehind_of_fault {code : CodeBehind} {cause : MappingError}
    (h : code.render = .error cause) (path : Path) :
    (emitCodeBehind code path : ExceptT EmitError m Unit) = throw (.mapping cause) := by
  simp [emitCodeBehind, h]

end

end ScriptWindows.Source
