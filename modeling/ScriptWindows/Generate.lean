import ScriptWindows.Manifest.Patch
import ScriptWindows.Source.Emit

/-!
# Generating a window

Both files of a window are written into a folder beside the manifest, and the folder is
registered in the manifest. The manifest is read first, so a manifest that cannot be read leaves
no trace, and it is written last.

Main result: `generate_of_load_error`, a manifest that cannot be read ends the matter.
-/

namespace ScriptWindows

open Manifest Source

/-- Why a window could not be generated. -/
inductive GenerateError
  | createFolder (path : Path) (cause : FileError)
  | emit (cause : EmitError)
  | manifest (cause : ManifestError)
deriving DecidableEq, Repr

def GenerateError.message : GenerateError → String
  | .createFolder path cause =>
    "failed to create generated folder " ++ path.text ++ ": " ++ cause.message
  | .emit cause => cause.message
  | .manifest cause => cause.message

/-- The failure underneath an error, as the last part of its wording. -/
def GenerateError.cause? : GenerateError → Option String
  | .createFolder _ cause => some cause.message
  | .emit cause => cause.cause?
  | .manifest cause => cause.cause?

/-- The folder generated files go to unless another is named. -/
def defaultFolder : String := "Generated"

/-- What is to be generated. -/
structure GenerateRequest where
  manifest : Path
  folder : String := defaultFolder
  code : CodeBehind := {}
  message : String := ""
deriving Repr

namespace GenerateRequest

/-- The folder of generated files, beside the manifest. -/
def folderPath (r : GenerateRequest) : Path := (r.manifest.parent.getD ⟨"."⟩).join ⟨r.folder⟩

def pagePath (r : GenerateRequest) : Path := r.folderPath.join ⟨r.code.className ++ ".xaml"⟩

def codePath (r : GenerateRequest) : Path := r.folderPath.join ⟨r.code.className ++ ".xaml.cs"⟩

/-- The page of the window. -/
def page (r : GenerateRequest) : Page := .ofCodeBehind r.code r.message

end GenerateRequest

/-- Where a window's files are, and what was added to the manifest. -/
structure GeneratedWindow where
  page : Path
  code : Path
  patch : PatchOutcome
deriving DecidableEq, Repr

section
variable {m : Type → Type} [Monad m] [Files m]

/-- Write both files of a window and register their folder. -/
def generate (r : GenerateRequest) : ExceptT GenerateError m GeneratedWindow := do
  let d ← (Document.load r.manifest).adapt .manifest
  match ← (Files.createFolders r.folderPath : m _) with
  | .error cause => throw (.createFolder r.folderPath cause)
  | .ok () => pure ()
  (emitPage r.page r.pagePath).adapt .emit
  (emitCodeBehind r.code r.codePath).adapt .emit
  let (outcome, registered) := d.register r.folder
  (registered.save r.manifest).adapt .manifest
  pure ⟨r.pagePath, r.codePath, outcome⟩

end

/-! ## Laws -/

/-- A manifest that cannot be read ends the matter: nothing is made and nothing is written. -/
theorem generate_of_load_error {m : Type → Type} [Monad m] [LawfulMonad m] [Files m]
    {r : GenerateRequest} {cause : ManifestError}
    (h : (Document.load r.manifest : ExceptT ManifestError m _) = throw cause) :
    (generate r : ExceptT GenerateError m _) = throw (.manifest cause) := by
  have failed : (throw cause : ExceptT ManifestError m Document).adapt GenerateError.manifest =
      throw (.manifest cause) := by
    apply ExceptT.ext
    change Except.mapError GenerateError.manifest <$> pure (.error cause) = pure (.error _)
    rw [map_pure]
    rfl
  unfold generate
  rw [h, failed]
  apply ExceptT.ext
  simp

end ScriptWindows
