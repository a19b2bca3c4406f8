import ScriptWindows.Files.Basic
import ScriptWindows.Manifest.Document

/-!
# Registering a folder in a manifest

A folder of generated sources is registered by one item of each kind. An item is added only if
no item of its kind names the folder already, so registering a folder twice changes nothing.

Main results:

* `register_hasReference`: afterwards the folder is referenced by an item of each kind.
* `register_of_referenced`: a folder that is referenced already changes nothing.
-/

namespace ScriptWindows.Manifest

/-- Why a manifest could not be read or written. -/
inductive ManifestError
  | notFound (path : Path)
  | read (path : Path) (cause : FileError)
  | notText (path : Path)
  | parse (path : Path) (cause : SyntaxError)
  | write (path : Path) (cause : FileError)
  | cut (cause : NoBoundary)
deriving DecidableEq, Repr

def SyntaxError.message (e : SyntaxError) : String :=
  s!"byte {e.position}: " ++ e.cause.message

/-- The failure underneath an error, as the last part of its wording. -/
def ManifestError.cause? : ManifestError → Option String
  | .notFound _ => none
  | .read _ cause | .write _ cause => some cause.message
  | .notText _ => some "byte 0: manifest is not valid UTF-8"
  | .parse _ cause => some cause.message
  | .cut _ => none

def ManifestError.message (e : ManifestError) : String :=
  match e with
  | .notFound path => "manifest not found: " ++ path.text
  | .read path _ => "failed to read manifest " ++ path.text ++ ": " ++ e.cause?.getD ""
  | .notText path | .parse path _ =>
    "failed to parse manifest " ++ path.text ++ ": " ++ e.cause?.getD ""
  | .write path _ => "failed to write manifest " ++ path.text ++ ": " ++ e.cause?.getD ""
  | .cut cause => s!"byte {cause.offset} is not a character boundary"

/-- Which kinds of item a registration added. -/
structure PatchOutcome where
  pageAdded : Bool := false
  compileAdded : Bool := false
deriving DecidableEq, Repr

/-- Whether anything was added. -/
def PatchOutcome.changed (o : PatchOutcome) : Bool := o.pageAdded || o.compileAdded

/-- Add an item of a kind for a folder unless one names it already. -/
def Document.ensure (d : Document) (kind : ItemKind) (folder : String) : Document :=
  if d.hasReference kind folder then d else d.append ⟨kind, kind.pattern folder⟩

/-- The document in which a folder is registered, and what that took. -/
def Document.register (d : Document) (folder : String) : PatchOutcome × Document :=
  let paged := d.ensure .page folder
  (⟨!d.hasReference .page folder, !paged.hasReference .compile folder⟩,
    paged.ensure .compile folder)

section
variable {m : Type → Type} [Monad m] [Files m]

/-- Read a manifest file. -/
def Document.load (path : Path) : ExceptT ManifestError m Document := do
  match ← (Files.readText path : m _) with
  | .error .notFound => throw (.notFound path)
  | .error .notText => throw (.notText path)
  | .error cause => throw (.read path cause)
  | .ok text =>
    match Document.parse text with
    | .ok d => pure d
    | .error (.ill cause) => throw (.parse path cause)
    | .error (.cut cause) => throw (.cut cause)

/-- Write a manifest file. -/
def Document.save (d : Document) (path : Path) : ExceptT ManifestError m Unit := do
  match d.render with
  | .error cause => throw (.cut cause)
  | .ok text =>
    match ← (Files.writeText path text : m _) with
    | .ok () => pure ()
    | .error cause => throw (.write path cause)

/-- Register a folder in a manifest file. The file is written back even if nothing was added. -/
def patch (path : Path) (folder : String) : ExceptT ManifestError m PatchOutcome := do
  let (outcome, d) := (← Document.load path).register folder
  d.save path
  pure outcome

end

/-! ## Laws -/

theorem Document.hasReference_append (d : Document) (item : ItemReference) (kind : ItemKind)
    (folder : String) :
    (d.append item).hasReference kind folder =
      (d.hasReference kind folder || item.references kind folder) := by
  simp [hasReference, items_append]

/-- Adding an item takes no reference away. -/
theorem Document.hasReference_ensure_of_hasReference {d : Document} {kind kind' : ItemKind}
    {folder folder' : String} (h : d.hasReference kind folder = true) :
    (d.ensure kind' folder').hasReference kind folder = true := by
  unfold ensure
  split
  · exact h
  · simp [hasReference_append, h]

theorem Document.hasReference_ensure (d : Document) (kind : ItemKind) (folder : String) :
    (d.ensure kind folder).hasReference kind folder = true := by
  unfold ensure
  split
  next h => exact h
  next => simp [hasReference_append, references_pattern]

/-- Afterwards the folder is referenced by an item of each kind. -/
theorem Document.register_hasReference (d : Document) (folder : String) (kind : ItemKind) :
    (d.register folder).2.hasReference kind folder = true := by
  cases kind
  · exact hasReference_ensure_of_hasReference (d.hasReference_ensure .page folder)
  · exact (d.ensure .page folder).hasReference_ensure .compile folder

/-- A folder that is referenced already changes nothing. -/
theorem Document.register_of_referenced {d : Document} {folder : String}
    (h : ∀ kind, d.hasReference kind folder = true) : d.register folder = (⟨false, false⟩, d) := by
  simp [register, ensure, h .page, h .compile]

end ScriptWindows.Manifest
