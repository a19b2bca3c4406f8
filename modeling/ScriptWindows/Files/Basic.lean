import ScriptWindows.Path

/-!
# Reading and writing files

What a program asks of the place its files live in: read a text, write a text, make a folder
with everything above it. The causes for which that can fail carry their wording. Programs are
written against the class `Files`, so that they run on real files and on a tree in memory alike.
-/

namespace ScriptWindows

/-- Why a file or folder could not be opened, read or made. -/
inductive FileError
  | notFound
  | alreadyExists
  | notFolder
  | isFolder
  | nameTooLong
  | notText
  | zeroByte
  | other (text : String)
deriving DecidableEq, Repr

/-- The system's wording for a failure. -/
def FileError.message : FileError → String
  | .notFound => "No such file or directory (os error 2)"
  | .alreadyExists => "File exists (os error 17)"
  | .notFolder => "Not a directory (os error 20)"
  | .isFolder => "Is a directory (os error 21)"
  | .nameTooLong => "File name too long (os error 36)"
  | .notText => "stream did not contain valid UTF-8"
  | .zeroByte => "file name contained an unexpected NUL byte"
  | .other text => text

/-- A place where files live. -/
class Files (m : Type → Type) where
  /-- The text of a file. -/
  readText : Path → m (Except FileError String)
  /-- Make a file hold exactly this text. The old text is dropped first, so a write that fails may
  leave an empty file behind, or a part of the text. -/
  writeText : Path → String → m (Except FileError Unit)
  /-- Make a folder and every missing folder above it. -/
  createFolders : Path → m (Except FileError Unit)

end ScriptWindows
