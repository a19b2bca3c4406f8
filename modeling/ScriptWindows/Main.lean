import ScriptWindows.CommandLine

/-!
# The program

Commands are read from the arguments and run on real files. A failure is told on standard error
and in the exit status.
-/

namespace ScriptWindows

/-- The cause of a failure of the system. -/
def FileError.ofSystem : IO.Error → FileError
  | .noFileOrDirectory .. => .notFound
  | .alreadyExists .. => .alreadyExists
  | .inappropriateType _ 20 _ => .notFolder
  | .inappropriateType _ 21 _ => .isFolder
  | .invalidArgument _ 36 _ => .nameTooLong
  | e => .other (toString e)

/-- Run an action and keep the cause if it fails. -/
def attempt {α : Type} (act : IO α) : IO (Except FileError α) := do
  try return .ok (← act)
  catch e => return .error (.ofSystem e)

instance : Files IO where
  readText path := do
    match ← attempt (IO.FS.readBinFile path.text) with
    | .error e => return .error e
    | .ok bytes =>
      match String.fromUTF8? bytes with
      | some text => return .ok text
      | none => return .error .notText
  writeText path text := attempt (IO.FS.writeBinFile path.text text.toUTF8)
  createFolders path :=
    if path.text = "" then return .ok () else attempt (IO.FS.createDirAll path.text)

/-- What is shown for a request for help. -/
def usage : String :=
  "Generate window sources from a script and register them in a project\n\n" ++
  "Usage: scriptui-gen <COMMAND>\n\n" ++
  "  patch <MANIFEST> [-f FOLDER]\n" ++
  "  emit <OUTPUT> [--namespace N] [--class C] [--script S] [--line L]\n" ++
  "  markup <OUTPUT> [-m MESSAGE] [--namespace N] [--class C] [--script S] [--line L]\n" ++
  "  generate <MANIFEST> [-f FOLDER] [-m MESSAGE] [--namespace N] [--class C] [--script S] [--line L]"

/-- What is told about arguments that are no command. -/
def CommandLine.UsageError.text : CommandLine.UsageError → String
  | .helpAsked | .nothingGiven => usage
  | .pathMissing => "error: a path is required"
  | .unknownArgument => "error: unexpected argument"
  | .unknownCommand => "error: unrecognized subcommand"
  | .valueMissing => "error: a value is required for an option"
  | .badValue => "error: invalid value for an option"
  | .repeated => "error: an option cannot be used multiple times"
  | .valueNotTaken => "error: unexpected value for an option that takes none"

end ScriptWindows

open ScriptWindows in
def main (args : List String) : IO UInt32 := do
  match CommandLine.parse args with
  | .error .helpAsked =>
    IO.println usage
    return 0
  | .error e =>
    IO.eprintln e.text
    return 2
  | .ok command =>
    match ← (command.run : ExceptT Failure IO Unit).run with
    | .ok () => return 0
    | .error e =>
      IO.eprintln ("scriptui-gen failed: " ++ e.message)
      return 1
