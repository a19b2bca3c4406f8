import ScriptWindows.Generate

/-!
# The command line

Four commands: patch a manifest, write a source file, write a page, or do all of it. Each takes
one path and options with a value. Arguments are read from left to right; an option's value is
looked at when the next option or path begins, so the first fault in that order is the one that
is told.

Main results:

* `parse_nil`: without arguments the help is shown.
* `fill_repeated`: an option given twice is refused before its value is looked at.
-/

namespace ScriptWindows

open Manifest Source

/-! ## Commands -/

/-- The options that describe a window. -/
structure WindowOptions where
  space : String := "GeneratedApp"
  className : String := "MainWindow"
  script : String := "ui.ps1"
  line : Nat := 1
deriving DecidableEq, Repr

/-- The source file that window options ask for. -/
def WindowOptions.codeBehind (w : WindowOptions) : CodeBehind :=
  { space := w.space, className := w.className, constructorOrigin := some ⟨w.script, w.line⟩ }

/-- What the program is asked to do. -/
inductive Command
  | patch (manifest : Path) (folder : String)
  | emit (output : Path) (window : WindowOptions)
  | markup (output : Path) (message : String) (window : WindowOptions)
  | generate (manifest : Path) (folder message : String) (window : WindowOptions)
deriving Repr

/-- Why a command failed: what was wrong, and with that the manifest it was about. -/
inductive Failure
  | patch (manifest : Path) (cause : ManifestError)
  | emit (cause : EmitError)
  | generate (cause : GenerateError)
deriving DecidableEq, Repr

/-- Wordings joined from the outermost to the innermost. -/
def chained (message : String) (cause? : Option String) : String :=
  match cause? with
  | none => message
  | some cause => message ++ ": " ++ cause

def Failure.message : Failure → String
  | .patch manifest cause =>
    "patching " ++ manifest.text ++ ": " ++ chained cause.message cause.cause?
  | .emit cause => chained cause.message cause.cause?
  | .generate cause => chained cause.message cause.cause?

section
variable {m : Type → Type} [Monad m] [Files m]

/-- Do what a command asks for. -/
def Command.run : Command → ExceptT Failure m Unit
  | .patch manifest folder =>
    (discard (Manifest.patch manifest folder)).adapt (.patch manifest)
  | .emit output window => (emitCodeBehind window.codeBehind output).adapt .emit
  | .markup output message window =>
    (emitPage (.ofCodeBehind window.codeBehind message) output).adapt .emit
  | .generate manifest folder message window =>
    (discard (ScriptWindows.generate ⟨manifest, folder, window.codeBehind, message⟩)).adapt
      .generate

end

namespace CommandLine

/-! ## Options -/

/-- Why arguments are no command. -/
inductive UsageError
  | helpAsked
  | nothingGiven
  | pathMissing
  | unknownArgument
  | unknownCommand
  | valueMissing
  | badValue
  | repeated
  | valueNotTaken
deriving DecidableEq, Repr

inductive Verb
  | patch
  | emit
  | markup
  | generate
deriving DecidableEq, Repr

inductive OptionKey
  | folder
  | message
  | space
  | className
  | script
  | line
deriving DecidableEq, Repr

def Verb.ofName? (name : String) : Option Verb :=
  if name = "patch" then some .patch
  else if name = "emit" then some .emit
  else if name = "markup" then some .markup
  else if name = "generate" then some .generate
  else none

/-- The options a command takes. -/
def Verb.options : Verb → List OptionKey
  | .patch => [.folder]
  | .emit => [.space, .className, .script, .line]
  | .markup => [.message, .space, .className, .script, .line]
  | .generate => [.folder, .message, .space, .className, .script, .line]

/-- The name of an option behind two dashes. -/
def OptionKey.longName : OptionKey → String
  | .folder => "folder"
  | .message => "message"
  | .space => "namespace"
  | .className => "class"
  | .script => "script"
  | .line => "line"

/-- The letter of an option behind one dash. -/
def OptionKey.letter? : OptionKey → Option Char
  | .folder => some 'f'
  | .message => some 'm'
  | _ => none

/-! ## Reading arguments -/

/-- What an argument fills: an option, or the path. -/
inductive Slot
  | option (key : OptionKey)
  | path
deriving DecidableEq, Repr

/-- What was given so far, and what was begun last: a slot with its value, or an option whose
value is still to come. -/
structure Reading where
  given : List (Slot × String) := []
  begun : Option (Slot × Option String) := none
deriving DecidableEq, Repr

/-- A whole number of up to 32 bits, with or without a sign. -/
def lineNumber? (text : String) : Option Nat :=
  let number (negative : Bool) (digits : List Char) : Option Nat :=
    if digits = [] ∨ !digits.all Char.isDigit then none
    else
      let n := Nat.ofDigitChars 10 digits 0
      if n < Nat.pow 2 32 ∧ (negative → n = 0) then some n else none
  match text.toList with
  | '-' :: digits => number true digits
  | '+' :: digits => number false digits
  | digits => number false digits

/-- Whether a value can fill a slot. -/
def valueFault? (slot : Slot) (value : String) : Option UsageError :=
  match slot with
  | .path => if value = "" then some .valueMissing else none
  | .option .line => if (lineNumber? value).isNone then some .badValue else none
  | .option _ => none

/-- Fill a slot. -/
def Reading.fill (r : Reading) (slot : Slot) (value : String) : Except UsageError Reading :=
  if (r.given.lookup slot).isSome then .error .repeated
  else match valueFault? slot value with
    | some fault => .error fault
    | none => .ok ⟨r.given ++ [(slot, value)], none⟩

/-- Bring what was begun to its end. -/
def Reading.settle (r : Reading) : Except UsageError Reading :=
  match r.begun with
  | none => .ok r
  | some (_, none) => .error .valueMissing
  | some (slot, some value) => { r with begun := none }.fill slot value

/-- Begin an option, with its value if that is part of the same argument. -/
def Reading.beginOption (r : Reading) (key : OptionKey) (value? : Option String) :
    Except UsageError Reading := do
  let settled ← r.settle
  match value? with
  | some value => settled.fill (.option key) value
  | none => .ok { settled with begun := some (.option key, none) }

/-- Take a path. There is only one. -/
def Reading.takePath (r : Reading) (text : String) : Except UsageError Reading :=
  if (r.given.lookup .path).isSome ∨ (r.begun.map Prod.fst) = some .path then
    -- told at once, before what was begun is looked at
    .error .unknownArgument
  else do
    let settled ← r.settle
    .ok { settled with begun := some (.path, some text) }

/-- Whether an option waits for its value. -/
def Reading.wantsValue (r : Reading) : Bool :=
  match r.begun with
  | some (_, none) => true
  | _ => false

/-- Give an option its value. -/
def Reading.giveValue (r : Reading) (text : String) : Reading :=
  { r with begun := r.begun.map fun (slot, _) => (slot, some text) }

/-- The part of an argument behind its first equals sign, if it has one. -/
def attachedValue (cs : List Char) : Option String :=
  match cs.dropWhile (· ≠ '=') with
  | [] => none
  | _ :: value => some (String.ofList value)

/-- The request for help, which ends the reading once what was begun is settled. -/
def Reading.askHelp (r : Reading) : Except UsageError Reading := do
  discard r.settle
  .error .helpAsked

/-- Read an argument that begins with a dash. -/
def Reading.takeOption (verb : Verb) (r : Reading) (cs : List Char) : Except UsageError Reading :=
  match cs with
  | '-' :: '-' :: long =>
    let name := String.ofList (long.takeWhile (· ≠ '='))
    if name = "help" then
      if (attachedValue long).isSome then .error .valueNotTaken else r.askHelp
    else match verb.options.find? (·.longName = name) with
      | some key => r.beginOption key (attachedValue long)
      | none => .error .unknownArgument
  | '-' :: letter :: value =>
    if letter = 'h' then r.askHelp
    else match verb.options.find? (·.letter? = some letter) with
      | some key =>
        r.beginOption key (match value with
          | [] => none
          | '=' :: rest => some (String.ofList rest)
          | rest => some (String.ofList rest))
      | none => .error .unknownArgument
  | _ => .error .unknownArgument

/-- Read the arguments of a command. Behind a bare `--` everything is a path. -/
def readArguments (verb : Verb) (r : Reading) (onlyPaths : Bool) :
    List String → Except UsageError Reading
  | [] => r.settle
  | arg :: rest => do
    if onlyPaths then readArguments verb (← r.takePath arg) true rest
    -- a bare `--` leaves an option that waits for its value without one
    else if arg = "--" then readArguments verb r true rest
    else if arg.toList.head? = some '-' ∧ arg ≠ "-" then
      readArguments verb (← r.takeOption verb arg.toList) false rest
    else if r.wantsValue then readArguments verb (r.giveValue arg) false rest
    else readArguments verb (← r.takePath arg) false rest

/-! ## Commands from arguments -/

/-- The value of an option, or what stands for it when it is not given. -/
def Reading.get (r : Reading) (key : OptionKey) (default : String) : String :=
  (r.given.lookup (.option key)).getD default

/-- The window options among those given. -/
def Reading.window (r : Reading) : WindowOptions :=
  let none : WindowOptions := {}
  { space := r.get .space none.space
    className := r.get .className none.className
    script := r.get .script none.script
    line := ((r.given.lookup (.option .line)).bind lineNumber?).getD none.line }

/-- The command that was given. -/
def Reading.command (r : Reading) (verb : Verb) : Except UsageError Command :=
  match r.given.lookup .path with
  | none => .error .pathMissing
  | some text =>
    let path : Path := ⟨text⟩
    .ok (match verb with
      | .patch => .patch path (r.get .folder defaultFolder)
      | .emit => .emit path r.window
      | .markup => .markup path (r.get .message "") r.window
      | .generate => .generate path (r.get .folder defaultFolder) (r.get .message "") r.window)

/-- What is shown for a request for help about the commands named. -/
def helpOn : List String → UsageError
  | [] => .helpAsked
  | [name] =>
    if (Verb.ofName? name).isSome ∨ name = "help" then .helpAsked else .unknownCommand
  | _ => .unknownCommand

/-- Read the arguments of the program. -/
def parse : List String → Except UsageError Command
  | [] => .error .nothingGiven
  | first :: rest =>
    match Verb.ofName? first with
    | some verb => do (← readArguments verb {} false rest).command verb
    | none =>
      if first = "help" then .error (helpOn rest)
      else if first = "--" then
        .error (match rest with
          | [] => .nothingGiven
          | name :: _ => if (Verb.ofName? name).isSome ∨ name = "help" then .unknownArgument
            else .unknownCommand)
      else match first.toList with
        | ['-'] => .error .unknownCommand
        | '-' :: '-' :: name =>
          .error (if name.takeWhile (· ≠ '=') ≠ "help".toList then .unknownArgument
            else if (attachedValue name).isSome then .valueNotTaken
            else .helpAsked)
        | '-' :: letter :: _ => .error (if letter = 'h' then .helpAsked else .unknownArgument)
        | _ => .error .unknownCommand

/-! ## Laws -/

/-- Without arguments the help is shown. -/
theorem parse_nil : parse [] = .error .nothingGiven := rfl

/-- An option given twice is refused before its value is looked at. -/
theorem fill_repeated {r : Reading} {slot : Slot} {value other : String}
    (h : r.given.lookup slot = some other) : r.fill slot value = .error .repeated := by
  simp [Reading.fill, h]

end CommandLine

end ScriptWindows
