import ScriptWindows.Bridge.Config
import ScriptWindows.Bridge.Error
import ScriptWindows.Files.Basic
import ScriptWindows.Json.Skip
import ScriptWindows.Text.Quoted

/-!
# Descriptions of command modules

A command module is described by a small JSON file: its name, perhaps a version, its script, and
the commands it gives out. The fields may also stand in a list, in that order. Unknown fields are
gone past. A fault that only shows when all fields are known is told at the end of the
description.

Main results:

* `allows_of_commands_nil`: a module that lists no commands gives out every one.
* `rootModulePath_of_isAbsolute`: a script named by an absolute path is not looked for beside the
  description.
-/

namespace ScriptWindows

open Json Text

/-- The description of a command module. -/
structure ModuleDescriptor where
  name : String
  version : Option String := none
  rootModule : String
  commands : List String := []
deriving DecidableEq, Repr

namespace ModuleDescriptor

/-- Where the script is: beside the description. -/
def rootModulePath (d : ModuleDescriptor) (at_ : Path) : Path :=
  (at_.parent.getD ⟨"."⟩).join ⟨d.rootModule⟩

/-- Whether the module gives out a command of this name. -/
def allows (d : ModuleDescriptor) (command : String) : Bool :=
  d.commands.isEmpty || d.commands.contains command

/-! ## Reading the parts -/

/-- What a description is called in a message. -/
def shape : String := "struct ModuleDescriptor"

/-- How a number is called in a message. -/
def numberLabel (n : Number) : String :=
  match n with
  | .whole _ => "integer `" ++ String.ofList n.text ++ "`"
  | .double _ => "floating point `" ++ String.ofList n.text ++ "`"

/-- The fault of a value of another kind than the expected one. A single value is read first, so
its own faults are told instead; a list or an object is not. -/
def wrongKind (expected : String) (cs : List Char) : Fault :=
  let wrong (label : String) (rest : List Char) : Fault :=
    faultAt (.described ("invalid type: " ++ label ++ ", expected " ++ expected)) rest
  let word (letters : List Char) (label : String) (rest : List Char) : Fault :=
    match readWord letters rest with
    | .ok after => wrong label after
    | .error f => f
  match cs with
  | 'n' :: rest => word ['u', 'l', 'l'] "null" rest
  | 't' :: rest => word ['r', 'u', 'e'] "boolean `true`" rest
  | 'f' :: rest => word ['a', 'l', 's', 'e'] "boolean `false`" rest
  | '"' :: rest =>
    match readString rest with
    | .ok (s, after) => wrong ("string " ++ quoted (String.ofList s)) after
    | .error f => f
  | '[' :: _ => wrong "sequence" cs
  | '\x7b' :: _ => wrong "map" cs
  | c :: _ =>
    if c = '-' ∨ c.isDigit then
      match readJsonNumber cs with
      | .ok (n, after) => wrong (numberLabel n) after
      | .error f => f
    else faultBy .valueExpected cs
  | [] => faultBy .valueExpected cs

/-- Read a string. -/
def readText (cs : List Char) : Except Fault (String × List Char) :=
  match skipSpace cs with
  | [] => .error (faultBy .valueEnded [])
  | '"' :: rest => do
    let (s, after) ← readString rest
    .ok (String.ofList s, after)
  | other => .error (wrongKind "a string" other)

/-- Read a string, or null for none. -/
def readOptionalText (cs : List Char) : Except Fault (Option String × List Char) :=
  match skipSpace cs with
  | 'n' :: rest => do .ok (none, ← readWord ['u', 'l', 'l'] rest)
  | other => do
    let (s, after) ← readText other
    .ok (some s, after)

/-- Read the strings of a list up to its end. -/
def readTextItems (fuel : Nat) (first : Bool) (cs : List Char) :
    Except Fault (List String × List Char) :=
  match fuel with
  | 0 => .error (faultAt .valueEnded cs)
  | fuel + 1 => do
    match ← nextItem first cs with
    | none => .ok ([], ← endList cs)
    | some item =>
      let (s, after) ← readText item
      let (others, last) ← readTextItems fuel false after
      .ok (s :: others, last)

/-- Read a list of strings. -/
def readTexts (fuel : Nat) (cs : List Char) : Except Fault (List String × List Char) :=
  match skipSpace cs with
  | [] => .error (faultBy .valueEnded [])
  | '[' :: rest => readTextItems fuel true rest
  | other => .error (wrongKind "a sequence" other)

/-! ## Reading the fields -/

/-- Where a list ends, as far as it can be told. -/
def afterList (cs : List Char) : List Char :=
  match skipSpace cs with
  | ']' :: rest => rest
  | ',' :: rest => skipSpace rest
  | other => other

/-- Where an object ends, as far as it can be told. -/
def afterObject (cs : List Char) : List Char :=
  match skipSpace cs with
  | '\x7d' :: rest => rest
  | other => other

/-- The fields of a description that were read so far. -/
structure Fields where
  name : Option String := none
  version : Option (Option String) := none
  rootModule : Option String := none
  commands : Option (List String) := none

/-- A field that may stand only once. -/
def once {α : Type} (old : Option α) (name : String) (afterKey : List Char)
    (read : List Char → Except Fault (α × List Char)) : Except Fault (α × List Char) :=
  match old with
  | some _ =>
    .error (faultAt (.described ("duplicate field `" ++ name ++ "`")) (afterObject afterKey))
  | none => do read (← skipColon afterKey)

/-- Read the value of a field after its key. -/
def readField (fuel : Nat) (known : Fields) (key : String) (afterKey : List Char) :
    Except Fault (Fields × List Char) :=
  if key = "name" then do
    let (value, rest) ← once known.name key afterKey readText
    .ok ({ known with name := some value }, rest)
  else if key = "version" then do
    let (value, rest) ← once known.version key afterKey readOptionalText
    .ok ({ known with version := some value }, rest)
  else if key = "root_module" then do
    let (value, rest) ← once known.rootModule key afterKey readText
    .ok ({ known with rootModule := some value }, rest)
  else if key = "commands" then do
    let (value, rest) ← once known.commands key afterKey (readTexts fuel)
    .ok ({ known with commands := some value }, rest)
  else do .ok (known, ← skipValue fuel (← skipColon afterKey))

/-- A field that has to be there. -/
def required (value : Option String) (name : String) (rest : List Char) : Except Fault String :=
  match value with
  | some s => .ok s
  | none => .error (faultAt (.described ("missing field `" ++ name ++ "`")) rest)

/-- Read fields up to the end of the object. -/
def readFieldsFrom (fuel : Nat) (known : Fields) (first : Bool) (cs : List Char) :
    Except Fault (ModuleDescriptor × List Char) :=
  match fuel with
  | 0 => .error (faultAt .valueEnded cs)
  | fuel + 1 => do
    match ← nextKey first cs with
    | none =>
      let name ← required known.name "name" (afterObject cs)
      let rootModule ← required known.rootModule "root_module" (afterObject cs)
      .ok (⟨name, known.version.join, rootModule, known.commands.getD []⟩, ← endObject cs)
    | some text =>
      let (key, after) ← readString text
      let (known, rest) ← readField fuel known (String.ofList key) after
      readFieldsFrom fuel known false rest

/-- An item that has to be there. -/
def requiredItem (count : Nat) (first : Bool) (cs : List Char) : Except Fault (List Char) := do
  match ← nextItem first cs with
  | some item => .ok item
  | none =>
    .error (faultAt (.described (s!"invalid length {count}, expected " ++ shape ++
      " with 4 elements")) (afterList cs))

/-- Read the fields as the items of a list. -/
def readListed (fuel : Nat) (cs : List Char) : Except Fault (ModuleDescriptor × List Char) := do
  let (name, cs) ← readText (← requiredItem 0 true cs)
  let (version, cs) ← match ← nextItem false cs with
    | some item => readOptionalText item
    | none => .ok (none, cs)
  let (rootModule, cs) ← readText (← requiredItem 2 false cs)
  let (commands, cs) ← match ← nextItem false cs with
    | some item => readTexts fuel item
    | none => .ok ([], cs)
  .ok (⟨name, version, rootModule, commands⟩, ← endList cs)

/-- Read a whole description. -/
def parse (whole : String) : Except Fault ModuleDescriptor := do
  let cs := whole.toList
  let fuel := stepsFor cs
  let (d, rest) ← match skipSpace cs with
    | [] => .error (faultBy .valueEnded [])
    | '\x7b' :: rest => readFieldsFrom fuel {} true rest
    | '[' :: rest => readListed fuel rest
    | other => .error (wrongKind shape other)
  endText rest
  .ok d

/-- Read the description of a command module from its file. -/
def load {m : Type → Type} [Monad m] [Files m] (path : Path) :
    ExceptT BridgeError m ModuleDescriptor := do
  match ← (Files.readText path : m _) with
  | .error cause =>
    throw (.importFailure path ("cannot read module descriptor: " ++ cause.message))
  | .ok text =>
    match parse text with
    | .ok d => pure d
    | .error f => throw (.importFailure path ("invalid module descriptor: " ++ f.message text))

/-! ## Laws -/

/-- A module that lists no commands gives out every one. -/
theorem allows_of_commands_nil {d : ModuleDescriptor} (h : d.commands = []) (name : String) :
    d.allows name = true := by
  simp [allows, h]

/-- A script named by an absolute path is not looked for beside the description. -/
theorem rootModulePath_of_isAbsolute {d : ModuleDescriptor} {at_ : Path}
    (h : Path.isAbsolute ⟨d.rootModule⟩ = true) : d.rootModulePath at_ = ⟨d.rootModule⟩ :=
  Path.join_of_isAbsolute h

end ModuleDescriptor

end ScriptWindows
