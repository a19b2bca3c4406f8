import ScriptWindows.Path
import ScriptWindows.Text.Blank

/-!
# Settings of the host

Which command module is loaded, from which folder, and how many commands can wait, as set by
variables of the environment. A variable that is missing or holds nothing useful leaves the
default in place.

Main result: `queueCapacity_pos`, at least one command can wait.
-/

namespace ScriptWindows

open Text

/-- What a host is started with. -/
structure HostConfig where
  moduleName : String
  baseFolder : Path
  queueCapacity : Nat
deriving DecidableEq, Repr

namespace HostConfig

def defaultModuleName : String := "ScriptUi"

def defaultQueueCapacity : Nat := 64

/-- The command behind the button of the main window. -/
def createWindowCommand : String := "New-ScriptUiWindow"

/-- The ending of the file that describes a command module. -/
def descriptorEnding : String := "module.json"

/-- Where a command module is described. -/
def descriptorPathIn (base : Path) (name : String) : Path :=
  base.join ⟨name ++ "." ++ descriptorEnding⟩

/-- A number of up to 64 bits in digits, with or without a plus sign. -/
def size? (text : String) : Option Nat :=
  let digits := match text.toList with
    | '+' :: rest => rest
    | all => all
  if digits = [] ∨ !digits.all Char.isDigit then none
  else
    let n := Nat.ofDigitChars 10 digits 0
    if n < Nat.pow 2 64 then some n else none

/-- Settings from a table of variables and the folder of the program. -/
def ofVariables (value? : String → Option String) (programFolder : Path) : HostConfig where
  moduleName := ((value? "SCRIPTUI_MODULE").filter fun name =>
    !name.toList.all isBlank).getD defaultModuleName
  baseFolder := (((value? "SCRIPTUI_BASE_DIR").filter (· ≠ "")).map Path.mk).getD programFolder
  queueCapacity := (((value? "SCRIPTUI_BRIDGE_QUEUE_CAP").bind size?).filter (0 < ·)).getD
    defaultQueueCapacity

/-- Where the command module is described. -/
def descriptorPath (c : HostConfig) : Path := descriptorPathIn c.baseFolder c.moduleName

/-- At least one command can wait. -/
theorem queueCapacity_pos (value? : String → Option String) (programFolder : Path) :
    0 < (ofVariables value? programFolder).queueCapacity := by
  simp only [ofVariables]
  cases h : ((value? "SCRIPTUI_BRIDGE_QUEUE_CAP").bind size?).filter (0 < ·) with
  | none => simp [defaultQueueCapacity]
  | some n =>
    have := (Option.filter_eq_some_iff.1 h).2
    simpa using this

end HostConfig

end ScriptWindows
