import ScriptWindows.Json.Basic
import ScriptWindows.Ui.Dialogue

/-!
# Script engines

What the host needs of a script engine: it evaluates the text of a command module, and it calls
the functions the module gave out. Both are dialogues, since a script may ask its host for
something on the way. The commands that can be called are kept in a registry, which scripts can
reach as well.

Main results:

* `find_register_self`, `find_register_of_ne`: a command is found under the name it was
  registered under, and no other name changes.
-/

namespace ScriptWindows

/-- An error of a script: what it says, and whether it tells where it happened. -/
structure CommandError where
  message : String
  hasStack : Bool := false
deriving DecidableEq, Repr

/-- What a command that ran comes to: results, if it did not throw, and errors in the order in
which they were reported. -/
structure Outcome where
  results : List Json
  hadErrors : Bool
  errors : List CommandError

/-- A window that a script asks for. -/
structure WindowRequest where
  title : String
  message : String
deriving DecidableEq, Repr

/-- The parameters of a command, in the order of their names. -/
abbrev Parameters := List (String × Json)

/-! ## The registry -/

/-- The commands that can be called, by name. A script may have put something else in their
place, or closed them to changes. Looking in a registry runs no script: one with an accessor or a
proxy anywhere in it, or in its place, is not among these. -/
inductive Registry (ρ : Type)
  | table (commands : List (String × ρ)) (extensible : Bool)
  | replaced (kind : String)
deriving Repr

namespace Registry

variable {ρ : Type}

/-- The registry of a new session. -/
def empty : Registry ρ := .table [] true

/-- The failure of using something as another kind of value than it is. -/
def wrongKind (kind expected : String) : String :=
  "Error converting from js '" ++ kind ++ "' into type '" ++ expected ++ "'"

/-- Put a command under a name, in place of one of the same name. -/
def putCommand (name : String) (command : ρ) : List (String × ρ) → List (String × ρ)
  | [] => [(name, command)]
  | (other, old) :: rest =>
    if other = name then (name, command) :: rest
    else (other, old) :: putCommand name command rest

/-- Register a command. -/
def register (r : Registry ρ) (name : String) (command : ρ) : Except String (Registry ρ) :=
  match r with
  | .replaced kind => .error (wrongKind kind "object")
  | .table commands true => .ok (.table (putCommand name command commands) true)
  | .table _ false => .error "object is not extensible"

/-- Look for a command. Nothing is asked of the host by that, since no script runs. -/
def find (r : Registry ρ) (name : String) : Except String (Option ρ) :=
  match r with
  | .replaced kind => .error (wrongKind kind "object")
  | .table commands _ => .ok (commands.lookup name)

/-- Take a command away. -/
def remove (r : Registry ρ) (name : String) : Registry ρ :=
  match r with
  | .table commands extensible => .table (commands.filter (·.1 ≠ name)) extensible
  | .replaced kind => .replaced kind

/-- Add a command where that is possible. -/
def add (r : Registry ρ) (name : String) (command : ρ) : Registry ρ :=
  match r.register name command with
  | .ok after => after
  | .error _ => r

/-- Close the registry to changes. -/
def freeze (r : Registry ρ) : Registry ρ :=
  match r with
  | .table commands _ => .table commands false
  | .replaced kind => .replaced kind

/-! ## Laws -/

theorem lookup_putCommand_self (name : String) (command : ρ) (commands : List (String × ρ)) :
    (putCommand name command commands).lookup name = some command := by
  induction commands with
  | nil => simp [putCommand]
  | cons head rest ih =>
    obtain ⟨other, old⟩ := head
    unfold putCommand
    split
    · simp
    next different =>
      have : (name == other) = false := by simpa using Ne.symm different
      simp [List.lookup_cons, this, ih]

theorem lookup_putCommand_of_ne {name other : String} (command : ρ)
    (commands : List (String × ρ)) (h : other ≠ name) :
    (putCommand name command commands).lookup other = commands.lookup other := by
  have apart : (other == name) = false := by simpa using h
  induction commands with
  | nil => simp [putCommand, List.lookup_cons, apart]
  | cons head rest ih =>
    obtain ⟨first, old⟩ := head
    unfold putCommand
    split
    next same =>
      subst same
      simp [List.lookup_cons, apart]
    next => simp [List.lookup_cons, ih]

/-- A command is found under the name it was registered under. -/
theorem find_register_self {r after : Registry ρ} {name : String} {command : ρ}
    (h : r.register name command = .ok after) : after.find name = .ok (some command) := by
  unfold register at h
  split at h
  · simp at h
  · simp only [Except.ok.injEq] at h
    subst h
    simp [find, lookup_putCommand_self]
  · simp at h

/-- Registering a command changes what is found under no other name. -/
theorem find_register_of_ne {r after : Registry ρ} {name other : String} {command : ρ}
    (h : r.register name command = .ok after) (apart : other ≠ name) :
    after.find other = r.find other := by
  unfold register at h
  split at h
  · simp at h
  · simp only [Except.ok.injEq] at h
    subst h
    simp [find, lookup_putCommand_of_ne command _ apart]
  · simp at h

end Registry

/-! ## Engines -/

/-- What a running script asks of its host. -/
inductive HostCall (ρ : Type)
  | createWindow (request : WindowRequest)
  | writeError (message : String)
  | editRegistry (edit : Registry ρ → Registry ρ)

/-- The answer to a script: nothing, or the text of an error that is thrown into it. -/
abbrev HostReply := Except String Unit

/-- A computation of a script. -/
abbrev ScriptRun (ρ α : Type) := Dialogue (HostCall ρ) HostReply α

/-- What a module gives out under a name: a function, something else, or an error when it is
read. -/
inductive Exported (ρ : Type)
  | routine (r : ρ)
  | value
  | failing (error : CommandError)
deriving Repr

/-- An engine with memory of type `μ` and functions of type `ρ`. -/
structure Engine (μ ρ : Type) where
  /-- The memory before a module is evaluated. -/
  memory : μ
  /-- Evaluate the text of a module: what it gives out, in order. -/
  evaluate : String → μ → ScriptRun ρ (Except CommandError (List (String × Exported ρ)) × μ)
  /-- Call a function with the parameters of a command. -/
  call : ρ → Parameters → μ → ScriptRun ρ (Except CommandError (List Json) × μ)

end ScriptWindows
