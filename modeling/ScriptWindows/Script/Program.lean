import ScriptWindows.Script.Outcome

/-!
# Programs of command modules

A command module as a program: statements that run when it is imported, and what it gives out.
A module remembers values that its statements push and a count, for as long as its session
lives.
-/

namespace ScriptWindows.Script

/-- An expression of a command. -/
inductive Expr
  | constant (v : Value)
  /-- A parameter of the command by its name. -/
  | param (name : String)
  /-- All parameters as one object. -/
  | params
  /-- The number of parameters. -/
  | paramCount
  /-- The values pushed so far. -/
  | seen
  /-- The count, after it went up by one. -/
  | countUp
  | array (items : List Expr)
  | object (fields : List (String × Expr))
  | concat (parts : List Expr)
  | typeOf (e : Expr)
  | length (e : Expr)
  /-- A value inside so many lists. -/
  | nest (depth : Nat) (e : Expr)
  /-- A value, or another one in place of nothing. -/
  | orElse (e other : Expr)
deriving Repr, Inhabited

/-- A statement of a module or a command. -/
inductive Statement
  | ret (e : Expr)
  /-- Throw an error that says what an expression says. -/
  | throwError (e : Expr)
  | throwValue (e : Expr)
  | writeError (args : List Expr)
  | log (args : List Expr)
  | createWindow (args : List Expr)
  | push (e : Expr)
  | resetCount
  /-- Run statements; a value they throw is reported by its message. -/
  | attempt (body : List Statement)
  | repeated (times : Nat) (body : List Statement)
  | dropCommand (name : String)
  | addCommand (name : String) (body : List Statement)
  /-- Put something that is no object in the place of the registry. -/
  | replaceRegistry (kind : String)
  | freezeRegistry
deriving Repr, Inhabited

/-- A function of a module. -/
structure Routine where
  body : List Statement
deriving Repr

/-- What a module gives out under a name. -/
inductive Export
  | routine (body : List Statement)
  | value (e : Expr)
  /-- A field whose value is an error when it is read. -/
  | failing (message : String)
deriving Repr

/-- What a module gives out: an object, or something else. -/
inductive ExportSpec
  | fields (entries : List (String × Export))
  | other (v : Value)
deriving Repr

/-- A module: one that cannot be taken as a program, or statements and what is given out. -/
inductive Program
  | malformed (message : String)
  | script (top : List Statement) (exports : ExportSpec)
deriving Repr

end ScriptWindows.Script
