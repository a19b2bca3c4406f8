import ScriptWindows.Script.Program

/-!
# Running programs

Expressions and statements run with the parameters of a command and the memory of their module.
They may throw, and they may ask the host for something; what was done before a throw stays
done.

Main results:

* `eval_typeOf_params`: outside of a command there is a type of the parameters, though there are no
  parameters.
* `runAll_nil`: no statements do nothing.
* `iterate_zero`: a statement repeated zero times does nothing.
-/

namespace ScriptWindows.Script

/-- What a module remembers. -/
structure Memory where
  /-- The values that were pushed, the newest first. -/
  recent : List Value := []
  count : Nat := 0
deriving Repr

/-- A computation of a script. It may throw a value, and changes to the memory outlast that. -/
abbrev Run (α : Type) := ExceptT Value (StateT Memory (Dialogue (HostCall Routine) HostReply)) α

/-- How statements end: by running out, or with a value that is returned. -/
inductive Flow
  | next
  | returned (v : Value)

/-- A computation that throws or not. -/
def Run.lift {α : Type} (r : Except Value α) : Run α :=
  match r with
  | .ok a => pure a
  | .error v => throw v

/-- Ask the host for something. A refusal is thrown as an error. -/
def Run.ask (call : HostCall Routine) : Run Unit := do
  let reply : HostReply ← ExceptT.lift (StateT.lift (Dialogue.request call))
  match reply with
  | .ok () => pure ()
  | .error message => throw (.failure message)

/-! ## Expressions -/

/-- A value inside so many lists. -/
def nested (v : Value) : Nat → Value
  | 0 => v
  | depth + 1 => .array [nested v depth]

/-- A value in place of nothing. -/
def Value.isNothing : Value → Bool
  | .undefined | .null => true
  | _ => false

/-- What is in scope: the fields of the parameters, or no parameters outside of a command. -/
abbrev Scope := Option (List (String × Value))

/-- The fields of the parameters, or an error where there are none. -/
def fieldsOf (params : Scope) : Run (List (String × Value)) :=
  match params with
  | some fields => pure fields
  | none => throw (.error "ReferenceError" (.ofString "params is not defined") true)

/-- Whether an expression is nothing but a name that is not in scope. -/
def Expr.outOfScope (params : Scope) : Expr → Bool
  | .params => params.isNone
  | _ => false

mutual

/-- The value of an expression, given the fields of the parameters. -/
def Expr.eval (params : Scope) : Expr → Run Value
  | .constant v => pure v
  | .param name => do return fieldOf (← fieldsOf params) name
  | .params => do return .record (← fieldsOf params)
  | .paramCount => do return .integer (← fieldsOf params).length
  | .seen => do return .array (← get).recent.reverse
  | .countUp => do
    modify fun m => { m with count := m.count + 1 }
    return .integer (← get).count
  | .array items => do return .array (← Expr.evalAll params items)
  | .object fields => do return .record (listed (← Expr.evalFields params fields))
  -- all parts have their values before the first is written
  | .concat parts => do
    let values ← Expr.evalAll params parts
    return .string (← Run.lift (spelledAll values))
  -- a name that is not in scope has a type though it has no value
  | .typeOf e => do
    if e.outOfScope params then return .string (.ofString "undefined")
    return .string (.ofString (← Expr.eval params e).typeName)
  | .length e => do Run.lift (← Expr.eval params e).lengthOf
  | .nest depth e => do return nested (← Expr.eval params e) depth
  | .orElse e other => do
    let v ← Expr.eval params e
    if v.isNothing then Expr.eval params other else return v

/-- The values of expressions in order. -/
def Expr.evalAll (params : Scope) : List Expr → Run (List Value)
  | [] => return []
  | e :: rest => do
    let v ← Expr.eval params e
    return v :: (← Expr.evalAll params rest)

/-- The values of named expressions in order. -/
def Expr.evalFields (params : Scope) :
    List (String × Expr) → Run (List (String × Value))
  | [] => return []
  | (name, e) :: rest => do
    let v ← Expr.eval params e
    return (name, v) :: (← Expr.evalFields params rest)

end

/-! ## Functions of the host -/

/-- The first arguments as strings, in order; there have to be enough of them. -/
def hostStrings (wanted : Nat) (given : List Value) : Except String (List String) :=
  if given.length < wanted then
    .error (s!"Error calling function with {given.length} argument(s) while {wanted} where " ++
      "expected")
  else (given.take wanted).mapM Value.toHost

/-- The arguments of a function of the host, or an error that is thrown. -/
def hostArguments (wanted : Nat) (given : List Value) : Run (List String) :=
  Run.lift ((hostStrings wanted given).mapError Value.failure)

/-- Report an error. -/
def reportError (given : List Value) : Run Unit := do
  match ← hostArguments 1 given with
  | [message] => Run.ask (.writeError message)
  | _ => pure ()

/-- Ask for a window. -/
def openWindow (given : List Value) : Run Unit := do
  match ← hostArguments 2 given with
  | [title, message] => Run.ask (.createWindow ⟨title, message⟩)
  | _ => pure ()

/-- Report a value that was caught. -/
def reportCaught (v : Value) : Run Unit := do
  let message ← Run.lift v.messageOf
  let text ← Run.lift message.appended
  reportError [.string (.ofString "caught: " ++ text)]

/-! ## Statements -/

/-- Do something so many times, or until it returns. -/
def iterate (act : Run Flow) : Nat → Run Flow
  | 0 => return .next
  | times + 1 => do
    match ← act with
    | .next => iterate act times
    | .returned v => return .returned v

/-- The text of a new error; nothing makes an empty one. -/
def errorText (v : Value) : Except Value ScriptText :=
  match v with
  | .undefined => .ok []
  | v => v.text

mutual

/-- Run a statement. -/
def Statement.run (params : Scope) : Statement → Run Flow
  | .ret e => do return .returned (← e.eval params)
  | .throwError e => do
    let text ← Run.lift (errorText (← e.eval params))
    throw (.error "Error" text true)
  | .throwValue e => do throw (← e.eval params)
  | .writeError args => do
    reportError (← Expr.evalAll params args)
    return .next
  | .log args => do
    discard (hostArguments 1 (← Expr.evalAll params args))
    return .next
  | .createWindow args => do
    openWindow (← Expr.evalAll params args)
    return .next
  | .push e => do
    let v ← e.eval params
    modify fun m => { m with recent := v :: m.recent }
    return .next
  | .resetCount => do
    modify fun m => { m with count := 0 }
    return .next
  | .attempt body =>
    tryCatch (Statement.runAll params body) fun v => do
      reportCaught v
      return .next
  | .repeated times body => iterate (Statement.runAll params body) times
  | .dropCommand name => do
    Run.ask (.editRegistry (·.remove name))
    return .next
  | .addCommand name body => do
    Run.ask (.editRegistry (·.add name ⟨body⟩))
    return .next
  | .replaceRegistry kind => do
    Run.ask (.editRegistry fun _ => .replaced kind)
    return .next
  | .freezeRegistry => do
    Run.ask (.editRegistry Registry.freeze)
    return .next

/-- Run statements in order, until one returns. -/
def Statement.runAll (params : Scope) : List Statement → Run Flow
  | [] => return .next
  | s :: rest => do
    match ← Statement.run params s with
    | .next => Statement.runAll params rest
    | .returned v => return .returned v

end

/-! ## Laws -/

/-- Outside of a command there is a type of the parameters, though there are no parameters. -/
theorem eval_typeOf_params :
    Expr.eval none (.typeOf .params) = pure (.string (.ofString "undefined")) := by
  simp [Expr.eval, Expr.outOfScope]

theorem runAll_nil (params : Scope) :
    Statement.runAll params [] = pure .next := rfl

theorem iterate_zero (act : Run Flow) : iterate act 0 = pure .next := rfl

end ScriptWindows.Script
