import ScriptWindows.Script.Value

/-!
# Functions that every object has

An object has functions that nobody gave it. A script can read them like fields of its own, put
them into other objects, and have them called where an object is turned into a text or leaves the
script. A field of the object's own hides an inherited function of the same name.

Main results:

* `fieldOf_own`: a field of its own comes before an inherited one.
* `fieldOf_toString`: an object without a `toString` of its own has an inherited one.
* `inheritedCall_valueOf`: an object asked for its plain value returns itself.
-/

namespace ScriptWindows.Script

/-- Functions that every object has from the start, with the number of arguments each declares. -/
def inheritedRoutines : List (String × Nat) :=
  [("hasOwnProperty", 1), ("isPrototypeOf", 1), ("propertyIsEnumerable", 1),
    ("toLocaleString", 0), ("toString", 0), ("valueOf", 0), ("__defineGetter__", 2),
    ("__defineSetter__", 2), ("__lookupGetter__", 1), ("__lookupSetter__", 1)]

/-- A field of an object, its own or one that every object has. -/
def fieldOf (fields : List (String × Value)) (name : String) : Value :=
  match fields.lookup name with
  | some v => v
  | none =>
    match inheritedRoutines.lookup name with
    | some arity => .builtin name arity
    | none =>
      if name = "constructor" then .builtin "Object" 1
      else if name = "__proto__" then .record []
      else .undefined

/-! ## Calling them -/

/-- What a function returns when it is called on an object. -/
inductive Returned
  | nothing
  | truth (b : Bool)
  | text (t : ScriptText)
  /-- The object itself. -/
  | self
  /-- A new object, around a text if there is one. -/
  | wrapper (held : Option ScriptText)
deriving DecidableEq, Repr

/-- What is told of too many calls inside one another. -/
def tooDeepMessage : String := "Maximum call stack size exceeded"

/-- Too many calls inside one another. -/
def tooDeep : Value := .error "RangeError" (.ofString tooDeepMessage) true

/-- The failure of calling what is no function. -/
def notCallable : Value := .typeFailure "not a function"

/-- What an inherited function other than the local spelling returns, on an object of these fields
and given a name or nothing. Without a name it looks for a field called `undefined`. -/
def plainCall (callee : String) (fields : List (String × Value)) (name : Option String) :
    Except Value Returned :=
  match callee with
  | "toString" => .ok (.text (.ofString "[object Object]"))
  | "valueOf" => .ok .self
  | "hasOwnProperty" | "propertyIsEnumerable" =>
    .ok (.truth (fields.any (·.1 == name.getD "undefined")))
  | "isPrototypeOf" => .ok (.truth false)
  | "__defineGetter__" | "__defineSetter__" => .error notCallable
  | "Object" => .ok (.wrapper (name.map .ofString))
  | _ => .ok .nothing

/-- What an inherited function returns. The local spelling of an object is what its `toString`
returns, which must not be the local spelling again. -/
def inheritedCall (callee : String) (fields : List (String × Value)) (name : Option String) :
    Except Value Returned :=
  if callee = "toLocaleString" then
    match fieldOf fields "toString" with
    | .builtin inner _ =>
      -- it would ask itself for ever
      if inner = "toLocaleString" then .error tooDeep else plainCall inner fields none
    | .routine => .ok .nothing
    | _ => .error notCallable
  else plainCall callee fields name

/-- What a value returns when it is called on an object, if it can be called. -/
def Value.called? (v : Value) (fields : List (String × Value)) (name : Option String) :
    Option (Except Value Returned) :=
  match v with
  | .routine => some (.ok .nothing)
  | .builtin callee _ => some (inheritedCall callee fields name)
  | _ => none

/-! ## Laws -/

/-- A field of its own comes before an inherited one. -/
theorem fieldOf_own {fields : List (String × Value)} {name : String} {v : Value}
    (h : fields.lookup name = some v) : fieldOf fields name = v := by
  simp [fieldOf, h]

/-- An object without a `toString` of its own has an inherited one. -/
theorem fieldOf_toString {fields : List (String × Value)} (h : fields.lookup "toString" = none) :
    fieldOf fields "toString" = .builtin "toString" 0 := by
  have : inheritedRoutines.lookup "toString" = some 0 := by decide +kernel
  simp [fieldOf, h, this]

/-- An object asked for its plain value returns itself. -/
theorem inheritedCall_valueOf (fields : List (String × Value)) (name : Option String) :
    inheritedCall "valueOf" fields name = .ok .self := rfl

end ScriptWindows.Script
