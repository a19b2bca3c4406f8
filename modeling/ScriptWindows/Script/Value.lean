import ScriptWindows.Bridge.Engine
import ScriptWindows.Script.Keys
import ScriptWindows.Script.Text

/-!
# Values of scripts

What a script computes with: how such a value is called, how numbers are written, and which value
a JSON text stands for.

Main result: `toHost_ofString`, a text made from a string is taken where a string is wanted.
-/

namespace ScriptWindows.Script

/-- A value of a script. -/
inductive Value
  | undefined
  | null
  | bool (b : Bool)
  /-- A number that the engine counted itself. -/
  | integer (n : Int)
  /-- Any other number. -/
  | float (x : Binary64)
  /-- A whole number of any size, which is not a number. -/
  | big (n : Int)
  /-- A unique name with its description. -/
  | symbol (description : String)
  | string (text : ScriptText)
  | array (items : List Value)
  /-- A plain object, its fields in the order in which it lists them. -/
  | record (fields : List (String × Value))
  /-- An error with the name of its kind; an empty stack counts as none. -/
  | error (name : String) (message : ScriptText) (hasStack : Bool)
  /-- A function that returns nothing. -/
  | routine
  /-- A function of the engine's own, by its name and the number of arguments it declares. -/
  | builtin (name : String) (arity : Nat)
  /-- A single value inside an object of its own. -/
  | boxed (inner : Value)
  /-- A row of bytes. -/
  | bytes (items : List Nat)
  /-- The arguments of a call. -/
  | arguments (items : List Value)
  /-- A point in time: its standard form and its spoken form. -/
  | date (standard spoken : String)
  /-- An object of a class whose fields are hidden. -/
  | hidden (className : String)
  /-- An object that holds itself. -/
  | cyclic
  /-- An object that says itself which value leaves the script in its place. -/
  | custom (standIn : Value)
  /-- An object that refuses to leave the script. -/
  | refusing (message : String)
deriving Repr, Inhabited

/-- An error as a script makes it. -/
def Value.failure (message : String) : Value := .error "Error" (.ofString message) true

/-- An error of the engine's own about a kind of value. -/
def Value.typeFailure (message : String) : Value := .error "TypeError" (.ofString message) true

/-! ## Numbers as text -/

/-- Numbers as scripts write them: the nearest decimal of the fewest digits with which it reads
back, positional from 0.000001 up to 21 digits, and without a point in whole numbers. -/
def scriptLayout : Decimal.Layout := ⟨⟨true, false⟩, -6, 21, true, false⟩

/-- A number as text. -/
def numberText (x : Binary64) : List Char :=
  match x with
  | .nan => "NaN".toList
  | .infinite negative => (if negative then ['-'] else []) ++ "Infinity".toList
  | .finite negative mantissa exponent =>
    match x.toInt? with
    | some n => Json.wholeText n
    | none => Json.doubleText scriptLayout negative mantissa exponent

/-- Numbers as they are told in a report of what was thrown: a tie goes up, positional from
0.0001 up to 16 digits, and always with a point. -/
def reportLayout : Decimal.Layout := ⟨⟨false, true⟩, -4, 16, false, true⟩

/-- A number in a report of what was thrown. -/
def reportedNumber (x : Binary64) : List Char :=
  match x with
  | .nan => "NaN".toList
  | .infinite negative => (if negative then ['-'] else []) ++ "inf".toList
  | .finite negative mantissa exponent =>
    Json.doubleText reportLayout negative mantissa exponent

/-! ## Values from JSON -/

/-- A number of a JSON text as a script sees it. -/
def floatOf : Json.Number → Binary64
  | .whole n => .ofInt n
  | .double x => x

mutual

/-- The value that a JSON text stands for. -/
def Value.ofJson : Json → Value
  | .null => .null
  | .bool b => .bool b
  | .number n => .float (floatOf n)
  | .string s => .string (.ofString s)
  | .array items => .array (Value.ofItems items)
  | .object fields => .record (listed (Value.ofFields fields))

def Value.ofItems : List Json → List Value
  | [] => []
  | item :: rest => Value.ofJson item :: Value.ofItems rest

def Value.ofFields : List (String × Json) → List (String × Value)
  | [] => []
  | (name, value) :: rest => (name, Value.ofJson value) :: Value.ofFields rest

end

/-! ## How a value is called -/

/-- What a script calls the type of a value. -/
def Value.typeName : Value → String
  | .undefined => "undefined"
  | .bool _ => "boolean"
  | .integer _ | .float _ => "number"
  | .big _ => "bigint"
  | .symbol _ => "symbol"
  | .string _ => "string"
  | .routine | .builtin .. => "function"
  | _ => "object"

/-- What the host calls the kind of a value. -/
def Value.kind : Value → String
  | .undefined => "undefined"
  | .null => "null"
  | .bool _ => "bool"
  | .integer _ => "int"
  | .float _ => "float"
  | .big _ => "big_int"
  | .symbol _ => "symbol"
  | .string _ => "string"
  | .array _ => "array"
  | .error .. => "exception"
  | .routine | .builtin "Object" _ => "constructor"
  | .builtin .. => "function"
  | .hidden "Promise" => "promise"
  | _ => "object"

/-- The string that a value is, or why it is none. -/
def Value.toHost (v : Value) : Except String String :=
  match v with
  | .string text =>
    match text.toString? with
    | some s => .ok s
    | none => .error (s!"Conversion from string failed: invalid utf-8 sequence of 1 bytes from " ++
        s!"index {text.bytesBeforeHalf}")
  | other => .error (Registry.wrongKind other.kind "string")

/-! ## Laws -/

/-- A text made from a string is taken where a string is wanted. -/
theorem toHost_ofString (s : String) : (Value.string (.ofString s)).toHost = .ok s := by
  simp [Value.toHost, ScriptText.toString?_ofString]

end ScriptWindows.Script
