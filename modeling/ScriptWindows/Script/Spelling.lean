import ScriptWindows.Script.Inherited

/-!
# Values as text

How a value is written where a text is wanted. An object is asked for its text and for its plain
value, in an order that depends on the place, and the first that is no object again is written.

Main results:

* `text_string`: a text is written as itself.
* `text_record`: an object is written by its kind alone unless it has a `toString` of its own.
* `appended_of_text`: only objects are written differently behind a text.
-/

namespace ScriptWindows.Script

/-! ## Asking an object -/

/-- What was returned as text, unless it is an object. -/
def Returned.text? : Returned → Option ScriptText
  | .nothing => some (.ofString "undefined")
  | .truth b => some (.ofString (if b then "true" else "false"))
  | .text t => some t
  | .self | .wrapper _ => none

/-- The text that the first of some functions of an object returns. What cannot be called and what
returns an object is passed over. -/
def methodText (fields : List (String × Value)) : List String → Except Value ScriptText
  | [] => .error (.typeFailure "toPrimitive")
  | name :: rest =>
    match (fieldOf fields name).called? fields none with
    | none => methodText fields rest
    | some (.error e) => .error e
    | some (.ok returned) =>
      match returned.text? with
      | some text => .ok text
      -- an object is no answer
      | none => methodText fields rest

/-! ## Writing a value -/

/-- Texts with commas between them. -/
def commaJoined : List ScriptText → ScriptText
  | [] => []
  | [text] => text
  | text :: rest => text ++ .char ',' :: commaJoined rest

/-- How deep lists may stand inside one another to be written. -/
def maxWritten : Nat := 560

mutual

/-- A value as text; a symbol has none, and lists inside one another only so many levels deep. -/
def Value.textWithin (v : Value) (levels : Nat) : Except Value ScriptText :=
  match v with
  | .undefined => .ok (.ofString "undefined")
  | .null => .ok (.ofString "null")
  | .bool true => .ok (.ofString "true")
  | .bool false => .ok (.ofString "false")
  | .integer n => .ok ((Json.wholeText n).map .char)
  | .float x => .ok ((numberText x).map .char)
  | .big n => .ok ((Json.wholeText n).map .char)
  | .symbol _ => .error (.typeFailure "cannot convert symbol to string")
  | .string text => .ok text
  | .array items =>
    match levels with
    | 0 => .error tooDeep
    | levels + 1 => do .ok (commaJoined (← Value.itemTexts items levels))
  | .record fields => methodText fields ["toString", "valueOf"]
  | .error name message _ =>
    .ok (if message = [] then .ofString name else .ofString (name ++ ": ") ++ message)
  | .routine => .ok (.ofString "function () \x7b\x7d")
  | .builtin name _ =>
    .ok (.ofString ("function " ++ name ++ "() \x7b\n    [native code]\n\x7d"))
  | .boxed inner => inner.textWithin levels
  | .bytes items => .ok (commaJoined (items.map fun n => .ofString (toString n)))
  | .arguments _ => .ok (.ofString "[object Arguments]")
  | .date _ spoken => .ok (.ofString spoken)
  | .hidden className => .ok (.ofString ("[object " ++ className ++ "]"))
  | .cyclic | .custom _ | .refusing _ => .ok (.ofString "[object Object]")

/-- Items of a list as texts; one that holds nothing is empty. -/
def Value.itemTexts (items : List Value) (levels : Nat) : Except Value (List ScriptText) :=
  match items with
  | [] => .ok []
  | .undefined :: rest | .null :: rest => do .ok ([] :: (← Value.itemTexts rest levels))
  | item :: rest => do
    let first ← item.textWithin levels
    .ok (first :: (← Value.itemTexts rest levels))

end

/-- A value as text; a symbol has none. -/
def Value.text (v : Value) : Except Value ScriptText := v.textWithin maxWritten

/-- A value as text where a symbol is written out as well. -/
def Value.spelled (v : Value) : Except Value ScriptText :=
  match v with
  | .symbol description => .ok (.ofString ("Symbol(" ++ description ++ ")"))
  | v => v.text

/-- Values as text where symbols are written out as well, one behind the other. -/
def spelledAll : List Value → Except Value ScriptText
  | [] => .ok []
  | v :: rest => do
    let text ← v.spelled
    .ok (text ++ (← spelledAll rest))

/-- A value as text behind another text, where an object is asked for its plain value first. -/
def Value.appended (v : Value) : Except Value ScriptText :=
  match v with
  | .record fields => methodText fields ["valueOf", "toString"]
  | v => v.text

/-! ## Properties -/

/-- The failure of reading a property of nothing. -/
def noProperty (name : String) (of : String) : Value :=
  .typeFailure ("cannot read property '" ++ name ++ "' of " ++ of)

/-- The length of a value, for those that have one. -/
def Value.lengthOf (v : Value) : Except Value Value :=
  match v with
  | .undefined => .error (noProperty "length" "undefined")
  | .null => .error (noProperty "length" "null")
  | .string text => .ok (.integer text.length)
  | .boxed (.string text) => .ok (.integer text.length)
  | .array items => .ok (.integer items.length)
  | .arguments items => .ok (.integer items.length)
  | .bytes items => .ok (.integer items.length)
  | .record fields => .ok (fieldOf fields "length")
  | .routine => .ok (.integer 0)
  | .builtin _ arity => .ok (.integer arity)
  | _ => .ok .undefined

/-- What a caught value says as its message. -/
def Value.messageOf (v : Value) : Except Value Value :=
  match v with
  | .undefined => .error (noProperty "message" "undefined")
  | .null => .error (noProperty "message" "null")
  | .error _ message _ => .ok (.string message)
  | .record fields => .ok (fieldOf fields "message")
  | _ => .ok .undefined

/-! ## Laws -/

/-- A text is written as itself. -/
theorem text_string (text : ScriptText) : (Value.string text).text = .ok text := by
  simp [Value.text, Value.textWithin]

/-- An object is written by its kind alone unless it has a `toString` of its own. -/
theorem text_record {fields : List (String × Value)} (h : fields.lookup "toString" = none) :
    (Value.record fields).text = .ok (.ofString "[object Object]") := by
  rw [Value.text, Value.textWithin, methodText, fieldOf_toString h]
  rfl

/-- Only objects are written differently behind a text. -/
theorem appended_of_text {v : Value} (h : ∀ fields, v ≠ .record fields) :
    v.appended = v.text := by
  unfold Value.appended
  split
  next fields => exact absurd rfl (h fields)
  next => rfl

end ScriptWindows.Script
