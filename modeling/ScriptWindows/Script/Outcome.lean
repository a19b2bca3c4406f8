import ScriptWindows.Script.Spelling

/-!
# What becomes of values outside

A value that a command returns leaves the script as a JSON value, and one that it throws becomes
an error of the command.

Main results:

* `piece_ofJson_string`: a string goes in and out unchanged.
* `thrown_failure`: an error that a script makes is told by its message.
-/

namespace ScriptWindows.Script

/-! ## Values that were thrown -/

/-- A thrown value in a report. -/
def Value.reported (v : Value) : String :=
  match v with
  | .null => "Null\"null\""
  | .undefined => "Undefined\"undefined\""
  | .bool b => if b then "Bool(true)" else "Bool(false)"
  | .integer n => "Int(" ++ String.ofList (Json.wholeText n) ++ ")"
  | .float x => "Float(" ++ String.ofList (reportedNumber x) ++ ")"
  | .big _ => "BigInt\"BigInt\""
  | .string text =>
    "String(Err(Utf8(Utf8Error \x7b valid_up_to: " ++ toString text.bytesBeforeHalf ++
      ", error_len: Some(1) \x7d)))"
  | v => v.kind

/-- The error that a thrown value becomes. -/
def Value.thrown (v : Value) : CommandError :=
  let uncaught : CommandError := ⟨"uncaught exception: " ++ v.reported, false⟩
  match v with
  | .error _ message hasStack => ⟨message.toString?.getD "uncaught exception", hasStack⟩
  | .string text => (text.toString?.map fun s => ⟨s, false⟩).getD uncaught
  | _ => uncaught

/-! ## Pieces -/

/-- What leaves the script for a value: nothing, a JSON value, or something that cannot be
read. -/
inductive Piece
  | absent
  | value (v : Json)
  | unreadable

/-- A number that leaves the script: what its text reads as. -/
def numberPiece (x : Binary64) : Piece :=
  match x with
  | .finite .. =>
    match x.toInt? with
    | some n => .value (.number (.whole n))
    | none =>
      match Json.readNumber (numberText x) with
      | .ok (n, []) => .value (.number n)
      | _ => .unreadable
  | _ => .value .null

/-- A text that leaves the script. -/
def textPiece (text : ScriptText) : Piece :=
  match text.toString? with
  | some s => .value (.string s)
  | none => .unreadable

/-- A list of what leaves the script; nothing becomes null. -/
def listPiece : List Piece → Option (List Json)
  | [] => some []
  | .absent :: rest => (listPiece rest).map (.null :: ·)
  | .value v :: rest => (listPiece rest).map (v :: ·)
  | .unreadable :: _ => none

/-- Fields of what leaves the script; nothing is left out. -/
def fieldsPiece : List (String × Piece) → Option (List (String × Json))
  | [] => some []
  | (_, .absent) :: rest => fieldsPiece rest
  | (name, .value v) :: rest => (fieldsPiece rest).map ((name, v) :: ·)
  | (_, .unreadable) :: _ => none

/-- A whole list as a piece. -/
def Piece.ofList (items : List Piece) : Piece :=
  match listPiece items with
  | some values => .value (.array values)
  | none => .unreadable

/-- A whole object as a piece. -/
def Piece.ofFields (fields : List (String × Piece)) : Piece :=
  match fieldsPiece fields with
  | some values => .value (Json.ofFields values)
  | none => .unreadable

/-- Items under their positions. -/
def numbered {α : Type} (items : List α) : List (String × α) :=
  items.zipIdx.map fun (item, index) => (toString index, item)

/-- What leaves the script in the place of an object because its function `toJSON` says so, given
the name under which the object is held. -/
def standIn (fields : List (String × Value)) (name : String) : Except Value (Option Piece) :=
  match (fields.lookup "toJSON").bind (·.called? fields (some name)) with
  | none => .ok none
  | some (.error e) => .error e
  | some (.ok .self) => .ok none
  | some (.ok .nothing) => .ok (some .absent)
  | some (.ok (.truth b)) => .ok (some (.value (.bool b)))
  | some (.ok (.text t)) | some (.ok (.wrapper (some t))) => .ok (some (textPiece t))
  | some (.ok (.wrapper none)) => .ok (some (.value (.object [])))

/-- How many lists and objects may stand around an object that is asked before it leaves. -/
def maxAsked : Nat := 4350

/-- What an object says when it is asked, if there is room for a call: it is asked only so many
levels deep. -/
def whenAsked {α : Type} (levels : Nat) (answer : Except CommandError α) :
    Except CommandError α :=
  match levels with
  | 0 => .error ⟨tooDeepMessage, false⟩
  | _ + 1 => answer

mutual

/-- What leaves the script for a value that is held under a name. Parts are taken in order, and the
first that cannot be converted fails the whole. An object with a function `toJSON` is asked by the
name under which it is held, if it stands in no more than so many levels. -/
def Value.piece (name : String) (levels : Nat) : Value → Except CommandError Piece
  | .undefined | .symbol _ | .routine | .builtin .. => .ok .absent
  | .null => .ok (.value .null)
  | .bool b => .ok (.value (.bool b))
  | .integer n => .ok (.value (.number (.whole n)))
  | .float x => .ok (numberPiece x)
  | .big _ => .error ⟨"BigInt are forbidden in JSON.stringify", false⟩
  | .string text => .ok (textPiece text)
  | .array items => do .ok (.ofList (← Value.pieces 0 (levels - 1) items))
  | .record fields =>
    match standIn fields name with
    | .error v => whenAsked levels (.error v.thrown)
    | .ok (some returned) => whenAsked levels (.ok returned)
    | .ok none => do .ok (.ofFields (← Value.fieldPieces (levels - 1) fields))
  | .error .. | .hidden _ => .ok (.value (.object []))
  | .boxed inner => whenAsked levels (inner.piece name levels)
  | .bytes items =>
    .ok (.ofFields (numbered (items.map fun n : Nat => .value (.number (.whole n)))))
  | .arguments items => do .ok (.ofFields (numbered (← Value.pieces 0 (levels - 1) items)))
  | .date standard _ => whenAsked levels (.ok (.value (.string standard)))
  | .cyclic => .error ⟨"circular reference", false⟩
  | .custom other => whenAsked levels (other.piece name levels)
  | .refusing message => whenAsked levels (.error ⟨message, true⟩)

/-- What leaves the script for the items of a list from a position on. -/
def Value.pieces (position levels : Nat) : List Value → Except CommandError (List Piece)
  | [] => .ok []
  | item :: rest => do
    let first ← item.piece (toString position) levels
    .ok (first :: (← Value.pieces (position + 1) levels rest))

def Value.fieldPieces (levels : Nat) :
    List (String × Value) → Except CommandError (List (String × Piece))
  | [] => .ok []
  | (name, value) :: rest => do
    let first ← value.piece name levels
    .ok ((name, first) :: (← Value.fieldPieces levels rest))

end

mutual

/-- How deep lists and objects stand inside one another. -/
def nesting : Json → Nat
  | .array items => itemsNesting items + 1
  | .object fields => fieldsNesting fields + 1
  | _ => 0

def itemsNesting : List Json → Nat
  | [] => 0
  | item :: rest => max (nesting item) (itemsNesting rest)

def fieldsNesting : List (String × Json) → Nat
  | [] => 0
  | (_, value) :: rest => max (nesting value) (fieldsNesting rest)

end

/-- How deep a result may be nested to be read back. -/
def maxNesting : Nat := 127

/-- The result that a value becomes: null if it cannot be read back, which a value nested too deep
cannot. -/
def Value.result (v : Value) : Except CommandError Json := do
  match ← v.piece "" maxAsked with
  | .value j => .ok (if nesting j ≤ maxNesting then j else .null)
  | .absent | .unreadable => .ok .null

/-- Results in order, up to the first value that cannot be converted. -/
def resultsOf : List Value → Except CommandError (List Json)
  | [] => .ok []
  | item :: rest => do
    let first ← item.result
    .ok (first :: (← resultsOf rest))

/-- The results of a command that returned a value: the items of a list, nothing for nothing,
and else the value itself. -/
def Value.results (v : Value) : Except CommandError (List Json) :=
  match v with
  | .undefined => .ok []
  | .array items => resultsOf items
  | v => do .ok [← v.result]

/-! ## Laws -/

/-- A string goes in and out unchanged. -/
theorem piece_ofJson_string (name s : String) (levels : Nat) :
    (Value.ofJson (.string s)).piece name levels = .ok (.value (.string s)) := by
  simp [Value.ofJson, Value.piece, textPiece, ScriptText.toString?_ofString]

/-- An error that a script makes is told by its message. -/
theorem thrown_failure (message : String) :
    (Value.failure message).thrown = ⟨message, true⟩ := by
  simp [Value.failure, Value.thrown, ScriptText.toString?_ofString]

end ScriptWindows.Script
