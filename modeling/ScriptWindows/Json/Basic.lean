import ScriptWindows.Json.Number

/-!
# JSON values

Values as they are exchanged with scripts, and their compact text. The fields of an object are
kept in the order of their names, each name once.

Main results:

* `lookup_insertField_self`, `lookup_insertField_of_ne`: a field put into an object is found
  under its name, and no other field changes.
* `text_array`, `text_object`: an array or object is its parts between brackets.
-/

namespace ScriptWindows

/-- A JSON value. -/
inductive Json
  | null
  | bool (value : Bool)
  | number (value : Json.Number)
  | string (value : String)
  | array (items : List Json)
  | object (fields : List (String × Json))
deriving Repr, Inhabited

namespace Json

/-! ## Fields in order -/

/-- Put a field among fields that are in the order of their names, in place of one of the same
name. -/
def insertField {α : Type} (name : String) (value : α) : List (String × α) → List (String × α)
  | [] => [(name, value)]
  | (other, old) :: rest =>
    if name = other then (name, value) :: rest
    else if name < other then (name, value) :: (other, old) :: rest
    else (other, old) :: insertField name value rest

/-- Fields in the order of their names; of fields with one name the last counts. -/
def sortFields {α : Type} (fields : List (String × α)) : List (String × α) :=
  fields.foldl (fun sorted (name, value) => insertField name value sorted) []

/-- An object of fields in any order. -/
def ofFields (fields : List (String × Json)) : Json := .object (sortFields fields)

/-! ## Text -/

/-- The digits of a number below 16, in lower case, for escapes. -/
def hexDigit (n : Nat) : Char := Nat.digitChar n

/-- How one character is written in a string. -/
def stringChar (c : Char) : List Char :=
  if c = '"' then ['\\', '"']
  else if c = '\\' then ['\\', '\\']
  else if c = '\n' then ['\\', 'n']
  else if c = '\r' then ['\\', 'r']
  else if c = '\t' then ['\\', 't']
  else if c.toNat = 0x8 then ['\\', 'b']
  else if c.toNat = 0xc then ['\\', 'f']
  else if c.toNat < 0x20 then
    ['\\', 'u', '0', '0', hexDigit (c.toNat / 16), hexDigit (c.toNat % 16)]
  else [c]

/-- A string as text. -/
def stringText (s : String) : List Char := '"' :: s.toList.flatMap stringChar ++ ['"']

mutual

/-- A value as compact text. -/
def text : Json → List Char
  | .null => ['n', 'u', 'l', 'l']
  | .bool true => ['t', 'r', 'u', 'e']
  | .bool false => ['f', 'a', 'l', 's', 'e']
  | .number n => n.text
  | .string s => stringText s
  | .array items => '[' :: itemsText items ++ [']']
  | .object fields => '\x7b' :: fieldsText fields ++ ['\x7d']

/-- Items with commas between them. -/
def itemsText : List Json → List Char
  | [] => []
  | [item] => text item
  | item :: rest => text item ++ ',' :: itemsText rest

/-- Fields with commas between them. -/
def fieldsText : List (String × Json) → List Char
  | [] => []
  | [(name, value)] => stringText name ++ ':' :: text value
  | (name, value) :: rest => stringText name ++ ':' :: text value ++ ',' :: fieldsText rest

end

/-- A value as compact text. -/
def render (v : Json) : String := String.ofList v.text

/-! ## Laws -/

/-- A field is found under the name it was put under. -/
theorem lookup_insertField_self {α : Type} (name : String) (value : α)
    (fields : List (String × α)) : (insertField name value fields).lookup name = some value := by
  induction fields with
  | nil => simp [insertField]
  | cons head rest ih =>
    obtain ⟨other, old⟩ := head
    unfold insertField
    split
    · simp
    · split
      · simp
      next different _ =>
        have : (name == other) = false := by simpa using different
        simp [List.lookup_cons, this, ih]

/-- Putting a field changes no field of another name. -/
theorem lookup_insertField_of_ne {α : Type} {name other : String} (value : α)
    (fields : List (String × α)) (h : other ≠ name) :
    (insertField name value fields).lookup other = fields.lookup other := by
  have apart : (other == name) = false := by simpa using h
  induction fields with
  | nil => simp [insertField, List.lookup_cons, apart]
  | cons head rest ih =>
    obtain ⟨first, old⟩ := head
    unfold insertField
    split
    next same =>
      subst same
      simp [List.lookup_cons, apart]
    · split
      · simp [List.lookup_cons, apart]
      · simp [List.lookup_cons, ih]

theorem text_array (items : List Json) : text (.array items) = '[' :: itemsText items ++ [']'] := by
  simp [text]

theorem text_object (fields : List (String × Json)) :
    text (.object fields) = '\x7b' :: fieldsText fields ++ ['\x7d'] := by
  simp [text]

end Json

end ScriptWindows
