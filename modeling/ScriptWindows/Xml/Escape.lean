import ScriptWindows.Text.Utf8

/-!
# Character references

Writing a value so that it can stand between quotes in markup, and reading it back. Five
characters are written as named references; a reader also takes references by number. Errors
carry byte offsets inside the value.

Main results:

* `escape_append`: a text is escaped character by character.
* `unescape_escape`: every text reads back as it was written.
-/

namespace ScriptWindows.Xml

open Text

/-- How one character is written in a value. -/
def escapeChar (c : Char) : List Char :=
  if c = '<' then ['&', 'l', 't', ';']
  else if c = '>' then ['&', 'g', 't', ';']
  else if c = '&' then ['&', 'a', 'm', 'p', ';']
  else if c = '\'' then ['&', 'a', 'p', 'o', 's', ';']
  else if c = '"' then ['&', 'q', 'u', 'o', 't', ';']
  else [c]

/-- How a value is written. -/
def escape (value : List Char) : List Char := value.flatMap escapeChar

/-! ## Reading references -/

/-- What is wrong with the number of a character reference. -/
inductive CodeError
  | sign
  | empty
  | badDigit
  | tooLarge
  | zero
  | notCharacter (code : Nat)
deriving DecidableEq, Repr

def CodeError.message : CodeError → String
  | .sign => "unexpected number sign"
  | .empty => "cannot parse integer from empty string"
  | .badDigit => "invalid digit found in string"
  | .tooLarge => "number too large to fit in target type"
  | .zero => "0x0 character is not permitted in XML"
  | .notCharacter code => "`" ++ toString code ++ "` is not a valid codepoint"

/-- What is wrong with a reference in a value. Offsets count bytes of the value. -/
inductive ReferenceError
  | unterminated (start stop : Nat)
  | unknownName (start stop : Nat) (name : String)
  | code (cause : CodeError)
deriving DecidableEq, Repr

def ReferenceError.message : ReferenceError → String
  | .unterminated start stop =>
    s!"Error while escaping character at range {start}..{stop}: Cannot find ';' after '&'"
  | .unknownName start stop name =>
    s!"at {start}..{stop}: unrecognized entity `" ++ name ++ "`"
  | .code cause => "invalid character reference: " ++ cause.message

/-- The value of a digit, up to base sixteen. -/
def digitValue (base : Nat) (c : Char) : Option Nat :=
  let value? :=
    if '0' ≤ c ∧ c ≤ '9' then some (c.toNat - '0'.toNat)
    else if 'a' ≤ c ∧ c ≤ 'f' then some (c.toNat - 'a'.toNat + 10)
    else if 'A' ≤ c ∧ c ≤ 'F' then some (c.toNat - 'A'.toNat + 10)
    else none
  value?.filter (· < base)

/-- Read digits after a value read so far. A character code has 32 bits. -/
def readDigits (base value : Nat) : List Char → Except CodeError Nat
  | [] => .ok value
  | c :: cs =>
    match digitValue base c with
    | none => .error .badDigit
    | some digit =>
      if value * base + digit < Nat.pow 2 32 then readDigits base (value * base + digit) cs
      else .error .tooLarge

/-- Read a number without a sign. -/
def readNumber (base : Nat) : List Char → Except CodeError Nat
  | [] => .error .empty
  | c :: cs => if c = '+' ∨ c = '-' then .error .sign else readDigits base 0 (c :: cs)

/-- The character that a reference names by number, in base ten or after `x` in base sixteen. -/
def codeReference (digits : List Char) : Except CodeError Char := do
  let code ← match digits with
    | 'x' :: hex => readNumber 16 hex
    | decimal => readNumber 10 decimal
  if code = 0 then .error .zero
  else if h : code.isValidChar then .ok (Char.ofNatAux code h)
  else .error (.notCharacter code)

/-- The character that a name stands for. -/
def namedReference (name : List Char) : Option Char :=
  if name = ['l', 't'] then some '<'
  else if name = ['g', 't'] then some '>'
  else if name = ['a', 'm', 'p'] then some '&'
  else if name = ['a', 'p', 'o', 's'] then some '\''
  else if name = ['q', 'u', 'o', 't'] then some '"'
  else none

/-- The text of a reference up to its `;` and the text after that. Another `&` may not come
first. -/
def takeReference : List Char → Option (List Char × List Char)
  | [] => none
  | c :: cs =>
    if c = ';' then some ([], cs)
    else if c = '&' then none
    else (takeReference cs).map fun (name, rest) => (c :: name, rest)

theorem length_takeReference {cs name rest : List Char}
    (h : takeReference cs = some (name, rest)) : rest.length < cs.length := by
  induction cs generalizing name with
  | nil => simp [takeReference] at h
  | cons c cs ih =>
    unfold takeReference at h
    split at h
    · simp only [Option.some.injEq, Prod.mk.injEq] at h
      simp [h.2]
    · split at h
      · simp at h
      · obtain ⟨⟨first, last⟩, taken, parts⟩ := Option.map_eq_some_iff.1 h
        simp only [Prod.mk.injEq] at parts
        obtain ⟨-, rfl⟩ := parts
        have := ih taken
        simp only [List.length_cons]
        omega

/-- The character that a reference stands for, by name or by number. -/
def resolveReference (offset : Nat) (name : List Char) : Except ReferenceError Char :=
  match name with
  | '#' :: digits => (codeReference digits).mapError .code
  | name =>
    match namedReference name with
    | some c => .ok c
    | none => .error (.unknownName offset (offset + byteLength name) (String.ofList name))

/-- Read the references of a value from an offset on; `total` is the length of the whole value
in bytes. -/
def unescapeFrom (total offset : Nat) : List Char → Except ReferenceError (List Char)
  | [] => .ok []
  | c :: cs =>
    if c = '&' then
      match _taken : takeReference cs with
      | none => .error (.unterminated offset total)
      | some (name, rest) => do
        let resolved ← resolveReference (offset + 1) name
        let others ← unescapeFrom total (offset + 1 + byteLength name + 1) rest
        .ok (resolved :: others)
    else do
      let others ← unescapeFrom total (offset + c.utf8Size) cs
      .ok (c :: others)
termination_by cs => cs.length
decreasing_by
  · have := length_takeReference _taken
    simp only [List.length_cons]
    omega
  · simp

/-- The text that a written value stands for. -/
def unescape (value : List Char) : Except ReferenceError (List Char) :=
  unescapeFrom (byteLength value) 0 value

/-! ## Laws -/

@[simp] theorem escape_nil : escape [] = [] := rfl

@[simp] theorem escape_cons (c : Char) (cs : List Char) :
    escape (c :: cs) = escapeChar c ++ escape cs := rfl

theorem escape_append (a b : List Char) : escape (a ++ b) = escape a ++ escape b := by
  simp [escape]

/-- A written character reads back, whatever follows it. -/
theorem unescapeFrom_escapeChar (total offset : Nat) (c : Char) (cs : List Char) :
    unescapeFrom total offset (escapeChar c ++ cs) =
      (unescapeFrom total (offset + byteLength (escapeChar c)) cs).map (c :: ·) := by
  have finish (r : Except ReferenceError (List Char)) :
      (do let others ← r; Except.ok (c :: others)) = r.map (c :: ·) := by
    cases r <;> rfl
  by_cases special : c = '<' ∨ c = '>' ∨ c = '&' ∨ c = '\'' ∨ c = '"'
  · -- each of the five is written as a reference, whose name is looked up again
    rw [← finish]
    rcases special with rfl | rfl | rfl | rfl | rfl <;>
      · simp [escapeChar, unescapeFrom, takeReference, resolveReference, namedReference]
        rfl
  · simp only [not_or] at special
    obtain ⟨lt, gt, amp, apos, quot⟩ := special
    rw [← finish]
    simp [escapeChar, unescapeFrom, *]

theorem unescapeFrom_escape (total offset : Nat) (cs : List Char) :
    unescapeFrom total offset (escape cs) = .ok cs := by
  induction cs generalizing offset with
  | nil => simp [unescapeFrom]
  | cons c cs ih => rw [escape_cons, unescapeFrom_escapeChar, ih]; rfl

/-- Every text reads back as it was written. -/
theorem unescape_escape (cs : List Char) : unescape (escape cs) = .ok cs :=
  unescapeFrom_escape _ 0 cs

end ScriptWindows.Xml
