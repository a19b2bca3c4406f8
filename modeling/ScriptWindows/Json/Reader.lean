import ScriptWindows.Json.Basic
import ScriptWindows.Text.Utf8

/-!
# Reading JSON texts

Reading goes from the front of a text to the first fault. A fault names its cause and the place
where it was noticed: the text that was left, and how many bytes of it had been looked at. The
place is told as a line and a column of bytes.

Main results:

* `length_readString`: reading a string ends after at least one character.
* `readWord_append`: a word is read wherever it stands.
-/

namespace ScriptWindows.Json

open Text

/-! ## Faults -/

/-- What is wrong with a JSON text. -/
inductive Cause
  | valueEnded
  | objectEnded
  | listEnded
  | stringEnded
  | valueExpected
  | wordExpected
  | colonExpected
  | objectCommaExpected
  | listCommaExpected
  | keyNotString
  | trailingComma
  | trailingCharacters
  | badNumber
  | numberTooLarge
  | badEscape
  | surrogateNotFollowed
  | loneSurrogate
  | controlCharacter
  | described (text : String)
deriving DecidableEq, Repr

def Cause.message : Cause → String
  | .valueEnded => "EOF while parsing a value"
  | .objectEnded => "EOF while parsing an object"
  | .listEnded => "EOF while parsing a list"
  | .stringEnded => "EOF while parsing a string"
  | .valueExpected => "expected value"
  | .wordExpected => "expected ident"
  | .colonExpected => "expected `:`"
  | .objectCommaExpected => "expected `,` or `\x7d`"
  | .listCommaExpected => "expected `,` or `]`"
  | .keyNotString => "key must be a string"
  | .trailingComma => "trailing comma"
  | .trailingCharacters => "trailing characters"
  | .badNumber => "invalid number"
  | .numberTooLarge => "number out of range"
  | .badEscape => "invalid escape"
  | .surrogateNotFollowed => "unexpected end of hex escape"
  | .loneSurrogate => "lone leading surrogate in hex escape"
  | .controlCharacter => "control character (\\u0000-\\u001F) found while parsing a string"
  | .described text => text

/-- A cause, the text that was left, and the bytes of it that were looked at. -/
structure Fault where
  cause : Cause
  rest : List Char
  ahead : Nat
deriving Repr

/-- A fault at the place that was reached. -/
def faultAt (cause : Cause) (rest : List Char) : Fault := ⟨cause, rest, 0⟩

/-- A fault noticed by looking at the next byte. -/
def faultBy (cause : Cause) (rest : List Char) : Fault := ⟨cause, rest, 1⟩

/-- A line and a column, counted in bytes, as a fault tells them. -/
structure Place where
  line : Nat
  column : Nat
deriving DecidableEq, Repr

/-- The place behind some bytes: lines count from one, columns restart behind each line feed. -/
def Place.behind (bytes : List UInt8) : Place :=
  bytes.foldl (fun p b => if b = 10 then ⟨p.line + 1, 0⟩ else ⟨p.line, p.column + 1⟩) ⟨1, 0⟩

/-- Where in a whole text a fault was noticed. -/
def Fault.place (whole : String) (f : Fault) : Place :=
  let bytes := whole.toUTF8.toList
  .behind (bytes.take (bytes.length - byteLength f.rest + f.ahead))

/-- A fault in the words of a message. -/
def Fault.message (whole : String) (f : Fault) : String :=
  let p := f.place whole
  f.cause.message ++ s!" at line {p.line} column {p.column}"

/-! ## Words and strings -/

/-- The blanks of JSON. -/
def isSpace (c : Char) : Bool := c == ' ' || c == '\n' || c == '\t' || c == '\r'

def skipSpace (cs : List Char) : List Char := cs.dropWhile isSpace

/-- Read the characters of a word. -/
def readWord : List Char → List Char → Except Fault (List Char)
  | [], cs => .ok cs
  | _ :: _, [] => .error (faultAt .valueEnded [])
  | w :: word, c :: cs =>
    if c = w then readWord word cs else .error (faultBy .wordExpected (c :: cs))

/-- The value of a digit in base sixteen. -/
def hexValue (c : Char) : Option Nat :=
  if '0' ≤ c ∧ c ≤ '9' then some (c.toNat - '0'.toNat)
  else if 'a' ≤ c ∧ c ≤ 'f' then some (c.toNat - 'a'.toNat + 10)
  else if 'A' ≤ c ∧ c ≤ 'F' then some (c.toNat - 'A'.toNat + 10)
  else none

/-- Read four digits in base sixteen. Four bytes are taken, whatever they are. -/
def readHexQuad (cs : List Char) : Except Fault (Nat × List Char) :=
  if byteLength cs < 4 then .error (faultAt .stringEnded [])
  else match cs with
    | a :: b :: c :: d :: rest =>
      match hexValue a, hexValue b, hexValue c, hexValue d with
      | some a, some b, some c, some d => .ok (((a * 16 + b) * 16 + c) * 16 + d, rest)
      | _, _, _, _ => .error ⟨.badEscape, cs, 4⟩
    | _ => .error ⟨.badEscape, cs, 4⟩

/-- Read the second half of a surrogate pair, after the first half was read. -/
def readLowSurrogate (high : Nat) (cs : List Char) : Except Fault (Nat × List Char) :=
  match cs with
  | [] => .error (faultAt .stringEnded [])
  | '\\' :: after =>
    match after with
    | [] => .error (faultAt .stringEnded [])
    | 'u' :: digits => do
      let (low, rest) ← readHexQuad digits
      if low < 0xDC00 ∨ 0xDFFF < low then .error (faultAt .loneSurrogate rest)
      else .ok ((high - 0xD800) * 0x400 + (low - 0xDC00) + 0x10000, rest)
    | _ => .error (faultBy .surrogateNotFollowed after)
  | _ => .error (faultBy .surrogateNotFollowed cs)

/-- Read the number of a character after its mark. -/
def readUnicodeEscape (cs : List Char) : Except Fault (Char × List Char) := do
  let (unit, rest) ← readHexQuad cs
  if 0xDC00 ≤ unit ∧ unit ≤ 0xDFFF then .error (faultAt .loneSurrogate rest)
  else if unit < 0xD800 ∨ 0xDBFF < unit then .ok (Char.ofNat unit, rest)
  else do
    let (code, rest) ← readLowSurrogate unit rest
    .ok (Char.ofNat code, rest)

/-- The character that an escape of one letter stands for. -/
def simpleEscape (c : Char) : Option Char :=
  if c = '"' ∨ c = '\\' ∨ c = '/' then some c
  else if c = 'b' then some '\x08'
  else if c = 'f' then some '\x0c'
  else if c = 'n' then some '\n'
  else if c = 'r' then some '\r'
  else if c = 't' then some '\t'
  else none

/-- Read an escape after its backslash. -/
def readEscape (cs : List Char) : Except Fault (Char × List Char) :=
  match cs with
  | [] => .error (faultAt .stringEnded [])
  | c :: rest =>
    match simpleEscape c with
    | some e => .ok (e, rest)
    | none => if c = 'u' then readUnicodeEscape rest else .error (faultBy .badEscape cs)

theorem length_readHexQuad {cs rest : List Char} {n : Nat} (h : readHexQuad cs = .ok (n, rest)) :
    rest.length < cs.length := by
  unfold readHexQuad at h
  split at h
  · simp at h
  · split at h
    · split at h
      · simp only [Except.ok.injEq, Prod.mk.injEq] at h
        rw [← h.2]
        simp only [List.length_cons]
        omega
      · simp at h
    · simp at h

theorem length_readLowSurrogate {high : Nat} {cs rest : List Char} {n : Nat}
    (h : readLowSurrogate high cs = .ok (n, rest)) : rest.length < cs.length := by
  unfold readLowSurrogate at h
  split at h
  · simp at h
  · split at h
    · simp at h
    next digits =>
      cases hq : readHexQuad digits with
      | error e => simp [hq, bind, Except.bind] at h
      | ok pair =>
        obtain ⟨low, last⟩ := pair
        have := length_readHexQuad hq
        simp only [hq, bind, Except.bind] at h
        split at h
        · simp at h
        · simp only [Except.ok.injEq, Prod.mk.injEq] at h
          rw [← h.2]
          simp only [List.length_cons]
          omega
    · simp at h
  · simp at h

theorem length_readUnicodeEscape {cs rest : List Char} {c : Char}
    (h : readUnicodeEscape cs = .ok (c, rest)) : rest.length < cs.length := by
  unfold readUnicodeEscape at h
  cases hq : readHexQuad cs with
  | error e => simp [hq, bind, Except.bind] at h
  | ok pair =>
    obtain ⟨unit, after⟩ := pair
    have first := length_readHexQuad hq
    simp only [hq, bind, Except.bind] at h
    split at h
    · simp at h
    · split at h
      · simp only [Except.ok.injEq, Prod.mk.injEq] at h
        rw [← h.2]
        exact first
      · cases hl : readLowSurrogate unit after with
        | error e => simp [hl] at h
        | ok pair =>
          obtain ⟨code, last⟩ := pair
          have second := length_readLowSurrogate hl
          simp only [hl, Except.ok.injEq, Prod.mk.injEq] at h
          rw [← h.2]
          omega

/-- An escape takes at least one character. -/
theorem length_readEscape {cs rest : List Char} {c : Char} (h : readEscape cs = .ok (c, rest)) :
    rest.length < cs.length := by
  unfold readEscape at h
  split at h
  · simp at h
  next first after =>
    split at h
    · simp only [Except.ok.injEq, Prod.mk.injEq] at h
      rw [← h.2]
      simp
    · split at h
      · have := length_readUnicodeEscape h
        simp only [List.length_cons]
        omega
      · simp at h

/-- Read a string after its opening quote. -/
def readString (cs : List Char) : Except Fault (List Char × List Char) :=
  match cs with
  | [] => .error (faultAt .stringEnded [])
  | c :: after =>
    if c = '"' then .ok ([], after)
    else if c = '\\' then
      match _escape : readEscape after with
      | .error e => .error e
      | .ok (e, rest) => do
        let (others, last) ← readString rest
        .ok (e :: others, last)
    else if c.toNat < 0x20 then .error (faultBy .controlCharacter cs)
    else do
      let (others, last) ← readString after
      .ok (c :: others, last)
termination_by cs.length
decreasing_by
  · have := length_readEscape _escape
    simp only [List.length_cons]
    omega
  · simp

/-- A number with its faults among those of a text. -/
def readJsonNumber (cs : List Char) : Except Fault (Number × List Char) :=
  match readNumber cs with
  | .ok r => .ok r
  | .error (.bad rest ahead) => .error ⟨.badNumber, rest, ahead⟩
  | .error (.ended rest) => .error (faultAt .valueEnded rest)
  | .error (.tooLarge rest) => .error (faultAt .numberTooLarge rest)

/-! ## Lists and objects -/

/-- Go to the next item of a list, if there is one. -/
def nextItem (first : Bool) (cs : List Char) : Except Fault (Option (List Char)) :=
  match skipSpace cs with
  | [] => .error (faultBy .listEnded [])
  | ']' :: _ => .ok none
  | c :: rest =>
    if first then .ok (some (c :: rest))
    else if c = ',' then
      match skipSpace rest with
      | [] => .error (faultBy .valueEnded [])
      | ']' :: after => .error (faultBy .trailingComma (']' :: after))
      | item => .ok (some item)
    else .error (faultBy .listCommaExpected (c :: rest))

/-- Go to the text of the next key of an object, behind its quote, if there is one. -/
def nextKey (first : Bool) (cs : List Char) : Except Fault (Option (List Char)) :=
  match skipSpace cs with
  | [] => .error (faultBy .objectEnded [])
  | '\x7d' :: _ => .ok none
  | c :: rest =>
    if first then
      if c = '"' then .ok (some rest) else .error (faultBy .keyNotString (c :: rest))
    else if c = ',' then
      match skipSpace rest with
      | [] => .error (faultBy .valueEnded [])
      | '"' :: key => .ok (some key)
      | '\x7d' :: after => .error (faultBy .trailingComma ('\x7d' :: after))
      | other => .error (faultBy .keyNotString other)
    else .error (faultBy .objectCommaExpected (c :: rest))

/-- Go past the colon after a key. -/
def skipColon (cs : List Char) : Except Fault (List Char) :=
  match skipSpace cs with
  | [] => .error (faultBy .objectEnded [])
  | ':' :: rest => .ok rest
  | other => .error (faultBy .colonExpected other)

/-- Go past the bracket that ends a list. -/
def endList (cs : List Char) : Except Fault (List Char) :=
  match skipSpace cs with
  | [] => .error (faultBy .listEnded [])
  | ']' :: rest => .ok rest
  | ',' :: rest =>
    match skipSpace rest with
    | ']' :: after => .error (faultBy .trailingComma (']' :: after))
    | other => .error (faultBy .trailingCharacters other)
  | other => .error (faultBy .trailingCharacters other)

/-- Go past the bracket that ends an object. -/
def endObject (cs : List Char) : Except Fault (List Char) :=
  match skipSpace cs with
  | [] => .error (faultBy .objectEnded [])
  | '\x7d' :: rest => .ok rest
  | ',' :: rest => .error (faultBy .trailingComma (',' :: rest))
  | other => .error (faultBy .trailingCharacters other)

/-- Nothing but blanks may follow. -/
def endText (cs : List Char) : Except Fault Unit :=
  match skipSpace cs with
  | [] => .ok ()
  | other => .error (faultBy .trailingCharacters other)

/-! ## Values -/

/-- Steps that suffice to go past a text: of three steps in a row one takes a character. -/
def stepsFor (cs : List Char) : Nat := 3 * (cs.length + 1)

mutual

/-- Read a value, in as many steps as `fuel` allows. However deep it is nested it is read: a bound on
that is put on the results of commands alone, by `Script.Value.result`. -/
def readValue (fuel : Nat) (cs : List Char) : Except Fault (Json × List Char) :=
  match fuel with
  | 0 => .error (faultAt .valueEnded cs)
  | fuel + 1 =>
    match skipSpace cs with
    | [] => .error (faultBy .valueEnded [])
    | 'n' :: rest => do .ok (.null, ← readWord ['u', 'l', 'l'] rest)
    | 't' :: rest => do .ok (.bool true, ← readWord ['r', 'u', 'e'] rest)
    | 'f' :: rest => do .ok (.bool false, ← readWord ['a', 'l', 's', 'e'] rest)
    | '"' :: rest => do
      let (s, after) ← readString rest
      .ok (.string (String.ofList s), after)
    | '[' :: rest => do
      let (items, after) ← readItems fuel true rest
      .ok (.array items, ← endList after)
    | '\x7b' :: rest => do
      let (fields, after) ← readFields fuel true rest
      .ok (ofFields fields, ← endObject after)
    | c :: rest =>
      if c = '-' ∨ c.isDigit then do
        let (n, after) ← readJsonNumber (c :: rest)
        .ok (.number n, after)
      else .error (faultBy .valueExpected (c :: rest))

/-- Read the items of a list. -/
def readItems (fuel : Nat) (first : Bool) (cs : List Char) : Except Fault (List Json × List Char) :=
  match fuel with
  | 0 => .error (faultAt .valueEnded cs)
  | fuel + 1 => do
    match ← nextItem first cs with
    | none => .ok ([], skipSpace cs)
    | some item =>
      let (value, after) ← readValue fuel item
      let (others, last) ← readItems fuel false after
      .ok (value :: others, last)

/-- Read the fields of an object. -/
def readFields (fuel : Nat) (first : Bool) (cs : List Char) :
    Except Fault (List (String × Json) × List Char) :=
  match fuel with
  | 0 => .error (faultAt .valueEnded cs)
  | fuel + 1 => do
    match ← nextKey first cs with
    | none => .ok ([], skipSpace cs)
    | some key =>
      let (name, after) ← readString key
      let (value, after) ← readValue fuel (← skipColon after)
      let (others, last) ← readFields fuel false after
      .ok ((String.ofList name, value) :: others, last)

end

/-- Read a whole text as one value. This is for the answers and inputs of tests. A program reads its
descriptions field by field, and gets the results of its commands as values. -/
def parse (whole : String) : Except Fault Json := do
  let cs := whole.toList
  let (value, rest) ← readValue (stepsFor cs) cs
  endText rest
  .ok value

/-! ## Laws -/

/-- A word is read wherever it stands. -/
theorem readWord_append (word rest : List Char) : readWord word (word ++ rest) = .ok rest := by
  induction word with
  | nil => simp [readWord]
  | cons w word ih => simp [readWord, ih]

/-- Reading a string ends after at least one character. -/
theorem length_readString {cs text rest : List Char} (h : readString cs = .ok (text, rest)) :
    rest.length < cs.length := by
  -- the closing quote, an escape, or a plain character comes first; the other cases are refused
  fun_induction readString cs generalizing text with
  | case1 => simp at h
  | case2 after =>
    simp only [Except.ok.injEq, Prod.mk.injEq] at h
    rw [← h.2]
    simp
  | case3 => simp at h
  | case4 after e after' escape _ ih =>
    cases hs : readString after' with
    | error e => simp [hs, bind, Except.bind] at h
    | ok pair =>
      obtain ⟨others, last⟩ := pair
      simp only [hs, bind, Except.bind, Except.ok.injEq, Prod.mk.injEq] at h
      have := ih (hs.trans (by rw [h.2]))
      have := length_readEscape escape
      simp only [List.length_cons]
      omega
  | case5 => simp at h
  | case6 c after _ _ _ ih =>
    cases hs : readString after with
    | error e => simp [hs, bind, Except.bind] at h
    | ok pair =>
      obtain ⟨others, last⟩ := pair
      simp only [hs, bind, Except.bind, Except.ok.injEq, Prod.mk.injEq] at h
      have := ih (hs.trans (by rw [h.2]))
      simp only [List.length_cons]
      omega

end ScriptWindows.Json
