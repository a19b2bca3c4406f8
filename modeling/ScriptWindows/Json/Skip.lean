import ScriptWindows.Json.Reader

/-!
# Skipping JSON values

A value that nobody wants is gone past without being kept. Its form is checked, but not what its
numbers and surrogates amount to.

Main result: `skipValue_null`, a word that is a value is gone past.
-/

namespace ScriptWindows.Json

/-- Go past an escape after its backslash. -/
def skipEscape (cs : List Char) : Except Fault (List Char) :=
  match cs with
  | [] => .error (faultAt .stringEnded [])
  | c :: rest =>
    if (simpleEscape c).isSome then .ok rest
    else if c = 'u' then do .ok (← readHexQuad rest).2
    else .error (faultBy .badEscape cs)

theorem length_skipEscape {cs rest : List Char} (h : skipEscape cs = .ok rest) :
    rest.length < cs.length := by
  unfold skipEscape at h
  split at h
  · simp at h
  next c after =>
    split at h
    · simp only [Except.ok.injEq] at h
      rw [← h]
      simp
    · split at h
      · cases hq : readHexQuad after with
        | error e => simp [hq, bind, Except.bind] at h
        | ok pair =>
          have := @length_readHexQuad after pair.2 pair.1 hq
          simp only [hq, bind, Except.bind, Except.ok.injEq] at h
          rw [← h]
          simp only [List.length_cons]
          omega
      · simp at h

/-- Go past a string after its opening quote. -/
def skipString (cs : List Char) : Except Fault (List Char) :=
  match cs with
  | [] => .error (faultAt .stringEnded [])
  | c :: after =>
    if c = '"' then .ok after
    else if c = '\\' then
      match _escape : skipEscape after with
      | .error e => .error e
      | .ok rest => skipString rest
    else if c.toNat < 0x20 then .error (faultAt .controlCharacter cs)
    else skipString after
termination_by cs.length
decreasing_by
  · have := length_skipEscape _escape
    simp only [List.length_cons]
    omega
  · simp

/-- Go past the digits of an exponent after its mark. -/
def skipExponent (cs : List Char) : Except Fault (List Char) :=
  let signed := match cs with
    | '+' :: rest => rest
    | '-' :: rest => rest
    | _ => cs
  match signed with
  | [] => .error (faultAt .badNumber [])
  | c :: rest =>
    if c.isDigit then .ok (rest.dropWhile Char.isDigit) else .error (faultBy .badNumber signed)

/-- Go past what follows the whole part of a number. -/
def skipAfterWhole (cs : List Char) : Except Fault (List Char) :=
  match cs with
  | '.' :: rest =>
    match rest with
    | [] => .error (faultBy .badNumber [])
    | c :: _ =>
      if c.isDigit then
        match rest.dropWhile Char.isDigit with
        | [] => .ok []
        | e :: after => if e = 'e' ∨ e = 'E' then skipExponent after else .ok (e :: after)
      else .error (faultBy .badNumber rest)
  | c :: rest => if c = 'e' ∨ c = 'E' then skipExponent rest else .ok cs
  | [] => .ok []

/-- Go past a number after its sign. -/
def skipNumber (cs : List Char) : Except Fault (List Char) :=
  match cs with
  | [] => .error (faultAt .badNumber [])
  | '0' :: rest =>
    if (rest.head?.map Char.isDigit).getD false then .error (faultBy .badNumber rest)
    else skipAfterWhole rest
  | c :: rest =>
    if c.isDigit then skipAfterWhole (rest.dropWhile Char.isDigit)
    else .error (faultBy .badNumber cs)

mutual

/-- Go past a value, in as many steps as `fuel` allows. -/
def skipValue (fuel : Nat) (cs : List Char) : Except Fault (List Char) :=
  match fuel with
  | 0 => .error (faultAt .valueEnded cs)
  | fuel + 1 =>
    match skipSpace cs with
    | [] => .error (faultBy .valueEnded [])
    | 'n' :: rest => readWord ['u', 'l', 'l'] rest
    | 't' :: rest => readWord ['r', 'u', 'e'] rest
    | 'f' :: rest => readWord ['a', 'l', 's', 'e'] rest
    | '-' :: rest => skipNumber rest
    | '"' :: rest => skipString rest
    | '[' :: rest => skipItems fuel true rest
    | '\x7b' :: rest => skipFields fuel true rest
    | c :: rest =>
      if c.isDigit then skipNumber (c :: rest) else .error (faultBy .valueExpected (c :: rest))

/-- Go past the items of a list and the bracket that ends it. -/
def skipItems (fuel : Nat) (first : Bool) (cs : List Char) : Except Fault (List Char) :=
  match fuel with
  | 0 => .error (faultAt .valueEnded cs)
  | fuel + 1 =>
    match skipSpace cs with
    | [] => .error (faultBy .listEnded [])
    | ']' :: rest => .ok rest
    | c :: rest =>
      if first then do skipItems fuel false (← skipValue fuel (c :: rest))
      else if c = ',' then do skipItems fuel false (← skipValue fuel rest)
      else .error (faultBy .listCommaExpected (c :: rest))

/-- Go past the fields of an object and the bracket that ends it. -/
def skipFields (fuel : Nat) (first : Bool) (cs : List Char) : Except Fault (List Char) :=
  match fuel with
  | 0 => .error (faultAt .valueEnded cs)
  | fuel + 1 =>
    match skipSpace cs with
    | [] => .error (faultBy .objectEnded [])
    | '\x7d' :: rest => .ok rest
    | c :: rest =>
      if first then skipField fuel (c :: rest)
      else if c = ',' then skipField fuel rest
      else .error (faultBy .objectCommaExpected (c :: rest))

/-- Go past one field and those that follow it. -/
def skipField (fuel : Nat) (cs : List Char) : Except Fault (List Char) :=
  match fuel with
  | 0 => .error (faultAt .valueEnded cs)
  | fuel + 1 =>
    match skipSpace cs with
    | [] => .error (faultBy .objectEnded [])
    | '"' :: rest => do
      let value ← skipColon (← skipString rest)
      skipFields fuel false (← skipValue fuel value)
    | other => .error (faultBy .keyNotString other)

end

/-- A word that is a value is gone past. -/
theorem skipValue_null (fuel : Nat) (rest : List Char) :
    skipValue (fuel + 1) ('n' :: 'u' :: 'l' :: 'l' :: rest) = .ok rest := by
  have : skipSpace ('n' :: 'u' :: 'l' :: 'l' :: rest) = 'n' :: 'u' :: 'l' :: 'l' :: rest := by
    simp [skipSpace, isSpace]
  rw [skipValue, this]
  exact readWord_append ['u', 'l', 'l'] rest

end ScriptWindows.Json
