import ScriptWindows.Xml.Markup

/-!
# Attributes of a tag

The attributes of a tag are read in order from the text after its name. Each is a key, an equals
sign and a value in quotes; no blank is needed between two of them. Reading stops at the first
fault, which carries its byte offset inside the tag.

Main result: `length_readAttribute`, an attribute takes at least one character, so reading ends.
-/

namespace ScriptWindows.Xml

open Text

/-- An attribute as written: its value may still hold references. -/
structure Attribute where
  key : List Char
  value : List Char
deriving DecidableEq, Repr

/-- What is wrong with an attribute. Offsets count bytes inside the tag. -/
inductive AttributeError
  | keyNotFollowed (offset : Nat)
  | valueMissing (offset : Nat)
  | valueNotQuoted (offset : Nat)
  | quoteMissing (offset : Nat) (quote : Char)
  | duplicate (offset previous : Nat)
deriving DecidableEq, Repr

def AttributeError.message : AttributeError → String
  | .keyNotFollowed offset =>
    s!"position {offset}: attribute key must be directly followed by `=` or space"
  | .valueMissing offset => s!"position {offset}: `=` must be followed by an attribute value"
  | .valueNotQuoted offset =>
    s!"position {offset}: attribute value must be enclosed in `\"` or `'`"
  | .quoteMissing offset quote =>
    s!"position {offset}: missing closing quote `" ++ quote.toString ++ "` in attribute value"
  | .duplicate offset previous =>
    s!"position {offset}: duplicated attribute, previous declaration at position {previous}"

/-! ## One attribute -/

/-- Where the text that is left begins, in bytes, in a tag of `total` bytes. -/
def offsetOf (total : Nat) (rest : List Char) : Nat := total - byteLength rest

/-- What ends a key. -/
def endsKey (c : Char) : Bool := c == '=' || isSpace c

/-- Read the value after an equals sign, and the text after it. -/
def readValue (total : Nat) (cs : List Char) : Except AttributeError (List Char × List Char) :=
  match cs.dropWhile isSpace with
  | [] => .error (.valueMissing total)
  | q :: after =>
    if q = '"' ∨ q = '\'' then
      match after.dropWhile (· ≠ q) with
      | [] => .error (.quoteMissing total q)
      | _ :: rest => .ok (after.takeWhile (· ≠ q), rest)
    else .error (.valueNotQuoted (offsetOf total (q :: after)))

/-- Read the attribute that begins with `first`, given the keys read before with their offsets.
A repeated key is noticed before its value is looked at. -/
def readAttribute (total : Nat) (seen : List (List Char × Nat)) (first : Char) (cs : List Char) :
    Except AttributeError (Attribute × List Char) :=
  let key := first :: cs.takeWhile (!endsKey ·)
  match (cs.dropWhile (!endsKey ·)).dropWhile isSpace with
  | [] => .error (.keyNotFollowed total)
  | c :: rest =>
    if c ≠ '=' then .error (.keyNotFollowed (offsetOf total (c :: rest)))
    else match seen.lookup key with
      | some previous => .error (.duplicate (offsetOf total (first :: cs)) previous)
      | none => do
        let (value, after) ← readValue total rest
        .ok (⟨key, value⟩, after)

theorem length_dropWhile_le {α : Type} (p : α → Bool) (xs : List α) :
    (xs.dropWhile p).length ≤ xs.length :=
  (List.dropWhile_suffix p).length_le

theorem length_readValue {total : Nat} {cs value rest : List Char}
    (h : readValue total cs = .ok (value, rest)) : rest.length < cs.length := by
  unfold readValue at h
  have skipped := length_dropWhile_le isSpace cs
  split at h
  next => simp at h
  next q after hq =>
    split at h
    next =>
      split at h
      next => simp at h
      next c rest' hr =>
        simp only [Except.ok.injEq, Prod.mk.injEq] at h
        have inside := length_dropWhile_le (· ≠ q) after
        rw [hr] at inside
        rw [hq] at skipped
        simp only [List.length_cons] at inside skipped
        rw [← h.2]
        omega
    next => simp at h

/-- An attribute takes at least one character. -/
theorem length_readAttribute {total : Nat} {seen : List (List Char × Nat)} {first : Char}
    {cs rest : List Char} {a : Attribute}
    (h : readAttribute total seen first cs = .ok (a, rest)) : rest.length < cs.length := by
  unfold readAttribute at h
  have skipped := length_dropWhile_le isSpace (cs.dropWhile (!endsKey ·))
  have keyed := length_dropWhile_le (!endsKey ·) cs
  simp only at h
  split at h
  next => simp at h
  next c after hc =>
    rw [hc] at skipped
    split at h
    next => simp at h
    next =>
      split at h
      next => simp at h
      next =>
        cases hv : readValue total after with
        | error e => simp [hv, bind, Except.bind] at h
        | ok pair =>
          obtain ⟨value, last⟩ := pair
          simp only [hv, bind, Except.bind, Except.ok.injEq, Prod.mk.injEq] at h
          have := length_readValue hv
          rw [← h.2]
          simp only [List.length_cons] at skipped
          omega

/-! ## All attributes -/

/-- Attributes up to the first fault, and that fault. -/
structure AttributeList where
  attributes : List Attribute
  failure : Option AttributeError
deriving DecidableEq, Repr

/-- Read attributes from the text that is left of a tag. -/
def readAttributes (total : Nat) (seen : List (List Char × Nat)) (cs : List Char) :
    AttributeList :=
  match _skip : cs.dropWhile isSpace with
  | [] => ⟨[], none⟩
  | first :: after =>
    match _read : readAttribute total seen first after with
    | .error e => ⟨[], some e⟩
    | .ok (a, rest) =>
      let later := readAttributes total ((a.key, offsetOf total (first :: after)) :: seen) rest
      ⟨a :: later.attributes, later.failure⟩
termination_by cs.length
decreasing_by
  have taken := length_readAttribute _read
  have skipped := length_dropWhile_le isSpace cs
  rw [_skip] at skipped
  simp only [List.length_cons] at skipped
  omega

/-- The attributes of a tag, by what stands between its brackets. -/
def attributesOf (content : List Char) : AttributeList :=
  readAttributes (byteLength content) [] (content.drop (nameOf content).length)

end ScriptWindows.Xml
