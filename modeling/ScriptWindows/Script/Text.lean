/-!
# Texts of scripts

A text of a script is a row of characters among which half a surrogate pair may stand alone.
Such a text has no UTF-8 form and cannot leave the script.

Main results:

* `toString?_ofString`: a text made from a string is that string.
* `toString?_append_half`: a text with a lone half is no string.
-/

namespace ScriptWindows.Script

/-- One place of a text: a character, or half a surrogate pair that stands alone. -/
inductive Glyph
  | char (c : Char)
  | half (unit : Nat)
deriving DecidableEq, Repr

/-- A text of a script. -/
abbrev ScriptText := List Glyph

namespace ScriptText

def ofString (s : String) : ScriptText := s.toList.map .char

/-- The character at a place, unless a lone half stands there. -/
def charOf? : Glyph → Option Char
  | .char c => some c
  | .half _ => none

/-- The text as a string, unless a lone half stands in it. -/
def toString? (t : ScriptText) : Option String := (t.mapM charOf?).map String.ofList

/-- Bytes before the first lone half. -/
def bytesBeforeHalf : ScriptText → Nat
  | .char c :: rest => c.utf8Size + bytesBeforeHalf rest
  | _ => 0

/-- Units of 16 bits that a place takes. -/
def units : Glyph → Nat
  | .char c => if c.toNat < 0x10000 then 1 else 2
  | .half _ => 1

/-- The length of a text as scripts count it, in units of 16 bits. -/
def length (t : ScriptText) : Nat := t.foldr (fun glyph n => units glyph + n) 0

/-! ## Laws -/

theorem mapM_charOf?_map (cs : List Char) : (cs.map Glyph.char).mapM charOf? = some cs := by
  induction cs with
  | nil => rfl
  | cons c cs ih =>
    rw [List.map_cons, List.mapM_cons, ih]
    rfl

/-- A text made from a string is that string. -/
theorem toString?_ofString (s : String) : toString? (ofString s) = some s := by
  rw [toString?, ofString, mapM_charOf?_map]
  simp

/-- A text in which a lone half follows characters is no string. -/
theorem toString?_append_half (cs : List Char) (unit : Nat) (rest : ScriptText) :
    toString? (cs.map Glyph.char ++ .half unit :: rest) = none := by
  suffices h : (cs.map Glyph.char ++ .half unit :: rest).mapM charOf? = none by
    simp [toString?, h]
  induction cs with
  | nil => rfl
  | cons c cs ih =>
    rw [List.map_cons, List.cons_append, List.mapM_cons, ih]
    rfl

end ScriptText

end ScriptWindows.Script
