import ScriptWindows.Text.Unprintable

/-!
# Quoted text

The form in which a message shows a name that may hold anything: between double quotes, with
the quote, the backslash and the usual control characters behind a backslash, and every other
character without a printed form by its number. The single quote stands for itself.

Main result: `quoted_of_plain`, a text of plain characters is only put between quotes.
-/

namespace ScriptWindows.Text

/-- How one character stands inside quotes. -/
def quotedChar (c : Char) : List Char :=
  if c = '\t' then ['\\', 't']
  else if c = '\r' then ['\\', 'r']
  else if c = '\n' then ['\\', 'n']
  else if c = '\\' then ['\\', '\\']
  else if c = '"' then ['\\', '"']
  else if c.toNat = 0 then ['\\', '0']
  else if isUnprintable c then ['\\', 'u', '\x7b'] ++ Nat.toDigits 16 c.toNat ++ ['\x7d']
  else [c]

/-- A text between quotes. -/
def quoted (text : String) : String :=
  String.ofList ('"' :: text.toList.flatMap quotedChar ++ ['"'])

/-! ## Plain text -/

/-- A printed character stands for itself, unless it is the quote or the backslash. -/
theorem quotedChar_of_printed {c : Char} (notQuote : c ≠ '"') (notBackslash : c ≠ '\\')
    (printed : isUnprintable c = false) : quotedChar c = [c] := by
  have notControl : ¬ c.toNat < 0x20 := fun low => by
    simp [unprintable_of_control low] at printed
  have nonzero : c.toNat ≠ 0 := by omega
  have notTab : c ≠ '\t' := by rintro rfl; exact notControl (by decide)
  have notReturn : c ≠ '\r' := by rintro rfl; exact notControl (by decide)
  have notFeed : c ≠ '\n' := by rintro rfl; exact notControl (by decide)
  simp [quotedChar, *]

/-- A text of plain characters is only put between quotes. -/
theorem quoted_of_plain {text : String}
    (h : ∀ c ∈ text.toList, c ≠ '"' ∧ c ≠ '\\' ∧ isUnprintable c = false) :
    quoted text = String.ofList ('"' :: text.toList ++ ['"']) := by
  unfold quoted
  generalize text.toList = cs at h
  have : cs.flatMap quotedChar = cs := by
    induction cs with
    | nil => rfl
    | cons c cs ih =>
      obtain ⟨notQuote, notBackslash, printed⟩ := h c (by simp)
      rw [List.flatMap_cons, quotedChar_of_printed notQuote notBackslash printed,
        ih fun d hd => h d (by simp [hd])]
      rfl
  rw [this]

end ScriptWindows.Text
