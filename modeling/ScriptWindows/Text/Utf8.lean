/-!
# Byte offsets in a text

A text is a list of characters; places in it are told in bytes of its UTF-8 form. This module
measures a text in bytes and cuts it at a byte offset. An offset inside a character, or beyond
the end, is no place to cut.

Main results:

* `byteLength_append`: lengths add up.
* `splitAtByte_append`: the byte length of a first part is where the two parts meet.
* `append_of_splitAtByte`: the two parts of a cut make the text again, and the first one is as
  long as the offset says.
-/

namespace ScriptWindows.Text

/-- Bytes the UTF-8 form of a text takes. -/
def byteLength : List Char → Nat
  | [] => 0
  | c :: cs => c.utf8Size + byteLength cs

/-- The text before a byte offset and the text from there on; `none` where no character begins
or ends. -/
def splitAtByte (offset : Nat) : List Char → Option (List Char × List Char)
  | [] => if offset = 0 then some ([], []) else none
  | c :: cs =>
    if offset = 0 then some ([], c :: cs)
    else if offset < c.utf8Size then none
    else (splitAtByte (offset - c.utf8Size) cs).map fun (head, tail) => (c :: head, tail)

/-- The byte order mark, which some editors write before the first character of a file. -/
def byteOrderMark : Char := '\ufeff'

/-! ## Laws -/

@[simp] theorem byteLength_nil : byteLength [] = 0 := rfl

@[simp] theorem byteLength_cons (c : Char) (cs : List Char) :
    byteLength (c :: cs) = c.utf8Size + byteLength cs := rfl

@[simp] theorem byteLength_append (a b : List Char) :
    byteLength (a ++ b) = byteLength a + byteLength b := by
  induction a with
  | nil => simp
  | cons c cs ih => simp [ih, Nat.add_assoc]

theorem splitAtByte_zero (cs : List Char) : splitAtByte 0 cs = some ([], cs) := by
  cases cs <;> simp [splitAtByte]

/-- The byte length of a first part is where the two parts meet. -/
theorem splitAtByte_append (a b : List Char) :
    splitAtByte (byteLength a) (a ++ b) = some (a, b) := by
  induction a with
  | nil => simpa using splitAtByte_zero b
  | cons c cs ih =>
    have size := c.utf8Size_pos
    have fits : ¬ c.utf8Size + byteLength cs < c.utf8Size := by omega
    simp only [List.cons_append, byteLength_cons, splitAtByte, fits, if_false,
      Nat.add_sub_cancel_left, ih, Option.map_some]
    rw [if_neg (by omega)]

/-- A text has one cut at an offset. -/
theorem cut_unique {a b c d : List Char} (h : a ++ b = c ++ d)
    (hLength : byteLength a = byteLength c) : a = c ∧ b = d := by
  have hCut := splitAtByte_append a b
  rw [hLength, h, splitAtByte_append] at hCut
  obtain ⟨rfl, rfl⟩ := Prod.mk.inj (Option.some.inj hCut)
  exact ⟨rfl, rfl⟩

/-- A cut loses nothing and its first part is as long as the offset says. -/
theorem append_of_splitAtByte {offset : Nat} {cs head tail : List Char}
    (h : splitAtByte offset cs = some (head, tail)) :
    head ++ tail = cs ∧ byteLength head = offset := by
  induction cs generalizing offset head tail with
  | nil =>
    unfold splitAtByte at h
    split at h
    next zero => simp_all
    next => simp at h
  | cons c cs ih =>
    unfold splitAtByte at h
    split at h
    next zero => simp_all
    next =>
      split at h
      next => simp at h
      next fits =>
        obtain ⟨⟨before, after⟩, cut, parts⟩ := Option.map_eq_some_iff.1 h
        obtain ⟨joined, length⟩ := ih cut
        simp only [Prod.mk.injEq] at parts
        obtain ⟨rfl, rfl⟩ := parts
        refine ⟨by simp [joined], ?_⟩
        simp only [byteLength_cons, length]
        omega

end ScriptWindows.Text
