/-!
# Cutting a text

Whether one text occurs in another, where it first occurs, and cutting a text at a mark, at the
characters of a class, or before what trails at its end.

Main results:

* `occursIn_iff`: a text occurs in another exactly when the other is that text with something
  before and something after it.
* `append_of_cutAt`: cutting before the first occurrence of a mark loses nothing but the mark.
* `intercalate_pieces`: the pieces between separators make the text again.
* `dropTrailing_append_takeTrailing`: what trails and what stands before it make the text again.
-/

namespace ScriptWindows.Text

/-- Whether `needle` occurs in a text. The empty text occurs everywhere. -/
def occursIn (needle : List Char) : List Char → Bool
  | [] => needle.isEmpty
  | c :: cs => needle.isPrefixOf (c :: cs) || occursIn needle cs

/-- The text before the first occurrence of `mark` and the text after it. -/
def cutAt (mark : List Char) : List Char → Option (List Char × List Char)
  | [] => if mark.isEmpty then some ([], []) else none
  | c :: cs =>
    if mark.isPrefixOf (c :: cs) then some ([], (c :: cs).drop mark.length)
    else (cutAt mark cs).map fun (before, after) => (c :: before, after)

/-- The pieces of a text between the occurrences of a separator: one more than there are
separators. -/
def pieces (separator : Char) : List Char → List (List Char)
  | [] => [[]]
  | c :: cs =>
    if c = separator then [] :: pieces separator cs
    else match pieces separator cs with
      | [] => [[c]]
      | piece :: rest => (c :: piece) :: rest

/-- A list without the elements at its end that belong to a class. -/
def dropTrailing {α : Type} (p : α → Bool) (xs : List α) : List α :=
  (xs.reverse.dropWhile p).reverse

/-- The elements at the end of a list that belong to a class. -/
def takeTrailing {α : Type} (p : α → Bool) (xs : List α) : List α :=
  (xs.reverse.takeWhile p).reverse

/-! ## Laws -/

theorem occursIn_iff {needle cs : List Char} : occursIn needle cs = true ↔ needle <:+: cs := by
  induction cs with
  | nil => simp [occursIn]
  | cons c cs ih =>
    rw [occursIn, Bool.or_eq_true, ih, List.infix_cons_iff]
    simp

/-- Cutting at a mark loses nothing but the mark. -/
theorem append_of_cutAt {mark cs before after : List Char}
    (h : cutAt mark cs = some (before, after)) : before ++ mark ++ after = cs := by
  induction cs generalizing before after with
  | nil =>
    unfold cutAt at h
    split at h
    next empty => simp_all
    next => simp at h
  | cons c cs ih =>
    unfold cutAt at h
    split at h
    next found =>
      obtain ⟨rest, joined⟩ := List.isPrefixOf_iff_prefix.1 found
      simp only [Option.some.injEq, Prod.mk.injEq] at h
      obtain ⟨rfl, rfl⟩ := h
      rw [← joined]
      simp
    next =>
      obtain ⟨⟨first, last⟩, cut, parts⟩ := Option.map_eq_some_iff.1 h
      simp only [Prod.mk.injEq] at parts
      obtain ⟨rfl, rfl⟩ := parts
      simpa using ih cut

theorem pieces_ne_nil (separator : Char) (cs : List Char) : pieces separator cs ≠ [] := by
  cases cs with
  | nil => simp [pieces]
  | cons c cs =>
    unfold pieces
    split
    · simp
    · split <;> simp

/-- The pieces between separators make the text again. -/
theorem intercalate_pieces (separator : Char) (cs : List Char) :
    [separator].intercalate (pieces separator cs) = cs := by
  induction cs with
  | nil => simp [pieces, List.intercalate]
  | cons c cs ih =>
    unfold pieces
    split
    next at_separator =>
      subst at_separator
      cases h : pieces c cs with
      | nil => exact absurd h (pieces_ne_nil c cs)
      | cons piece rest =>
        rw [h] at ih
        simpa [List.intercalate, List.intersperse] using ih
    next =>
      split
      next h => exact absurd h (pieces_ne_nil separator cs)
      next piece rest h =>
        rw [h] at ih
        cases rest with
        | nil => simpa [List.intercalate] using ih
        | cons next others => simpa [List.intercalate, List.intersperse] using ih

/-- What trails and what stands before it make the list again. -/
theorem dropTrailing_append_takeTrailing {α : Type} (p : α → Bool) (xs : List α) :
    dropTrailing p xs ++ takeTrailing p xs = xs := by
  unfold dropTrailing takeTrailing
  rw [← List.reverse_append, List.takeWhile_append_dropWhile, List.reverse_reverse]

theorem takeTrailing_all {α : Type} {p : α → Bool} (xs : List α) :
    ∀ x ∈ takeTrailing p xs, p x = true := by
  intro x hx
  rw [takeTrailing, List.mem_reverse] at hx
  exact List.all_eq_true.1 List.all_takeWhile x hx

theorem dropTrailing_getLast? {α : Type} {p : α → Bool} (xs : List α) :
    ∀ x ∈ (dropTrailing p xs).getLast?, p x = false := by
  intro x hx
  rw [dropTrailing, List.getLast?_reverse, Option.mem_def] at hx
  have hFirst := List.head?_dropWhile_not p xs.reverse
  rw [hx] at hFirst
  simpa using hFirst

theorem dropTrailing_prefix {α : Type} (p : α → Bool) (xs : List α) : dropTrailing p xs <+: xs :=
  ⟨takeTrailing p xs, dropTrailing_append_takeTrailing p xs⟩

end ScriptWindows.Text
