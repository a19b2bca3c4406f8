import Mathlib
import ScriptWindows.Proofs.Manifest.Outlines

/-!
# Where a text stops being a manifest

A text that is refused is refused at one of its markups, or because it ends too early. The fault
tells a byte offset. This module shows that the offset is what an editor would want it to be: up to
there the text is the beginning of a manifest, the markup that begins there is the first one with
which it is none, and so there is no longer beginning.

Main results:

* `parse_cases`: a body is gone past to its end, or up to a markup that is refused.
* `viable_iff`: a text begins a manifest exactly if its markups can be gone past.
* `fault_at_first_markup`: where a fault is told.
-/

namespace ScriptWindows.Manifest

open Text Xml

/-! ## Going past markups up to a fault -/

/-- Whether a fault says that something is still missing, and nothing against what is there. -/
def SyntaxCause.isMissing : SyntaxCause → Bool
  | .rootNotClosed | .noRoot => true
  | _ => false

namespace Outline

/-- A markup that is refused is refused where it begins, for what it is. -/
theorem step_error {o : Outline} {t : Token} {e : SyntaxError} (h : o.step t = .error e) :
    e.position = t.start ∧ e.cause.isMissing = false := by
  have hItem : ∀ {o : Outline} {content : List Char}, o.noteItem t.start content = .error e →
      e.position = t.start ∧ e.cause.isMissing = false := by
    intro o content hItem
    unfold noteItem at hItem
    split at hItem
    · contradiction
    · contradiction
    · obtain rfl := Except.error.inj hItem
      exact ⟨rfl, rfl⟩
  -- an opening tag, a tag that closes itself, an end tag, and a remark
  unfold step at h
  split at h
  · rename_i content _
    split at h
    · split at h
      · obtain rfl := Except.error.inj h
        exact ⟨rfl, rfl⟩
      · contradiction
    · cases hNoted : (o.noteChild t.start).noteItem t.start content with
      | ok noted => simp [hNoted, bind, Except.bind] at h
      | error e' =>
        obtain rfl : e' = e := by simpa [hNoted, bind, Except.bind] using h
        exact hItem hNoted
  · split at h
    · split at h
      · obtain rfl := Except.error.inj h
        exact ⟨rfl, rfl⟩
      · contradiction
    · exact hItem h
  · split at h
    · obtain rfl := Except.error.inj h
      exact ⟨rfl, rfl⟩
    · split at h
      · obtain rfl := Except.error.inj h
        exact ⟨rfl, rfl⟩
      · split at h <;> contradiction
  · contradiction

/-- Markups that cannot all be gone past are gone past up to the first that is refused. -/
theorem follow_error {o : Outline} {ts : List Token} {e : SyntaxError}
    (h : o.follow ts = .error e) :
    ∃ before t after below, ts = before ++ t :: after ∧ o.follow before = .ok below ∧
      below.step t = .error e := by
  induction ts generalizing o with
  | nil => contradiction
  | cons t ts ih =>
    cases hStep : o.step t with
    | error e' =>
      obtain rfl : e' = e := by simpa [follow, hStep, bind, Except.bind] using h
      exact ⟨[], t, ts, o, rfl, rfl, hStep⟩
    | ok next =>
      rw [follow_cons_of_ok hStep] at h
      obtain ⟨before, u, after, below, rfl, hBefore, hRefused⟩ := ih h
      exact ⟨t :: before, u, after, below, rfl, by rw [follow_cons_of_ok hStep, hBefore], hRefused⟩

end Outline

/-- What is wrong with the markup behind a `<` at an offset, after an outline: it cannot be read, or
it cannot stand here. -/
inductive Refuses (o : Outline) (offset : Nat) (tail : List Char) : SyntaxCause → Prop
  | unread {e : MarkupError} (h : readMarkup tail = .error e) : Refuses o offset tail (.markup e)
  | misplaced {r : Reading} {cause : SyntaxCause} (hRead : readMarkup tail = .ok r)
    (hStep : o.step ⟨offset, offset + 1 + byteLength r.taken, r.markup⟩ = .error ⟨offset, cause⟩) :
    Refuses o offset tail cause

/-- A text that can be gone past to its end. -/
def Passable (offset : Nat) (cs : List Char) (o : Outline) : Prop :=
  ∃ ts, Scans offset cs ts ∧ ({} : Outline).follow ts = .ok o

/-- A text that can be gone past up to a markup that is refused. -/
def Stops (offset : Nat) (head tail : List Char) (cause : SyntaxCause) : Prop :=
  ∃ o, Passable offset head o ∧ Refuses o (offset + byteLength head) tail cause

section
variable {offset : Nat} {head tail : List Char} {o : Outline} {cause : SyntaxCause}

/-- A refused markup is at fault for what it is. -/
theorem Refuses.isMissing (h : Refuses o offset tail cause) : cause.isMissing = false := by
  cases h with
  | unread h => rfl
  | misplaced hRead hStep => exact (Outline.step_error hStep).2

/-- **A body is gone past to its end, or up to a markup that is refused.** -/
theorem passable_or_stops (offset : Nat) (body : List Char) :
    (∃ o, Passable offset body o) ∨
      ∃ head tail cause, body = head ++ '<' :: tail ∧ Stops offset head tail cause ∧
        ∀ size, outline size offset body = .error ⟨offset + byteLength head, cause⟩ := by
  cases hFollow : ({} : Outline).follow (scan offset body).tokens with
  | error e =>
    -- an element is at fault, before the scan fails if it does
    obtain ⟨before, t, after, below, hTokens, hBelow, hRefused⟩ := Outline.follow_error hFollow
    obtain ⟨head, tail, r, rfl, hHead, hRead, rfl, -⟩ := scan_split hTokens
    obtain ⟨hPosition, -⟩ := Outline.step_error hRefused
    obtain ⟨position, cause⟩ := e
    obtain rfl : position = offset + byteLength head := hPosition
    refine .inr ⟨head, tail, cause, rfl, ⟨below, ⟨before, hHead, hBelow⟩, ?_⟩, fun size => ?_⟩
    · exact .misplaced hRead hRefused
    · simp [outline, hFollow, bind, Except.bind]
  | ok o =>
    cases hFailure : (scan offset body).failure with
    | none => exact .inl ⟨o, _, by rw [Scans, ← hFailure], hFollow⟩
    | some failure =>
      obtain ⟨position, e⟩ := failure
      obtain ⟨head, tail, hBody, hHead, rfl, hRead⟩ := scan_failure hFailure
      refine .inr ⟨head, tail, .markup e, hBody, ⟨o, ⟨_, hHead, hFollow⟩, .unread hRead⟩, ?_⟩
      intro size
      simp [outline, hFollow, hFailure, bind, Except.bind]

theorem Stops.isMissing (h : Stops offset head tail cause) : cause.isMissing = false := by
  obtain ⟨o, -, hRefuses⟩ := h
  exact hRefuses.isMissing

/-- No part of a text that reaches into a refused markup can be gone past: a markup is read the same
whatever follows it. -/
theorem Stops.not_passable (h : Stops offset head tail cause) {more rest : List Char}
    (hTail : tail = more ++ rest) : ¬ Passable offset (head ++ '<' :: more) o := by
  rintro ⟨us, hScan, hFollow⟩
  obtain ⟨below, ⟨ts, hHead, hBelow⟩, hRefuses⟩ := h
  obtain ⟨vs, rfl, hMarkup⟩ := hHead.rest hScan
  obtain ⟨r, ws, hRead, rfl, -⟩ := hMarkup.read
  -- so it is read in the whole text as it is here
  have hWhole := readMarkup_taken hRead (r.rest ++ rest)
  rw [← List.append_assoc, append_of_readMarkup hRead, ← hTail] at hWhole
  cases hRefuses with
  | unread hUnread =>
    rw [hUnread] at hWhole
    contradiction
  | misplaced hThere hStep =>
    obtain rfl := Except.ok.inj (hThere.symm.trans hWhole)
    rw [Outline.follow_append_of_ok hBelow] at hFollow
    obtain ⟨next, hNext, -⟩ := Outline.follow_cons_ok hFollow
    rw [hStep] at hNext
    contradiction

end

/-! ## Reading a text -/

section
variable {text : String} {mark body : List Char}

/-- A body that can be gone past is a document, or the end tag of its root or the root is missing. -/
theorem parse_of_passable (hText : text.toList = mark ++ body) (hMarked : Marked mark body)
    {o : Outline} (h : Passable (byteLength mark) body o) :
    (∃ d, Document.parse text = .ok d) ∨
      Document.parse text = .error (.ill ⟨byteLength text.toList, .rootNotClosed⟩) ∨
      Document.parse text = .error (.ill ⟨0, .noRoot⟩) := by
  obtain ⟨ts, hScan, hFollow⟩ := h
  have hRead := hScan
  rw [Scans] at hRead
  by_cases hClosed : o.unclosed = []
  · cases hRoot : o.root with
    | none =>
      refine .inr (.inr ?_)
      rw [Document.parse, hText]
      simp [Document.bodyOf_marked hMarked, outline, hRead, hFollow, hClosed, hRoot, bind,
        Except.bind]
    | some root =>
      obtain ⟨indent, hIndent⟩ := Document.exists_indent hScan hFollow
      exact .inl ⟨_, Document.parse_of_follow hText hMarked hScan hFollow hClosed hRoot hIndent⟩
  · refine .inr (.inl ?_)
    rw [Document.parse, hText]
    simp [Document.bodyOf_marked hMarked, outline, hRead, hFollow, hClosed, bind, Except.bind]

/-- **A text is refused at the first markup that cannot be gone past.** -/
theorem parse_cases (hText : text.toList = mark ++ body) (hMarked : Marked mark body) :
    (∃ o, Passable (byteLength mark) body o) ∨
      ∃ head tail cause, body = head ++ '<' :: tail ∧ Stops (byteLength mark) head tail cause ∧
        Document.parse text = .error (.ill ⟨byteLength (mark ++ head), cause⟩) := by
  rcases passable_or_stops (byteLength mark) body with hPassable |
    ⟨head, tail, cause, rfl, hStops, hOutline⟩
  · exact .inl hPassable
  · refine .inr ⟨head, tail, cause, rfl, hStops, ?_⟩
    rw [Document.parse, hText]
    simp [Document.bodyOf_marked hMarked, hOutline]

end

/-- A text that begins a manifest: it is one, or nothing is wrong with it but that its root or the
end tag of its root is missing. -/
def Viable (cs : List Char) : Prop :=
  (∃ d, Document.parse (String.ofList cs) = .ok d) ∨
    ∃ e, Document.parse (String.ofList cs) = .error (.ill e) ∧
      (e.cause = .rootNotClosed ∨ e.cause = .noRoot)

/-- **A text begins a manifest exactly if its markups can be gone past.** -/
theorem viable_iff {mark body : List Char} (hMarked : Marked mark body) :
    Viable (mark ++ body) ↔ ∃ o, Passable (byteLength mark) body o := by
  have hText : (String.ofList (mark ++ body)).toList = mark ++ body := String.toList_ofList
  constructor
  · intro hViable
    rcases parse_cases hText hMarked with hPassable | ⟨head, tail, cause, -, hStops, hParse⟩
    · exact hPassable
    · -- a refused markup is a fault of another kind
      have hMissing := hStops.isMissing
      rcases hViable with ⟨d, hOk⟩ | ⟨e, hError, hCause⟩
      · rw [hParse] at hOk
        contradiction
      · obtain rfl := ParseError.ill.inj (Except.error.inj (hParse.symm.trans hError))
        rcases hCause with rfl | rfl <;> contradiction
  · rintro ⟨o, hPassable⟩
    rcases parse_of_passable hText hMarked hPassable with hOk | hOpen | hNone
    · exact .inl hOk
    · exact .inr ⟨_, hOpen, .inl rfl⟩
    · exact .inr ⟨_, hNone, .inr rfl⟩

/-! ## Main result -/

theorem byteLength_toList (text : String) : byteLength text.toList = text.utf8ByteSize := by
  have hLength : ∀ cs : List Char, byteLength cs = String.utf8Len cs := by
    intro cs
    induction cs with
    | nil => rfl
    | cons c cs ih => rw [byteLength_cons, ih, String.utf8Len_cons, Nat.add_comm]
  rw [hLength, ← String.utf8ByteSize_ofList, String.ofList_toList]

/-- The beginning of a text behind at most one byte order mark is such a text. -/
theorem Marked.of_append {mark head rest : List Char} (h : Marked mark (head ++ rest)) :
    Marked mark head := by
  refine ⟨h.mark_eq, fun hHead => h.body_head ?_⟩
  rw [List.head?_append, hHead]
  rfl

/-- **Where a text stops, what comes before is the longest part that begins a manifest.** -/
theorem Stops.viable {mark head tail : List Char} {cause : SyntaxCause}
    (h : Stops (byteLength mark) head tail cause) (hMarked : Marked mark (head ++ '<' :: tail)) :
    Viable (mark ++ head) ∧
      ∀ longer, longer <+: mark ++ (head ++ '<' :: tail) →
        (mark ++ head).length < longer.length → ¬ Viable longer := by
  constructor
  · obtain ⟨o, hPassable, -⟩ := h
    exact (viable_iff hMarked.of_append).2 ⟨o, hPassable⟩
  · intro longer hPrefix hLonger hViable
    -- a longer part has the bracket of the refused markup in it
    have hBracket : mark ++ head ++ ['<'] <+: longer := by
      refine List.prefix_of_prefix_length_le ⟨tail, by simp⟩ hPrefix ?_
      rw [List.length_append]
      exact hLonger
    obtain ⟨more, rfl⟩ := hBracket
    obtain ⟨rest, hRest⟩ := hPrefix
    obtain rfl : tail = more ++ rest := by simpa using hRest.symm
    have hWhole : Marked mark ((head ++ '<' :: more) ++ rest) := by simpa using hMarked
    have hLongerMarked := hWhole.of_append
    rw [List.append_assoc, List.append_assoc, List.singleton_append,
      viable_iff hLongerMarked] at hViable
    obtain ⟨o, hPassable⟩ := hViable
    exact h.not_passable rfl hPassable

/-- **Where a fault is told**, for every text that does not begin with two byte order marks. If the
end tag of the root is missing it is the end of the text, and if the root is missing the beginning.
Any other fault is told at the `<` of a markup: up to there the text begins a manifest, and no
longer part of it does. -/
theorem fault_at_first_markup {text : String} {e : ParseError}
    (hMarks : ¬ [byteOrderMark, byteOrderMark] <+: text.toList)
    (hParse : Document.parse text = .error e) :
    ∃ fault : SyntaxError, e = .ill fault ∧ fault.position ≤ text.utf8ByteSize ∧
      (fault.cause = .rootNotClosed → fault.position = text.utf8ByteSize) ∧
      (fault.cause = .noRoot → fault.position = 0) ∧
      (fault.cause ≠ .rootNotClosed → fault.cause ≠ .noRoot →
        ∃ head tail, splitAtByte fault.position text.toList = some (head, '<' :: tail) ∧
          Viable head ∧
          ∀ longer, longer <+: text.toList → head.length < longer.length → ¬ Viable longer) := by
  obtain ⟨mark, body, hText, hMarked⟩ := exists_marked hMarks
  rw [← byteLength_toList]
  rcases parse_cases hText hMarked with ⟨o, hPassable⟩ |
    ⟨head, tail, cause, rfl, hStops, hIll⟩
  · -- nothing is wrong with what is there
    rcases parse_of_passable hText hMarked hPassable with ⟨d, hOk⟩ | hOpen | hNone
    · rw [hParse] at hOk
      contradiction
    · obtain rfl := Except.error.inj (hParse.symm.trans hOpen)
      exact ⟨_, rfl, Nat.le_refl _, by simp, by simp, by simp⟩
    · obtain rfl := Except.error.inj (hParse.symm.trans hNone)
      exact ⟨_, rfl, Nat.zero_le _, by simp, by simp, by simp⟩
  · -- a markup stops the reading at its bracket
    obtain rfl := Except.error.inj (hParse.symm.trans hIll)
    have hMissing := hStops.isMissing
    have hCut := splitAtByte_append (mark ++ head) ('<' :: tail)
    obtain ⟨hViable, hLongest⟩ := hStops.viable hMarked
    refine ⟨_, rfl, ?_, ?_, ?_, fun _ _ => ⟨mark ++ head, tail, ?_, hViable, ?_⟩⟩
    · rw [hText, ← List.append_assoc, byteLength_append (mark ++ head)]
      exact Nat.le_add_right _ _
    · rintro rfl
      contradiction
    · rintro rfl
      contradiction
    · rw [hText, ← List.append_assoc, hCut]
    · rw [hText]
      exact hLongest

/-- An item behind a byte order mark whose pattern has a reference of no meaning. -/
theorem fault_at_first_markup_badReference :
    ¬ [byteOrderMark, byteOrderMark] <+: "\ufeff<P>é<Page Include='&x;'/></Q>".toList ∧
      Document.parse "\ufeff<P>é<Page Include='&x;'/></Q>" =
        .error (.ill ⟨8, .item (.badReference (.unknownName 1 2 "x"))⟩) ∧
      Viable "\ufeff<P>é".toList ∧
      ¬ Viable "\ufeff<P>é<Page Include='&x;'/>".toList := by
  have hMarks : ¬ [byteOrderMark, byteOrderMark] <+:
      "\ufeff<P>é<Page Include='&x;'/></Q>".toList := by decide
  have hParse : Document.parse "\ufeff<P>é<Page Include='&x;'/></Q>" =
      .error (.ill ⟨8, .item (.badReference (.unknownName 1 2 "x"))⟩) := by cbv
  obtain ⟨fault, hFault, -, -, -, hMarkup⟩ := fault_at_first_markup hMarks hParse
  obtain rfl := ParseError.ill.inj hFault
  obtain ⟨head, tail, hCut, hViable, hLongest⟩ := hMarkup (by simp) (by simp)
  have hThere : splitAtByte 8 "\ufeff<P>é<Page Include='&x;'/></Q>".toList =
      some ("\ufeff<P>é".toList, "<Page Include='&x;'/></Q>".toList) := by decide
  obtain ⟨rfl, -⟩ := Prod.mk.inj (Option.some.inj (hCut.symm.trans hThere))
  exact ⟨hMarks, hParse, hViable, hLongest _ ⟨"</Q>".toList, by decide⟩ (by decide)⟩

end ScriptWindows.Manifest
