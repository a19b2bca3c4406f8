import ScriptWindows.Proofs.Manifest.Outlines
import ScriptWindows.Manifest.Patch

/-!
# The place before the root's end tag

A document is written by splicing: what was appended goes in front of the blanks that indent the
root's end tag. Offsets of the text that was read say where that is. This module shows that they
say it right: the text is cut exactly at the end tag, and putting any written content there leaves
a document whose root ends at the same tag, with the items of the content behind all others.

Main results:

* `RootEnd.of_parse`, `RootEnd.parse`: a document with an end tag is a text cut at that tag.
* `RootEnd.insert`: a content can be put in before the end tag.
* `RootEnd.render`: what was appended to a document is put in just there.
-/

namespace ScriptWindows.Manifest

open Text Xml

theorem isText_of_isIndent {c : Char} (h : Document.isIndent c = true) : c ≠ '<' ∧ c ≠ '>' := by
  have hBlank : c = ' ' ∨ c = '\t' := by simpa [Document.isIndent] using h
  rcases hBlank with rfl | rfl <;> decide

/-! ## Where a root gets its end tag -/

/-- A text that begins with the end tag of a name and has nothing but remarks behind it. -/
def EndTag (name tail : List Char) : Prop :=
  ∀ offset, ∃ stop us, Scans offset tail (⟨offset, stop, .closing name⟩ :: us) ∧
    ∀ u ∈ us, u.markup = .remark

namespace Outline

/-- The outline behind the end tag of the root. -/
def closedAt (o : Outline) (close : Nat) : Outline :=
  { o with unclosed := [], root := some (.tagged close) }

/-- Once the root is known and closed, nothing but remarks can follow. -/
theorem follow_after_root {o last : Outline} {ts : List Token} (hClosed : o.unclosed = [])
    (hRoot : o.root.isSome) (h : o.follow ts = .ok last) :
    last = o ∧ ∀ t ∈ ts, t.markup = .remark := by
  induction ts with
  | nil =>
    obtain rfl := Except.ok.inj h
    exact ⟨rfl, by simp⟩
  | cons t ts ih =>
    obtain ⟨next, hStep, hRest⟩ := follow_cons_ok h
    -- any tag would be outside of the root, and the reader refuses it
    have hRemark : t.markup = .remark := by
      unfold step at hStep
      split at hStep
      · simp [hClosed, hRoot] at hStep
      · simp [hClosed, hRoot] at hStep
      · simp [hClosed] at hStep
      · assumption
    obtain rfl : o = next := by
      rw [step, hRemark] at hStep
      exact Except.ok.inj hStep
    obtain ⟨hSame, hRemarks⟩ := ih hRest
    refine ⟨hSame, ?_⟩
    intro u hu
    rcases List.mem_cons.1 hu with rfl | hu
    · exact hRemark
    · exact hRemarks u hu

/-- What a tag notes below the root leaves the root as it is. -/
theorem root_noteItem_noteChild {o next : Outline} {start : Nat} {content : List Char}
    (h : (o.noteChild start).noteItem start content = .ok next) : next.root = o.root := by
  obtain ⟨items, rfl⟩ := noteItem_keeps h
  rw [noteChild_eq]

/-- What a step makes of an unknown root: it stays unknown, or it is the only unclosed element and
its end tag is gone past, or it closes itself. -/
theorem step_root {o next : Outline} {t : Token} (hNone : o.root = none) (h : o.step t = .ok next) :
    next.root = none ∨
      (∃ name, o.unclosed = [name] ∧ t.markup = .closing name ∧
        next = o.closedAt t.start) ∨
      (next.unclosed = [] ∧ ∃ start stop name, next.root = some (.selfClosing start stop name)) := by
  -- an opening tag, a tag that closes itself, an end tag, and a remark
  unfold step at h
  split at h
  · rename_i content hMarkup
    split at h
    · simp only [hNone, Option.isSome_none, Bool.false_eq_true, if_false] at h
      obtain rfl := Except.ok.inj h
      exact .inl rfl
    · cases hNoted : (o.noteChild t.start).noteItem t.start content with
      | error e => simp [hNoted, bind, Except.bind] at h
      | ok noted =>
        rw [hNoted] at h
        obtain rfl := Except.ok.inj h
        exact .inl ((root_noteItem_noteChild hNoted).trans hNone)
  · rename_i content hMarkup
    split at h
    · rename_i hClosed
      simp only [hNone, Option.isSome_none, Bool.false_eq_true, if_false] at h
      obtain rfl := Except.ok.inj h
      exact .inr (.inr ⟨hClosed, _, _, _, rfl⟩)
    · exact .inl ((root_noteItem_noteChild h).trans hNone)
  · rename_i name hMarkup
    split at h
    · contradiction
    · rename_i innermost outer hUnclosed
      split at h
      · contradiction
      · rename_i hSame
        obtain rfl : innermost = name := Decidable.not_not.1 hSame
        split at h
        · rename_i hOuter
          subst hOuter
          obtain rfl := Except.ok.inj h
          exact .inr (.inl ⟨innermost, hUnclosed, hMarkup, by simp [hNone, closedAt]⟩)
        · obtain rfl := Except.ok.inj h
          exact .inl hNone
  · obtain rfl := Except.ok.inj h
    exact .inl hNone

/-- **A root with an end tag** is the only unclosed element where the end tag stands, and nothing
but remarks follow. -/
theorem follow_root {o last : Outline} {ts : List Token} {close : Nat} (hNone : o.root = none)
    (h : o.follow ts = .ok last) (hRoot : last.root = some (.tagged close)) :
    ∃ before t after below name, ts = before ++ t :: after ∧ o.follow before = .ok below ∧
      below.root = none ∧ below.unclosed = [name] ∧ t.markup = .closing name ∧ t.start = close ∧
      (∀ u ∈ after, u.markup = .remark) ∧ last = below.closedAt close := by
  induction ts generalizing o with
  | nil =>
    obtain rfl := Except.ok.inj h
    simp [hNone] at hRoot
  | cons t ts ih =>
    obtain ⟨next, hStep, hRest⟩ := follow_cons_ok h
    -- the first markup that makes the root known is its end tag
    rcases step_root hNone hStep with hStill | ⟨name, hUnclosed, hMarkup, rfl⟩ |
      ⟨hClosed, start, stop, name, hSelf⟩
    · obtain ⟨before, u, after, below, name, rfl, hBefore, hBelow⟩ := ih hStill hRest
      refine ⟨t :: before, u, after, below, name, rfl, ?_, hBelow⟩
      rw [follow_cons_of_ok hStep, hBefore]
    · obtain ⟨rfl, hRemarks⟩ := follow_after_root rfl rfl hRest
      obtain rfl : t.start = close := by simpa [closedAt] using hRoot
      exact ⟨[], t, ts, o, name, rfl, rfl, hNone, hUnclosed, hMarkup, rfl, hRemarks, rfl⟩
    · obtain ⟨rfl, -⟩ := follow_after_root hClosed (by simp [hSelf]) hRest
      simp [hSelf] at hRoot

end Outline

/-- An end tag reads the same wherever the text begins. -/
theorem endTag_of_scan {name tail : List Char} {offset stop : Nat} {us : List Token}
    (h : Scans offset tail (⟨offset, stop, .closing name⟩ :: us))
    (hRemarks : ∀ u ∈ us, u.markup = .remark) : EndTag name tail := by
  -- read from zero on, since markups only move forward
  obtain ⟨zs, hZero, hMoved⟩ := h.from_zero
  obtain ⟨t, vs, rfl, hFirst, hRest⟩ := List.map_eq_cons_iff.1 hMoved.symm
  obtain ⟨hStart, -, hMarkup⟩ := Token.mk.inj hFirst
  intro distance
  have hThere := hZero.moved distance
  rw [Nat.zero_add, List.map_cons] at hThere
  refine ⟨t.stop + distance, vs.map (·.moved distance), ?_, ?_⟩
  · have hHere : t.moved distance = ⟨distance, t.stop + distance, .closing name⟩ := by
      rw [Token.moved, ← hMarkup]
      congr 1
      omega
    rwa [hHere] at hThere
  · intro u hu
    obtain ⟨v, hv, rfl⟩ := List.mem_map.1 hu
    have hSame : v.moved offset ∈ us := by
      rw [← hRest]
      exact List.mem_map_of_mem hv
    exact hRemarks (v.moved offset) hSame

/-- A text in parts: at most one byte order mark, what stands before the blanks that indent the
end tag of the root, these blanks, and the end tag with all that follows. Of the first part it
tells the outline. -/
structure RootEnd (mark before blanks closing : List Char) (o : Outline) : Prop where
  marked : Marked mark (before ++ blanks ++ closing)
  unblank : ∀ c ∈ before.getLast?, Document.isIndent c = false
  blank : ∀ c ∈ blanks, Document.isIndent c = true
  below : ∃ ts, Scans (byteLength mark) before ts ∧ ({} : Outline).follow ts = .ok o
  rootUnknown : o.root = none
  closes : ∃ name, o.unclosed = [name] ∧ EndTag name closing

namespace RootEnd

variable {mark before blanks closing : List Char} {o : Outline}

/-- The root begins before its end tag. -/
theorem before_ne_nil (h : RootEnd mark before blanks closing o) : before ≠ [] := by
  rintro rfl
  obtain ⟨ts, hScan, hFollow⟩ := h.below
  obtain ⟨name, hUnclosed, -⟩ := h.closes
  -- without a text there is no markup, and nothing is unclosed
  have hNone : ts = [] := by
    have hEmpty := Scans.nil (byteLength mark)
    rw [Scans] at hScan hEmpty
    exact congrArg Scan.tokens (hScan.symm.trans hEmpty)
  subst hNone
  obtain rfl := Except.ok.inj hFollow
  simp at hUnclosed

/-- The byte order mark does not matter for what stands right before the blanks. -/
theorem unblank_mark (h : RootEnd mark before blanks closing o) :
    ∀ c ∈ (mark ++ before).getLast?, Document.isIndent c = false := by
  intro c hc
  obtain ⟨x, hx⟩ := Option.ne_none_iff_exists'.1 (mt List.getLast?_eq_none_iff.1 h.before_ne_nil)
  rw [List.getLast?_append, hx] at hc
  exact h.unblank c (by rw [hx]; exact hc)

/-- **A document with an end tag is a text cut at that tag.** -/
theorem of_parse {text : String} {body : List Char} {d : Document} {close : Nat}
    (hText : text.toList = mark ++ body) (hMarked : Marked mark body)
    (hParse : Document.parse text = .ok d) (hRoot : d.root = .tagged close) :
    ∃ before blanks closing o, body = before ++ blanks ++ closing ∧
      byteLength (mark ++ (before ++ blanks)) = close ∧
      RootEnd mark before blanks closing o ∧ o.items = d.items := by
  obtain ⟨ts, last, hScan, hFollow, hClosed, hLast, hItems, -⟩ :=
    Document.follow_of_parse hText hMarked hParse
  rw [hRoot] at hLast
  obtain ⟨us, t, after, below, name, rfl, hBelow, hUnknown, hUnclosed, hMarkup, hStart, hRemarks,
    rfl⟩ := Outline.follow_root rfl hFollow hLast
  obtain ⟨head, tail, rfl, hHead, hCut, hTail⟩ := hScan.split
  -- what stands before the end tag is cut at the blanks that indent the tag
  have hJoined := dropTrailing_append_takeTrailing Document.isIndent head
  have hBefore : Scans (byteLength mark) (dropTrailing Document.isIndent head) us := by
    refine Scans.of_append (b := takeTrailing Document.isIndent head) ?_ (by rwa [hJoined])
    intro c hc
    exact isText_of_isIndent (takeTrailing_all head c hc)
  have hEnd : EndTag name ('<' :: tail) := by
    obtain ⟨start, stop, markup⟩ := t
    obtain rfl : markup = .closing name := hMarkup
    exact endTag_of_scan hTail hRemarks
  refine ⟨_, _, '<' :: tail, below, by rw [hJoined], ?_, ?_, hItems⟩
  · rw [hJoined, ← hStart, hCut, byteLength_append]
  · exact {
      marked := by rwa [hJoined]
      unblank := dropTrailing_getLast? head
      blank := takeTrailing_all head
      below := ⟨us, hBefore, hBelow⟩
      rootUnknown := hUnknown
      closes := ⟨name, hUnclosed, hEnd⟩ }

/-- The part before the end tag shows the indentation. -/
theorem exists_indent (h : RootEnd mark before blanks closing o) :
    ∃ indent, o.Indents (mark ++ before) indent := by
  obtain ⟨ts, hScan, hFollow⟩ := h.below
  exact Document.exists_indent hScan hFollow

/-- **A text cut at the end tag of its root is a document**, and all that the document says is
known from the outline of the first part. -/
theorem parse_eq {text : String} (h : RootEnd mark before blanks closing o)
    (hText : text.toList = mark ++ (before ++ blanks ++ closing)) {indent : String}
    (hIndent : o.Indents (mark ++ before) indent) :
    Document.parse text =
      .ok ⟨text, o.items, .tagged (byteLength (mark ++ (before ++ blanks))),
        Document.lineEndingOf text.toList, indent, []⟩ := by
  obtain ⟨ts, hScan, hFollow⟩ := h.below
  obtain ⟨name, hUnclosed, hEnd⟩ := h.closes
  obtain ⟨stop, us, hTail, hRemarks⟩ := hEnd (byteLength mark + byteLength (before ++ blanks))
  -- the three parts are read one after another: no markup begins in the blanks
  have hBlank : Scans (byteLength mark + byteLength before) blanks [] :=
    Scans.text fun hIn => (isText_of_isIndent (h.blank _ hIn)).1 rfl
  have hWhole := (hScan.append hBlank).append hTail
  have hClosing : o.step ⟨byteLength mark + byteLength (before ++ blanks), stop, .closing name⟩ =
      .ok (o.closedAt (byteLength (mark ++ (before ++ blanks)))) := by
    simp [Outline.step, Outline.closedAt, hUnclosed, h.rootUnknown]
  have hOutline := Outline.follow_append_of_ok hFollow
    (⟨byteLength mark + byteLength (before ++ blanks), stop, .closing name⟩ :: us)
  rw [Outline.follow_cons_of_ok hClosing, Outline.follow_remarks _ hRemarks] at hOutline
  rw [List.append_nil] at hWhole
  -- the end tag is no child, so the first child stands in the first part
  have hShown : (o.closedAt (byteLength (mark ++ (before ++ blanks)))).Indents
      (mark ++ (before ++ blanks ++ closing)) indent := by
    have hMore := hIndent.append (blanks ++ closing)
    rwa [List.append_assoc, ← List.append_assoc before] at hMore
  rw [Document.parse_of_follow hText h.marked hWhole hOutline rfl rfl hShown, hText]
  rfl

/-- **A text cut at the end tag of its root is a document**, and says where it was cut. -/
theorem parse {text : String} (h : RootEnd mark before blanks closing o)
    (hText : text.toList = mark ++ (before ++ blanks ++ closing)) :
    ∃ d, Document.parse text = .ok d ∧ d.items = o.items ∧
      d.root = .tagged (byteLength (mark ++ (before ++ blanks))) ∧
      ∀ c ∈ d.indent.toList, Document.isIndent c = true := by
  obtain ⟨indent, hIndent⟩ := h.exists_indent
  exact ⟨_, h.parse_eq hText hIndent, by simp [Document.items], rfl, hIndent.isIndent⟩

/-- **A content can be put in before the end tag** if it does not end in a blank that could indent
the tag. Its items come behind all others. -/
theorem insert (h : RootEnd mark before blanks closing o) (c : Content)
    (hEnds : ∀ x ∈ c.written.getLast?, Document.isIndent x = false) :
    RootEnd mark (before ++ c.written) blanks closing
      (o.withContent (itemsOf c) (c.firstElement (byteLength mark + byteLength before))) := by
  obtain ⟨ts, hScan, hFollow⟩ := h.below
  obtain ⟨name, hUnclosed, hEnd⟩ := h.closes
  have hOpen : o.unclosed ≠ [] := by simp [hUnclosed]
  -- the content is read right where the text below the root was read up to
  have hInside := scans_content (byteLength mark + byteLength before) c
  have hContent := Outline.follow_content hOpen (byteLength mark + byteLength before) c
  refine {
    marked := ⟨h.marked.mark_eq, ?_⟩
    unblank := ?_
    blank := h.blank
    below := ⟨_, hScan.append hInside, ?_⟩
    rootUnknown := ?_
    closes := ⟨name, ?_, hEnd⟩ }
  · -- a text begins as before
    have hHead := h.marked.body_head
    obtain ⟨x, xs, rfl⟩ := List.exists_cons_of_ne_nil h.before_ne_nil
    simpa using hHead
  · intro x hx
    rw [List.getLast?_append] at hx
    cases hLast : c.written.getLast? with
    | none =>
      rw [hLast] at hx
      exact h.unblank x hx
    | some y =>
      rw [hLast] at hx
      exact hEnds x (by rw [hLast]; exact hx)
  · rw [Outline.follow_append_of_ok hFollow, hContent]
  · exact h.rootUnknown
  · exact hUnclosed

end RootEnd

end ScriptWindows.Manifest
