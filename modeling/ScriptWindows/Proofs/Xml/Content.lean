import ScriptWindows.Proofs.Xml.Tags

/-!
# Trees of elements as they are written

What stands between the tags of an element is written piece by piece: text, remarks, elements
that close themselves and elements with content of their own, to any depth. A document is one
such element with remarks and blanks around it.

`Content.tokens` tells which markups a written content has and where, without reading it.

Main results:

* `scans_content`: reading a written content finds exactly these markups.
* `scans_surroundings`: what stands around the outermost element has no tag.
-/

namespace ScriptWindows.Xml

open Text

/-! ## Pieces -/

/-- A piece that is not looked into: a comment, character data, or an instruction. None holds the
mark that ends it. -/
inductive Remark
  | comment (cs : List Char) (unended : ¬ ['-', '-', '>'] <:+: cs)
  | data (cs : List Char) (unended : ¬ [']', ']', '>'] <:+: cs)
  | instruction (cs : List Char) (started : cs.head? ≠ some '>') (unended : ¬ ['?', '>'] <:+: cs)

/-- A remark behind its `<`. -/
def Remark.body : Remark → List Char
  | .comment cs _ => ['!', '-', '-'] ++ cs ++ ['-', '-', '>']
  | .data cs _ => ['!', '[', 'C', 'D', 'A', 'T', 'A', '['] ++ cs ++ [']', ']', '>']
  | .instruction cs _ _ => '?' :: cs ++ ['?', '>']

def Remark.text (r : Remark) : List Char := '<' :: r.body

namespace Tag

/-- A tag that opens an element. -/
def openText (t : Tag) : List Char := '<' :: (t.inside ++ ['>'])

/-- A tag that is an element of its own. -/
def singleText (t : Tag) : List Char := '<' :: (t.inside ++ ['/', '>'])

/-- The tag that closes the element opened by this one. -/
def closeText (t : Tag) : List Char := '<' :: ('/' :: t.name.text ++ ['>'])

end Tag

/-- What stands between two tags, piece by piece. -/
inductive Content
  | nil
  | text (cs : List Char) (plain : '<' ∉ cs) (rest : Content)
  | remark (r : Remark) (rest : Content)
  | single (tag : Tag) (rest : Content)
  | element (tag : Tag) (inside rest : Content)

namespace Content

/-- A content as it is written. -/
def written : Content → List Char
  | nil => []
  | text cs _ rest => cs ++ rest.written
  | remark r rest => r.text ++ rest.written
  | single tag rest => tag.singleText ++ rest.written
  | element tag inside rest => tag.openText ++ inside.written ++ tag.closeText ++ rest.written

/-- The markups of a content that is written from an offset on. -/
def tokens (offset : Nat) : Content → List Token
  | nil => []
  | text cs _ rest => rest.tokens (offset + byteLength cs)
  | remark r rest =>
    ⟨offset, offset + byteLength r.text, .remark⟩ :: rest.tokens (offset + byteLength r.text)
  | single tag rest =>
    ⟨offset, offset + byteLength tag.singleText, .empty tag.inside⟩ ::
      rest.tokens (offset + byteLength tag.singleText)
  | element tag inside rest =>
    let opened := offset + byteLength tag.openText
    let closing := opened + byteLength inside.written
    let closed := closing + byteLength tag.closeText
    ⟨offset, opened, .opening tag.inside⟩ :: inside.tokens opened ++
      ⟨closing, closed, .closing tag.name.text⟩ :: rest.tokens closed

/-- Where the first element of a content begins. -/
def firstElement (offset : Nat) : Content → Option Nat
  | nil => none
  | text cs _ rest => rest.firstElement (offset + byteLength cs)
  | remark r rest => rest.firstElement (offset + byteLength r.text)
  | single .. | element .. => some offset

/-- One content behind another. -/
def append : Content → Content → Content
  | nil, last => last
  | text cs plain rest, last => text cs plain (rest.append last)
  | remark r rest, last => remark r (rest.append last)
  | single tag rest, last => single tag (rest.append last)
  | element tag inside rest, last => element tag inside (rest.append last)

theorem written_append (first last : Content) :
    (first.append last).written = first.written ++ last.written := by
  induction first with
  | nil => rfl
  | text cs plain rest ih => simp [append, written, ih]
  | remark r rest ih => simp [append, written, ih]
  | single tag rest ih => simp [append, written, ih]
  | element tag inside rest _ ih => simp [append, written, ih]

end Content

/-! ## Scanning pieces -/

/-- A markup that is read whatever follows it is the only one of its text. -/
theorem scans_markup (offset : Nat) {body : List Char} {m : Markup}
    (h : ∀ rest, readMarkup (body ++ rest) = .ok ⟨m, body, rest⟩) :
    Scans offset ('<' :: body) [⟨offset, offset + byteLength ('<' :: body), m⟩] := by
  have hAlone := Scans.markup (r := ⟨m, body, []⟩) (h [])
    (Scans.nil (offset + 1 + byteLength body))
  have hSize : offset + 1 + byteLength body = offset + byteLength ('<' :: body) := by
    rw [byteLength_cons, ← Nat.add_assoc]
    rfl
  simpa [hSize] using hAlone

theorem scans_remark (offset : Nat) (r : Remark) :
    Scans offset r.text [⟨offset, offset + byteLength r.text, .remark⟩] := by
  refine scans_markup offset fun rest => ?_
  cases r with
  | comment cs unended =>
    have hCut := cutAt_of_not_infix (m := ['-', '-']) (e := '>') (by decide) unended rest
    simpa [Remark.body] using readMarkup_comment hCut
  | data cs unended =>
    have hCut := cutAt_of_not_infix (m := [']', ']']) (e := '>') (by decide) unended rest
    simpa [Remark.body] using readMarkup_data hCut
  | instruction cs started unended =>
    have hCut := cutAt_of_not_infix (m := ['?']) (e := '>') (by decide) unended rest
    -- what follows `<?` must not be the end of a tag
    have hStarted : (cs ++ (['?'] ++ ['>']) ++ rest).head? ≠ some '>' := by
      cases cs with
      | nil => simp
      | cons c cs => simpa using started
    simpa [Remark.body] using readMarkup_instruction hStarted hCut

theorem scans_openText (offset : Nat) (t : Tag) :
    Scans offset t.openText [⟨offset, offset + byteLength t.openText, .opening t.inside⟩] :=
  scans_markup offset fun rest => by simpa using readMarkup_open t rest

theorem scans_singleText (offset : Nat) (t : Tag) :
    Scans offset t.singleText [⟨offset, offset + byteLength t.singleText, .empty t.inside⟩] :=
  scans_markup offset fun rest => by simpa using readMarkup_single t rest

theorem scans_closeText (offset : Nat) (t : Tag) :
    Scans offset t.closeText [⟨offset, offset + byteLength t.closeText, .closing t.name.text⟩] :=
  scans_markup offset fun rest => by simpa using readMarkup_close t.name rest

/-- **Reading a written content finds exactly its markups.** -/
theorem scans_content (offset : Nat) (c : Content) : Scans offset c.written (c.tokens offset) := by
  -- one case for each kind of piece; the offset moves on with what is written
  induction c generalizing offset with
  | nil => exact Scans.nil offset
  | text cs plain rest ih => exact (Scans.text plain).append (ih _)
  | remark r rest ih => exact (scans_remark offset r).append (ih _)
  | single tag rest ih => exact (scans_singleText offset tag).append (ih _)
  | element tag inside rest ihInside ihRest =>
    have hOpen := (scans_openText offset tag).append (ihInside _)
    have hClose := (scans_closeText (offset + byteLength (tag.openText ++ inside.written))
      tag).append (ihRest _)
    have hWhole := hOpen.append hClose
    simp only [byteLength_append, ← Nat.add_assoc] at hWhole
    simpa [Content.written, Content.tokens] using hWhole

/-! ## Documents -/

/-- What can stand around the outermost element. -/
inductive Surrounding
  | blank (cs : List Char) (blank : ∀ c ∈ cs, isSpace c = true)
  | remark (r : Remark)

def Surrounding.text : Surrounding → List Char
  | .blank cs _ => cs
  | .remark r => r.text

/-- A document: an outermost element with or without content of its own, what stands around it,
and whether a byte order mark comes first. -/
structure Tree where
  marked : Bool := false
  before : List Surrounding := []
  tag : Tag
  inside : Option Content
  after : List Surrounding := []

namespace Tree

def mark (t : Tree) : List Char := if t.marked then [byteOrderMark] else []

/-- The outermost element as it is written. -/
def element (t : Tree) : List Char :=
  match t.inside with
  | none => t.tag.singleText
  | some c => t.tag.openText ++ c.written ++ t.tag.closeText

/-- A document as it is written, behind its byte order mark. -/
def body (t : Tree) : List Char :=
  t.before.flatMap (·.text) ++ t.element ++ t.after.flatMap (·.text)

def text (t : Tree) : List Char := t.mark ++ t.body

end Tree

/-- **What stands around the outermost element has no tag.** -/
theorem scans_surroundings (offset : Nat) (ss : List Surrounding) :
    ∃ ts, Scans offset (ss.flatMap (·.text)) ts ∧ ∀ t ∈ ts, t.markup = .remark := by
  induction ss generalizing offset with
  | nil => exact ⟨[], Scans.nil offset, by simp⟩
  | cons s ss ih =>
    obtain ⟨ts, hRest, hRemarks⟩ := ih (offset + byteLength s.text)
    rw [List.flatMap_cons]
    cases s with
    | blank cs blank =>
      -- a blank begins no markup
      have hPlain : '<' ∉ cs := fun hIn => by simpa [isSpace] using blank '<' hIn
      exact ⟨[] ++ ts, (Scans.text hPlain).append hRest, hRemarks⟩
    | remark r =>
      refine ⟨_ :: ts, (scans_remark offset r).append hRest, ?_⟩
      intro t ht
      rcases List.mem_cons.1 ht with rfl | ht
      · rfl
      · exact hRemarks t ht

end ScriptWindows.Xml
