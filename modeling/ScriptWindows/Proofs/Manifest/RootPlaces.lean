import ScriptWindows.Proofs.Manifest.SingleRoots

/-!
# Where a document says its root is

A document keeps byte offsets of its root: where the end tag begins, or where the tag of a root that
closes itself begins and ends. They were counted by a reader that sees the text without its byte
order mark, and skips a second mark without counting it. Everything that is written later trusts
them.

Main results:

* `EndTag.begins`: an end tag is one by its characters too.
* `stands_of_parse`: behind at most one byte order mark the offsets are right.
* `not_stands_of_marks`: behind two marks they never are.
* `root_places`: so for every text that is read, and what is written stands inside of the root
  exactly if the root has an end tag or its tag opens cleanly.
-/

namespace ScriptWindows.Manifest

open Text Xml

/-! ## Roots that stand where the document says -/

/-- A text whose root closes itself, with the tag of the root where the document says. -/
structure SingleStands (d : Document) (before content after : List Char) : Prop where
  text_eq : d.text.toList = before ++ '<' :: (content ++ '/' :: '>' :: after)
  root_eq : d.root = .selfClosing (byteLength before)
    (byteLength (before ++ '<' :: (content ++ ['/', '>']))) (String.ofList (nameOf content))
  remarksBefore : Remarks before
  tag : SingleTag content after
  remarksAfter : Remarks after

/-- The offsets of the root are right: its end tag begins there, or its own tag stands there. -/
def Document.Stands (d : Document) : Prop :=
  (∃ name head tail, RootStands d name head tail) ∨
    ∃ before content after, SingleStands d before content after

/-- The end tag of a root begins with a bracket and a slash. -/
theorem EndTag.begins {name tail : List Char} (h : EndTag name tail) :
    ∃ rest, tail = '<' :: '/' :: rest := by
  obtain ⟨stop, us, hScan, -⟩ := h 0
  cases tail with
  | nil => exact absurd (hScan.unique (Scans.nil 0)) (by simp)
  | cons c cs =>
    by_cases hBracket : c = '<'
    · subst hBracket
      obtain ⟨r, vs, hRead, hTokens, -⟩ := hScan.read
      obtain ⟨-, -, hMarkup⟩ := Token.mk.inj (List.cons.inj hTokens).1
      obtain ⟨rest, rfl⟩ := slash_of_readMarkup hRead hMarkup.symm
      exact ⟨rest, rfl⟩
    · -- a markup that begins later does not begin at zero
      have hPositive := c.utf8Size_pos
      rw [Scans, scan_of_ne 0 cs hBracket] at hScan
      have hLater := scan_offsets_ge (0 + c.utf8Size) cs ⟨0, stop, .closing name⟩ (by
        rw [hScan]
        exact List.mem_cons_self ..)
      simp only at hLater
      omega

/-- The offset of an end tag is where its bracket and its slash are. -/
theorem Document.Stands.at_endTag {d : Document} (h : d.Stands) {close : Nat}
    (hRoot : d.root = .tagged close) : ∃ head rest,
      d.text.toList = head ++ '<' :: '/' :: rest ∧ byteLength head = close := by
  rcases h with ⟨name, head, tail, hTagged⟩ | ⟨before, content, after, hSingle⟩
  · obtain ⟨rest, rfl⟩ := hTagged.closed.begins
    refine ⟨head, rest, hTagged.text_eq, ?_⟩
    exact RootElement.tagged.inj (hTagged.root_eq.symm.trans hRoot)
  · rw [hSingle.root_eq] at hRoot
    contradiction

/-- The offset at which the end tag of a root begins, or the root when it has none. -/
def RootElement.place : RootElement → Nat
  | .tagged close => close
  | .selfClosing start _ _ => start

/-- A text has one tag of a root at one place. -/
theorem SingleStands.unique {d : Document} {before content after before' content' after' : List Char}
    (h : SingleStands d before content after) (hOther : SingleStands d before' content' after') :
    before = before' ∧ content = content' ∧ after = after' := by
  obtain ⟨hStart, hStop, -⟩ := RootElement.selfClosing.inj (h.root_eq.symm.trans hOther.root_eq)
  obtain ⟨rfl, hRest⟩ := cut_unique (h.text_eq.symm.trans hOther.text_eq) hStart
  -- both tags end at the same offset
  have hTags : ('<' :: (content ++ ['/', '>'])) ++ after =
      ('<' :: (content' ++ ['/', '>'])) ++ after' := by simpa using hRest
  have hLength : byteLength ('<' :: (content ++ ['/', '>'])) =
      byteLength ('<' :: (content' ++ ['/', '>'])) := by
    simp only [byteLength_append] at hStop
    omega
  obtain ⟨hTag, rfl⟩ := cut_unique hTags hLength
  exact ⟨rfl, List.append_cancel_right (List.cons.inj hTag).2, rfl⟩

theorem SingleDocument.stands {d : Document} {mark before content after : List Char}
    (h : SingleDocument d mark before content after) :
    SingleStands d (mark ++ before) content after where
  text_eq := by rw [h.text_eq, List.append_assoc]
  root_eq := by rw [h.root_eq, List.append_assoc]
  remarksBefore := by
    obtain ⟨ts, hScan, hRemarks⟩ := h.remarksBefore (0 + byteLength mark)
    exact remarks_of_scan ((scans_mark h.marked 0).append hScan) hRemarks
  tag := h.tag
  remarksAfter := h.remarksAfter

/-! ## Behind at most one mark -/

section
variable {text : String} {mark body : List Char}

/-- No cut inside of a character is tried. -/
theorem parse_ne_cut (hText : text.toList = mark ++ body) (hMarked : Marked mark body)
    (e : NoBoundary) : Document.parse text ≠ .error (.cut e) := by
  rw [Document.parse, hText]
  simp only [Document.bodyOf_marked hMarked]
  split
  · simp
  · rename_i o hOutline
    split
    · simp
    · obtain ⟨ts, hScan, hFollow, -⟩ := follow_of_outline hOutline
      obtain ⟨indent, hIndent⟩ := Document.exists_indent hScan hFollow
      rw [Outline.Indents] at hIndent
      rw [hIndent]
      simp

/-- **Behind at most one byte order mark the offsets are right.** -/
theorem stands_of_parse {d : Document} (hText : text.toList = mark ++ body)
    (hMarked : Marked mark body) (hParse : Document.parse text = .ok d) : d.Stands := by
  cases hRoot : d.root with
  | tagged close =>
    obtain ⟨before, blanks, closing, o, rfl, -, hEnd, -⟩ :=
      RootEnd.of_parse hText hMarked hParse hRoot
    obtain ⟨name, hName, -⟩ := hEnd.closes
    obtain ⟨d', hAgain, -, hStands⟩ := hEnd.stands hName hText
    obtain rfl : d = d' := Except.ok.inj (hParse.symm.trans hAgain)
    exact .inl ⟨_, _, _, hStands⟩
  | selfClosing start stop name =>
    obtain ⟨-, rfl⟩ := Document.appended_parse hParse
    obtain ⟨before, content, after, h⟩ := SingleDocument.of_parse hText hMarked hParse hRoot
    exact .inr ⟨_, _, _, h.stands⟩

end

/-! ## Behind two marks -/

/-- The last markup that is no remark is the same in whatever way a list is cut at it. -/
theorem last_tag_unique {ts us vs ws : List Token} {t u : Token} (h : ts ++ t :: us = vs ++ u :: ws)
    (ht : t.markup ≠ .remark) (hu : u.markup ≠ .remark) (hus : ∀ x ∈ us, x.markup = .remark)
    (hws : ∀ x ∈ ws, x.markup = .remark) : t = u := by
  have hLast : ∀ (xs : List Token) {ys : List Token} {x : Token}, x.markup ≠ .remark →
      (∀ y ∈ ys, y.markup = .remark) →
      ((xs ++ x :: ys).filter (·.markup ≠ .remark)).getLast? = some x := by
    intro xs ys x hx hys
    have hNone : ys.filter (·.markup ≠ .remark) = [] := by
      rw [List.filter_eq_nil_iff]
      intro y hy
      simp [hys y hy]
    rw [List.filter_append, List.filter_cons_of_pos (by simpa using hx), hNone,
      List.getLast?_concat]
  have hSame := (hLast ts ht hus).symm
  rw [h, hLast vs hu hws] at hSame
  exact Option.some.inj hSame

/-- Where a root stands, its tag is the last one of the text. -/
theorem Document.Stands.last_tag {d : Document} (h : d.Stands) :
    ∃ ts t us, Scans 0 d.text.toList (ts ++ t :: us) ∧ t.markup ≠ .remark ∧
      (∀ u ∈ us, u.markup = .remark) ∧ t.start = d.root.place := by
  rcases h with ⟨name, head, tail, h⟩ | ⟨before, content, after, h⟩
  · obtain ⟨ts, o, hScan, -⟩ := h.opened
    obtain ⟨stop, us, hTail, hRemarks⟩ := h.closed (0 + byteLength head)
    refine ⟨ts, _, us, by rw [h.text_eq]; exact hScan.append hTail, by simp, hRemarks, ?_⟩
    rw [h.root_eq, Nat.zero_add]
    rfl
  · obtain ⟨ts, hBefore, -⟩ := h.remarksBefore 0
    have hRead : ∀ rest, readMarkup ((content ++ ['/', '>']) ++ rest) =
        .ok ⟨.empty content, content ++ ['/', '>'], rest⟩ :=
      fun rest => by simpa using (h.tag.continued rest).readMarkup
    have hTag := scans_markup (0 + byteLength before) hRead
    obtain ⟨us, hAfter, hRemarks⟩ :=
      h.remarksAfter (0 + byteLength (before ++ '<' :: (content ++ ['/', '>'])))
    have hWhole := (hBefore.append hTag).append hAfter
    have hText : before ++ '<' :: (content ++ ['/', '>']) ++ after = d.text.toList := by
      rw [h.text_eq]
      simp
    rw [hText, List.append_assoc, List.singleton_append] at hWhole
    refine ⟨ts, _, us, hWhole, by simp, hRemarks, ?_⟩
    rw [h.root_eq, Nat.zero_add]
    rfl

/-- The tag at the place of a root that was read is the last one of the body. -/
theorem last_tag_of_parse {text : String} {d : Document} (hParse : Document.parse text = .ok d) :
    ∃ ts t us, Scans (Document.bodyOf text.toList).1 (Document.bodyOf text.toList).2
        (ts ++ t :: us) ∧ t.markup ≠ .remark ∧ (∀ u ∈ us, u.markup = .remark) ∧
      t.start = d.root.place := by
  obtain ⟨ts, last, hScan, hFollow, -, hRoot, -⟩ := Document.follow_of_body hParse
  cases hKind : d.root with
  | tagged close =>
    rw [hKind] at hRoot
    obtain ⟨us, t, after, below, name, rfl, -, -, -, hMarkup, hStart, hRemarks, -⟩ :=
      Outline.follow_root rfl hFollow hRoot
    exact ⟨us, t, after, hScan, by simp [hMarkup], hRemarks, hStart⟩
  | selfClosing start stop name =>
    rw [hKind] at hRoot
    obtain ⟨us, content, after, rfl, -, hRemarks, -, -⟩ := Outline.follow_single hFollow hRoot
    exact ⟨us, _, after, hScan, by simp, hRemarks, rfl⟩

/-- **Behind two byte order marks the offsets are never right**: they are too small by the length
of a mark. -/
theorem not_stands_of_marks {text : String} {d : Document}
    (hMarks : [byteOrderMark, byteOrderMark] <+: text.toList)
    (hParse : Document.parse text = .ok d) : ¬ d.Stands := by
  intro hStands
  obtain ⟨others, hText⟩ := hMarks
  obtain ⟨ts, t, us, hBody, ht, hus, hPlace⟩ := last_tag_of_parse hParse
  obtain ⟨vs, u, ws, hWhole, hu, hws, hThere⟩ := hStands.last_tag
  rw [(Document.appended_parse hParse).2] at hWhole
  rw [← hText] at hBody hWhole
  -- in the text the markups stand so many bytes further on than the body was read from
  have hMark : Scans 0 [byteOrderMark, byteOrderMark] [] := Scans.text (by decide)
  have hMoved := hMark.append (hBody.moved 3)
  have hSame := hMoved.unique hWhole
  rw [List.nil_append, List.map_append, List.map_cons] at hSame
  have hToken : t.moved 3 = u := by
    refine last_tag_unique hSame ht hu ?_ hws
    intro x hx
    obtain ⟨y, hy, rfl⟩ := List.mem_map.1 hx
    exact hus y hy
  have hStart : t.start + 3 = u.start := congrArg Token.start hToken
  omega

/-! ## Writing -/

/-- Where appended items are put in: in front of the blanks before the end tag of the root, or
between what is left of the tag of a root that closes itself and an end tag of its name. -/
inductive SplicePlace (d : Document) : (name head gap tail : List Char) → Prop
  | tagged {name head gap tail : List Char} (text_eq : d.text.toList = head ++ (gap ++ tail))
    (root_eq : d.root = .tagged (byteLength (head ++ gap)))
    (blank : ∀ c ∈ gap, Document.isIndent c = true) : SplicePlace d name head gap tail
  | single {before content after : List Char} (stands : SingleStands d before content after) :
    SplicePlace d (nameOf content) (SingleRoot.opened before content) []
      (SingleRoot.closed content after)

/-- Appended items are written inside of the root: it is the only element that is open there, and
what follows is its end tag. -/
def Document.WritesInside (d : Document) : Prop :=
  ∃ name head gap tail, SplicePlace d name head gap tail ∧ RootOpen name head ∧ EndTag name tail ∧
    ∀ items ≠ [], ∃ newLine, '<' ∉ newLine ∧ (items.foldl Document.append d).render =
      .ok (String.ofList (head ++ (newLine ++
        items.flatMap (Document.groupText d.indent.toList d.lineEnding.text)) ++ gap ++ tail))

/-- A root with an end tag is written inside of. -/
theorem writesInside_of_tagged {text : String} {mark body : List Char} {d : Document} {close : Nat}
    (hText : text.toList = mark ++ body) (hMarked : Marked mark body)
    (hParse : Document.parse text = .ok d) (hRoot : d.root = .tagged close) : d.WritesInside := by
  obtain ⟨hNone, hSame⟩ := Document.appended_parse hParse
  obtain ⟨before, blanks, closing, o, rfl, hClose, hEnd, -⟩ :=
    RootEnd.of_parse hText hMarked hParse hRoot
  obtain ⟨name, hName, hTag⟩ := hEnd.closes
  obtain ⟨ts, hScan, hFollow⟩ := hEnd.below
  rw [← hClose] at hRoot
  refine ⟨name, mark ++ before, blanks, closing, .tagged ?_ ?_ hEnd.blank, ?_, hTag, ?_⟩
  · rw [hSame, hText]
    simp
  · rw [hRoot, List.append_assoc]
  · exact ⟨ts, o, (scans_mark hMarked 0).append (by rwa [Nat.zero_add]), hFollow,
      hEnd.rootUnknown, hName⟩
  · intro items hSome
    refine ⟨_, newLineAfter_plain d.lineEnding (mark ++ before), ?_⟩
    rw [Document.foldl_append, hEnd.render_block hText hSame hRoot hNone hSome]
    simp [blockAfter]

/-- A root that closes itself is written inside of exactly if its tag opens cleanly. -/
theorem SingleDocument.writesInside_iff {d : Document} {mark before content after : List Char}
    (h : SingleDocument d mark before content after) :
    d.WritesInside ↔ OpensCleanly content := by
  constructor
  · rintro ⟨name, head, gap, tail, hPlace, hOpen, hEnd, -⟩
    cases hPlace with
    | tagged hText hRoot hBlank =>
      have hSelf := h.root_eq
      rw [hRoot] at hSelf
      contradiction
    | single hStands =>
      -- the tag is the one that was read
      obtain ⟨rfl, rfl, rfl⟩ := hStands.unique h.stands
      refine h.opensCleanly_of_open ?_ hEnd
      simpa [SingleRoot.opened] using hOpen
  · intro hOpens
    obtain ⟨ts, hScan, hFollow⟩ := (h.rootEnd hOpens).below
    have hOpen : RootOpen (nameOf content) (mark ++ SingleRoot.opened before content) :=
      ⟨ts, _, (scans_mark h.marked 0).append (by rwa [Nat.zero_add]), hFollow, rfl, rfl⟩
    refine ⟨_, _, _, _, .single h.stands, ?_, h.endTag_iff.2 hOpens.quotes, ?_⟩
    · simpa [SingleRoot.opened] using hOpen
    · intro items hSome
      refine ⟨d.lineEnding.text, lineEnding_plain d.lineEnding, ?_⟩
      rw [Document.foldl_append, h.render_append hSome]
      simp [SingleRoot.opened, Document.groups]

/-- Something is written whatever is appended. -/
theorem exists_render {text : String} {mark body : List Char} {d : Document}
    (hText : text.toList = mark ++ body) (hMarked : Marked mark body)
    (hParse : Document.parse text = .ok d) (items : List ItemReference) :
    ∃ written, (d.appendAll items).render = .ok written := by
  cases hRoot : d.root with
  | tagged close =>
    obtain ⟨before, blanks, closing, o, rfl, -, hEnd, -⟩ :=
      RootEnd.of_parse hText hMarked hParse hRoot
    obtain ⟨block, o', hRender, -⟩ := hEnd.render_append hText hParse items
    exact ⟨_, hRender⟩
  | selfClosing start stop name =>
    obtain ⟨before, content, after, h⟩ := SingleDocument.of_parse hText hMarked hParse hRoot
    by_cases hSome : items = []
    · rw [hSome, Document.appendAll_nil]
      exact ⟨_, Document.render_of_nothing_appended (Document.appended_parse hParse).1⟩
    · exact ⟨_, h.render_append hSome⟩

/-- **Where the root of a text is, and where a document says it is.** For every text that does not
begin with two byte order marks, no cut inside of a character is tried and the offsets are right; for
one that does, they are not, unless the text is refused. Where they are right the text at the offset
of an end tag begins with a bracket and a slash, something is written whatever is appended, and it
stands inside of the root exactly if the tag of a root that closes itself opens cleanly. -/
theorem root_places (text : String) :
    (((∀ e, Document.parse text ≠ .error (.cut e)) ∧
        ∀ d, Document.parse text = .ok d → d.Stands) ↔
      ¬ [byteOrderMark, byteOrderMark] <+: text.toList ∨
        ∃ e, Document.parse text = .error (.ill e)) ∧
    ∀ d, Document.parse text = .ok d → d.Stands →
      (∀ close, d.root = .tagged close → ∃ head rest,
        text.toList = head ++ '<' :: '/' :: rest ∧ byteLength head = close) ∧
      (∀ items : List ItemReference,
        ∃ written, (items.foldl Document.append d).render = .ok written) ∧
      (d.WritesInside ↔
        ∀ before content after, SingleStands d before content after → OpensCleanly content) := by
  constructor
  · constructor
    · rintro ⟨hUncut, hStands⟩
      by_cases hMarks : [byteOrderMark, byteOrderMark] <+: text.toList
      · -- of the three results of reading only a refusal is left
        cases hParse : Document.parse text with
        | ok d => exact absurd (hStands d hParse) (not_stands_of_marks hMarks hParse)
        | error e =>
          cases e with
          | cut at_ => exact absurd hParse (hUncut at_)
          | ill e => exact .inr ⟨e, rfl⟩
      · exact .inl hMarks
    · rintro (hMarks | ⟨e, hParse⟩)
      · obtain ⟨mark, body, hText, hMarked⟩ := exists_marked hMarks
        exact ⟨parse_ne_cut hText hMarked, fun d hParse => stands_of_parse hText hMarked hParse⟩
      · simp [hParse]
  · intro d hParse hStands
    have hMarks : ¬ [byteOrderMark, byteOrderMark] <+: text.toList := fun hMarks =>
      not_stands_of_marks hMarks hParse hStands
    obtain ⟨mark, body, hText, hMarked⟩ := exists_marked hMarks
    refine ⟨fun close hRoot => ?_, fun items => ?_, ?_⟩
    · have hPlace := hStands.at_endTag hRoot
      rwa [(Document.appended_parse hParse).2] at hPlace
    · rw [Document.foldl_append]
      exact exists_render hText hMarked hParse items
    · cases hRoot : d.root with
      | tagged close =>
        -- the text of a root with an end tag is no root that closes itself
        refine iff_of_true (writesInside_of_tagged hText hMarked hParse hRoot) ?_
        intro before content after hSingle
        have hSelf := hSingle.root_eq
        rw [hRoot] at hSelf
        contradiction
      | selfClosing start stop name =>
        obtain ⟨-, rfl⟩ := Document.appended_parse hParse
        obtain ⟨before, content, after, h⟩ := SingleDocument.of_parse hText hMarked hParse hRoot
        rw [h.writesInside_iff]
        -- there is one way only in which a root that closes itself stands in a text
        constructor
        · intro hOpens before' content' after' hSingle
          obtain ⟨-, rfl, -⟩ := hSingle.unique h.stands
          exact hOpens
        · exact fun hAll => hAll _ _ _ h.stands

/-- Behind two marks the reader may even try to cut a text inside of a character. -/
example : Document.parse "\ufeff\ufeff<aéx><b/></aéx>" = .error (.cut ⟨9⟩) := by cbv

/-- A root with an end tag behind two byte order marks: the end tag begins at byte 10. -/
def twiceMarked : Document where
  text := "\ufeff\ufeff<P>\n</P>"
  found := []
  root := .tagged 7
  lineEnding := .feed
  indent := "  "

/-- What is appended goes inside of the start tag. -/
theorem root_places_twiceMarked :
    Document.parse twiceMarked.text = .ok twiceMarked ∧
      splitAtByte 7 twiceMarked.text.toList =
        some (['\ufeff', '\ufeff', '<'], ['P', '>', '\n', '<', '/', 'P', '>']) ∧
      (twiceMarked.append ⟨.page, "G\\*.xaml"⟩).render = .ok
        ("\ufeff\ufeff<\n  <ItemGroup>\n    <Page Include=\"G\\*.xaml\" />\n  </ItemGroup>\n" ++
          "P>\n</P>") :=
  ⟨by cbv, by decide, by cbv⟩

end ScriptWindows.Manifest
