import ScriptWindows.Manifest.Document
import ScriptWindows.Proofs.Xml.Content

/-!
# Outlines of texts

Reading a manifest is two walks: one finds the markups of its text, the other goes past them and
notes items, the root and the first child. This module ties both together. A text behind at most
one byte order mark is a document exactly if its markups can be gone past to an outline that is
closed and has a root, and everything the document tells comes from that outline.

Main results:

* `follow_content`: going past a written content below the root adds its items in order, whatever
  was noted before.
* `parse_of_follow`, `follow_of_body`: a document is read exactly from a closed outline.
-/

namespace ScriptWindows.Manifest

open Text Xml

/-! ## Items of a tree -/

/-- The item that an element is, by its local name and by the first of its attributes that has
the local name of a pattern. -/
def ItemReference.ofElement? (t : Tag) : Option ItemReference :=
  (ItemKind.all.find? (·.elementName.toList == t.name.own)).bind fun kind =>
    (t.attributes.find? (·.name.own == "Include".toList)).map fun a =>
      ⟨kind, String.ofList a.value⟩

/-- The items among the elements of a content, an element before those inside of it. -/
def itemsOf : Content → List ItemReference
  | .nil => []
  | .text _ _ rest | .remark _ rest => itemsOf rest
  | .single tag rest => (ItemReference.ofElement? tag).toList ++ itemsOf rest
  | .element tag inside rest =>
    (ItemReference.ofElement? tag).toList ++ itemsOf inside ++ itemsOf rest

/-- The items of contents are told part by part. -/
theorem itemsOf_append (first last : Content) :
    itemsOf (first.append last) = itemsOf first ++ itemsOf last := by
  induction first with
  | nil => rfl
  | text cs plain rest ih => exact ih
  | remark r rest ih => exact ih
  | single tag rest ih => simp [Content.append, itemsOf, ih]
  | element tag inside rest _ ih => simp [Content.append, itemsOf, ih]

/-- The kind of an item is found by the name of its element. -/
theorem ofElementName?_eq_find? (name : List Char) :
    ItemKind.ofElementName? name = ItemKind.all.find? (·.elementName.toList == name) := by
  -- the source compares with both names in turn
  have hPage : ItemKind.page.elementName.toList = ['P', 'a', 'g', 'e'] := by decide
  have hCompile : ItemKind.compile.elementName.toList = ['C', 'o', 'm', 'p', 'i', 'l', 'e'] := by
    decide
  rw [ItemKind.ofElementName?, ItemKind.all, List.find?_cons, List.find?_cons, hPage, hCompile]
  by_cases hp : name = ['P', 'a', 'g', 'e']
  · simp [hp]
  · by_cases hc : name = ['C', 'o', 'm', 'p', 'i', 'l', 'e']
    · simp [hc]
    · have hp' : (['P', 'a', 'g', 'e'] == name) = false := by simpa using Ne.symm hp
      have hc' : (['C', 'o', 'm', 'p', 'i', 'l', 'e'] == name) = false := by simpa using Ne.symm hc
      rw [if_neg hp, if_neg hc, hp', hc']
      rfl

/-- A written tag stands for the item that its element is. -/
theorem ofTag_inside (t : Tag) :
    ItemReference.ofTag t.inside = .ok (ItemReference.ofElement? t) := by
  rw [ItemReference.ofTag, nameOf_inside, Name.localName_text, ofElementName?_eq_find?,
    ItemReference.ofElement?]
  cases ItemKind.all.find? (·.elementName.toList == t.name.own) with
  | none => rfl
  | some kind =>
    -- an attribute found among those read is one found among those written
    have hFind : (t.attributes.map (·.asRead)).find? (localName ·.key == includeKey) =
        (t.attributes.find? (·.name.own == "Include".toList)).map (·.asRead) := by
      rw [List.find?_map]
      congr 1
      congr 1
      funext a
      show (localName a.name.text == includeKey) = _
      rw [Name.localName_text]
      rfl
    simp only [attributesOf_inside, hFind]
    cases t.attributes.find? (·.name.own == "Include".toList) with
    | none => rfl
    | some a =>
      -- the value was escaped when it was written
      simp only [Option.map_some, WrittenAttribute.asRead, unescape_escape]
      rfl

/-! ## Going past markups -/

namespace Outline

/-- Markups are followed part by part. -/
theorem follow_append (o : Outline) (ts us : List Token) :
    o.follow (ts ++ us) = (o.follow ts).bind (·.follow us) := by
  induction ts generalizing o with
  | nil => rfl
  | cons t ts ih =>
    rw [List.cons_append, follow, follow]
    cases o.step t with
    | error e => rfl
    | ok next => exact ih next

/-- Behind several markups too. -/
theorem follow_append_of_ok {o next : Outline} {ts : List Token} (h : o.follow ts = .ok next)
    (us : List Token) : o.follow (ts ++ us) = next.follow us := by
  rw [follow_append, h]
  rfl

/-- Behind a markup that was followed the others are followed from there. -/
theorem follow_cons_of_ok {o next : Outline} {t : Token} (h : o.step t = .ok next)
    (ts : List Token) : o.follow (t :: ts) = next.follow ts := by
  rw [follow, h]
  rfl

/-- Remarks are gone past without notice. -/
theorem follow_remarks (o : Outline) {ts : List Token} (h : ∀ t ∈ ts, t.markup = .remark) :
    o.follow ts = .ok o := by
  induction ts with
  | nil => rfl
  | cons t ts ih =>
    have hStep : o.step t = .ok o := by
      rw [step, h t (List.mem_cons_self ..)]
    rw [follow_cons_of_ok hStep]
    exact ih fun u hu => h u (List.mem_cons_of_mem _ hu)

/-- An element is noted if it is an item. -/
theorem noteItem_inside (o : Outline) (start : Nat) (t : Tag) :
    o.noteItem start t.inside =
      .ok { o with items := o.items ++ (ItemReference.ofElement? t).toList } := by
  rw [noteItem, ofTag_inside]
  cases ItemReference.ofElement? t with
  | none => simp
  | some item => rfl

/-- The first child after a content whose first element begins at an offset: only elements right
below the root count, and only the first of them. -/
def childAfter (o : Outline) (first : Option Nat) : Option Nat :=
  if o.unclosed.length = 1 then o.firstChild.or first else o.firstChild

/-- The first child of the root is noted once, and only right below the root. -/
theorem noteChild_eq (o : Outline) (start : Nat) :
    o.noteChild start = { o with firstChild := o.childAfter (some start) } := by
  obtain ⟨unclosed, items, root, firstChild⟩ := o
  unfold noteChild childAfter
  cases firstChild with
  | none =>
    by_cases hLength : unclosed.length = 1
    · simp [hLength]
    · simp [hLength]
  | some first => simp

theorem childAfter_none (o : Outline) : o.childAfter none = o.firstChild := by
  simp [childAfter]

/-- The outline with the items and the first child of a content below the root. -/
def withContent (o : Outline) (items : List ItemReference) (first : Option Nat) : Outline :=
  { o with items := o.items ++ items, firstChild := o.childAfter first }

/-- A child that was noted stays the first one, whatever comes behind it. -/
theorem withContent_of_some (o : Outline) (items : List ItemReference) (start : Nat)
    {next : Outline} (hUnclosed : next.unclosed = o.unclosed) (hRoot : next.root = o.root)
    (hItems : next.items = o.items ++ items)
    (hChild : next.firstChild = o.childAfter (some start)) (more : List ItemReference)
    (first : Option Nat) :
    next.withContent more first = o.withContent (items ++ more) (some start) := by
  -- the depth is the same, so whether children count here is the same
  have hStays : next.childAfter first = o.childAfter (some start) := by
    unfold childAfter at *
    rw [hUnclosed, hChild]
    split <;> simp
  rw [withContent, hStays, hUnclosed, hRoot, hItems, List.append_assoc]
  rfl

/-- An element that closes itself below the root adds its item and may be the first child. -/
theorem step_single {o : Outline} (hOpen : o.unclosed ≠ []) (start stop : Nat) (t : Tag) :
    o.step ⟨start, stop, .empty t.inside⟩ =
      .ok (o.withContent (ItemReference.ofElement? t).toList (some start)) := by
  rw [step]
  simp only
  -- this is not the root, since something is unclosed
  rw [if_neg hOpen, noteChild_eq, noteItem_inside]
  rfl

/-- So does one that opens, and it is unclosed from then on. -/
theorem step_open {o : Outline} (hOpen : o.unclosed ≠ []) (start stop : Nat) (t : Tag) :
    o.step ⟨start, stop, .opening t.inside⟩ =
      .ok { o.withContent (ItemReference.ofElement? t).toList (some start) with
        unclosed := t.name.text :: o.unclosed } := by
  rw [step]
  simp only
  rw [if_neg hOpen, noteChild_eq, noteItem_inside, nameOf_inside]
  rfl

/-- An end tag below the root closes the element that was opened last. -/
theorem step_close {o : Outline} {name : List Char} {outer : List (List Char)}
    (hNames : o.unclosed = name :: outer) (hOuter : outer ≠ []) (start stop : Nat) :
    o.step ⟨start, stop, .closing name⟩ = .ok { o with unclosed := outer } := by
  rw [step]
  simp only
  rw [hNames]
  simp only
  rw [if_neg (by simp), if_neg hOuter]

/-- **What is read below the root** leaves the elements around it as they are, adds the items of
the content, and notes its first element if no child was noted before. -/
theorem follow_content {o : Outline} (hOpen : o.unclosed ≠ []) (offset : Nat) (c : Content) :
    o.follow (c.tokens offset) = .ok (o.withContent (itemsOf c) (c.firstElement offset)) := by
  -- one case for each kind of piece: the outline before the rest is the one that the piece leaves
  induction c generalizing o offset with
  | nil => simp [Content.tokens, follow, itemsOf, Content.firstElement, withContent, childAfter_none]
  | text cs plain rest ih => exact ih hOpen _
  | remark r rest ih =>
    have hStep : o.step ⟨offset, offset + byteLength r.text, .remark⟩ = .ok o := rfl
    rw [Content.tokens, follow_cons_of_ok hStep, ih hOpen]
    rfl
  | single tag rest ih =>
    rw [Content.tokens, follow_cons_of_ok (step_single hOpen _ _ tag), ih]
    · refine congrArg Except.ok (withContent_of_some o _ offset ?_ ?_ ?_ ?_ _ _)
      all_goals rfl
    · exact hOpen
  | element tag inside rest ihInside ihRest =>
    simp only [Content.tokens, List.cons_append]
    rw [follow_cons_of_ok (step_open hOpen _ _ tag),
      follow_append_of_ok (ihInside (by simp) _),
      follow_cons_of_ok (step_close rfl hOpen _ _), ihRest]
    · rw [itemsOf]
      refine congrArg Except.ok (withContent_of_some o _ offset ?_ ?_ ?_ ?_ _ _)
      · rfl
      · rfl
      · simp [withContent]
      -- two elements at least are unclosed inside, so no child is noted there
      · simp [withContent, childAfter, hOpen]
    · exact hOpen

/-- Markups are followed one by one. -/
theorem follow_cons_ok {o last : Outline} {t : Token} {ts : List Token}
    (h : o.follow (t :: ts) = .ok last) :
    ∃ next, o.step t = .ok next ∧ next.follow ts = .ok last := by
  rw [follow] at h
  cases hStep : o.step t with
  | error e => simp [hStep, bind, Except.bind] at h
  | ok next => exact ⟨next, rfl, by simpa [hStep, bind, Except.bind] using h⟩

/-- Noting an item changes nothing but the items. -/
theorem noteItem_keeps {o next : Outline} {start : Nat} {content : List Char}
    (h : o.noteItem start content = .ok next) : ∃ items, next = { o with items := items } := by
  unfold noteItem at h
  split at h
  · exact ⟨_, (Except.ok.inj h).symm⟩
  · exact ⟨_, (Except.ok.inj h).symm⟩
  · contradiction

/-- A first child that is known stays the first one. -/
theorem firstChild_noteChild (o : Outline) (start : Nat) :
    (o.noteChild start).firstChild = o.firstChild ∨
      (o.noteChild start).firstChild = some start := by
  unfold noteChild
  split
  · exact .inr rfl
  · exact .inl rfl

/-- A markup changes the first child only to itself. -/
theorem firstChild_step {o next : Outline} {t : Token} (h : o.step t = .ok next) :
    next.firstChild = o.firstChild ∨ next.firstChild = some t.start := by
  -- only a tag that begins an element below the root notes a child
  unfold step at h
  split at h
  · rename_i content _
    split at h
    · split at h
      · contradiction
      · obtain rfl := Except.ok.inj h
        exact .inl rfl
    · cases hNoted : (o.noteChild t.start).noteItem t.start content with
      | error e => simp [hNoted, bind, Except.bind] at h
      | ok noted =>
        rw [hNoted] at h
        obtain rfl := Except.ok.inj h
        obtain ⟨items, rfl⟩ := noteItem_keeps hNoted
        exact firstChild_noteChild o t.start
  · split at h
    · split at h
      · contradiction
      · obtain rfl := Except.ok.inj h
        exact .inl rfl
    · obtain ⟨items, rfl⟩ := noteItem_keeps h
      exact firstChild_noteChild o t.start
  · split at h
    · contradiction
    · split at h
      · contradiction
      · split at h <;> obtain rfl := Except.ok.inj h <;> exact .inl rfl
  · obtain rfl := Except.ok.inj h
    exact .inl rfl

/-- The first child is the one known before, or it begins where one of the markups does. -/
theorem firstChild_follow {o last : Outline} {ts : List Token} (h : o.follow ts = .ok last) :
    last.firstChild = o.firstChild ∨ ∃ t ∈ ts, last.firstChild = some t.start := by
  induction ts generalizing o with
  | nil =>
    obtain rfl := Except.ok.inj h
    exact .inl rfl
  | cons t ts ih =>
    -- the last markup that noted a child is the one
    obtain ⟨next, hStep, hRest⟩ := follow_cons_ok h
    rcases ih hRest with hSame | ⟨u, hIn, hChild⟩
    · rcases firstChild_step hStep with hBefore | hHere
      · exact .inl (hSame.trans hBefore)
      · exact .inr ⟨t, List.mem_cons_self .., hSame.trans hHere⟩
    · exact .inr ⟨u, List.mem_cons_of_mem _ hIn, hChild⟩

end Outline

/-- A text with an outline is read to its end, and its markups can be followed. -/
theorem follow_of_outline {size offset : Nat} {body : List Char} {o : Outline}
    (h : outline size offset body = .ok o) :
    ∃ ts, Scans offset body ts ∧ ({} : Outline).follow ts = .ok o ∧ o.unclosed = [] := by
  unfold outline at h
  cases hFollow : ({} : Outline).follow (scan offset body).tokens with
  | error e => simp [hFollow, bind, Except.bind] at h
  | ok last =>
    simp only [hFollow, bind, Except.bind] at h
    split at h
    · contradiction
    · rename_i hFailure
      split at h
      · rename_i hClosed
        obtain rfl := Except.ok.inj h
        refine ⟨(scan offset body).tokens, ?_, hFollow, hClosed⟩
        rw [Scans, ← hFailure]
      · contradiction

/-! ## Documents -/

/-- A text in two parts: at most one byte order mark, and what stands behind it. -/
structure Marked (mark body : List Char) : Prop where
  mark_eq : mark = [] ∨ mark = [byteOrderMark]
  body_head : body.head? ≠ some byteOrderMark

/-- A text that does not begin with two byte order marks stands behind at most one. -/
theorem exists_marked {cs : List Char} (h : ¬ [byteOrderMark, byteOrderMark] <+: cs) :
    ∃ mark body, cs = mark ++ body ∧ Marked mark body := by
  by_cases hMark : cs.head? = some byteOrderMark
  · obtain ⟨body, rfl⟩ := List.head?_eq_some_iff.1 hMark
    refine ⟨[byteOrderMark], body, rfl, .inr rfl, fun hSecond => h ?_⟩
    obtain ⟨rest, rfl⟩ := List.head?_eq_some_iff.1 hSecond
    exact ⟨rest, rfl⟩
  · exact ⟨[], cs, rfl, .inl rfl, hMark⟩

namespace Document

/-- A byte order mark is cut off and counted. -/
theorem bodyOf_marked {mark body : List Char} (h : Marked mark body) :
    bodyOf (mark ++ body) = (byteLength mark, body) := by
  have hHead := h.body_head
  rcases h.mark_eq with rfl | rfl
  · cases body with
    | nil => rfl
    | cons c cs =>
      have hFirst : c ≠ byteOrderMark := by simpa using hHead
      simp [bodyOf, hFirst]
  · cases body with
    | nil => rfl
    | cons c cs =>
      have hFirst : c ≠ byteOrderMark := by simpa using hHead
      simp [bodyOf, hFirst]

theorem isIndent_defaultIndent : ∀ c ∈ defaultIndent.toList, isIndent c = true :=
  List.all_eq_true.1 (by decide)

/-- An indentation consists of blanks. -/
theorem isIndent_of_indentBefore {text : List Char} {offset : Nat} {indent : String}
    (h : indentBefore text offset = .ok indent) : ∀ c ∈ indent.toList, isIndent c = true := by
  unfold indentBefore at h
  split at h
  · contradiction
  · split at h
    · rename_i line hLine
      obtain rfl := Except.ok.inj h
      split
      · rename_i hBlank
        simpa using hBlank.2
      · exact isIndent_defaultIndent
    · obtain rfl := Except.ok.inj h
      exact isIndent_defaultIndent

/-- What stands in front of an element does not depend on what follows. -/
theorem indentBefore_append {text : List Char} {offset : Nat} {indent : String}
    (h : indentBefore text offset = .ok indent) (more : List Char) :
    indentBefore (text ++ more) offset = .ok indent := by
  rw [indentBefore] at h
  cases hCut : splitAtByte offset text with
  | none => simp [hCut] at h
  | some cut =>
    obtain ⟨head, tail⟩ := cut
    obtain ⟨rfl, rfl⟩ := append_of_splitAtByte hCut
    rw [hCut] at h
    rw [indentBefore, List.append_assoc, splitAtByte_append]
    exact h

end Document

/-- The indentation that a text shows: that of the first child noted, or the usual one. -/
def Outline.Indents (o : Outline) (text : List Char) (indent : String) : Prop :=
  o.firstChild.elim (.ok Document.defaultIndent) (Document.indentBefore text) = .ok indent

namespace Outline.Indents

variable {o : Outline} {text : List Char} {indent : String}

/-- An indentation that was found is one. -/
theorem isIndent (h : o.Indents text indent) :
    ∀ c ∈ indent.toList, Document.isIndent c = true := by
  rw [Indents] at h
  cases hChild : o.firstChild with
  | none =>
    rw [hChild] at h
    obtain rfl := Except.ok.inj h
    exact Document.isIndent_defaultIndent
  | some start =>
    rw [hChild] at h
    exact Document.isIndent_of_indentBefore h

/-- What stands behind it does not change the indentation. -/
theorem append (h : o.Indents text indent) (more : List Char) :
    o.Indents (text ++ more) indent := by
  rw [Indents] at h ⊢
  cases hChild : o.firstChild with
  | none => rwa [hChild] at h
  | some start =>
    rw [hChild] at h
    exact Document.indentBefore_append h more

end Outline.Indents

namespace Document

/-- The indentation of an element can be looked at: the element begins at a boundary. -/
theorem exists_indent {mark body : List Char} {ts : List Token} {o : Outline}
    (hScan : Scans (byteLength mark) body ts) (hFollow : ({} : Outline).follow ts = .ok o) :
    ∃ indent, o.Indents (mark ++ body) indent := by
  rcases Outline.firstChild_follow hFollow with hNone | ⟨t, hIn, hChild⟩
  · exact ⟨defaultIndent, by rw [Outline.Indents, hNone]; rfl⟩
  · obtain ⟨before, after, rfl⟩ := List.append_of_mem hIn
    obtain ⟨head, tail, rfl, -, hStart, -⟩ := hScan.split
    -- the markup of the first child cuts the text at a boundary of characters
    have hCut : splitAtByte t.start (mark ++ (head ++ '<' :: tail)) =
        some (mark ++ head, '<' :: tail) := by
      rw [hStart, ← byteLength_append, ← List.append_assoc]
      exact splitAtByte_append (mark ++ head) ('<' :: tail)
    simp only [Outline.Indents, hChild, Option.elim_some, indentBefore, hCut]
    cases lastLine (mark ++ head) with
    | none => exact ⟨_, rfl⟩
    | some line => exact ⟨_, rfl⟩

/-- **A closed outline with a root makes a document.** -/
theorem parse_of_follow {text : String} {mark body : List Char} {ts : List Token} {o : Outline}
    {root : RootElement} {indent : String} (hText : text.toList = mark ++ body)
    (hMarked : Marked mark body) (hScan : Scans (byteLength mark) body ts)
    (hFollow : ({} : Outline).follow ts = .ok o) (hClosed : o.unclosed = [])
    (hRoot : o.root = some root) (hIndent : o.Indents (mark ++ body) indent) :
    parse text = .ok ⟨text, o.items, root, lineEndingOf (mark ++ body), indent, []⟩ := by
  rw [Outline.Indents] at hIndent
  have hOutline : ∀ size, outline size (byteLength mark) body = .ok o := by
    intro size
    rw [Scans] at hScan
    simp [outline, hScan, hFollow, hClosed, bind, Except.bind]
  rw [parse, hText]
  simp only [bodyOf_marked hMarked, hOutline, hRoot, hIndent]

/-- **A document comes from a closed outline with a root**, at whatever offset its body was
read. -/
theorem follow_of_body {text : String} {d : Document} (h : parse text = .ok d) :
    ∃ ts o, Scans (bodyOf text.toList).1 (bodyOf text.toList).2 ts ∧
      ({} : Outline).follow ts = .ok o ∧ o.unclosed = [] ∧ o.root = some d.root ∧
      o.items = d.items ∧ o.Indents text.toList d.indent ∧
      d.lineEnding = lineEndingOf text.toList := by
  -- each failure of the reader contradicts that there is a document
  rw [parse] at h
  simp only at h
  split at h
  · contradiction
  · rename_i o hOutline
    split at h
    · contradiction
    · rename_i root hRoot
      split at h
      · contradiction
      · rename_i indent hIndent
        obtain rfl := Except.ok.inj h
        obtain ⟨ts, hScan, hFollow, hClosed⟩ := follow_of_outline hOutline
        exact ⟨ts, o, hScan, hFollow, hClosed, hRoot, by simp [items], hIndent, rfl⟩

/-- What a document says is told by the outline of its text. -/
theorem follow_of_parse {text : String} {mark body : List Char} {d : Document}
    (hText : text.toList = mark ++ body) (hMarked : Marked mark body) (h : parse text = .ok d) :
    ∃ ts o, Scans (byteLength mark) body ts ∧ ({} : Outline).follow ts = .ok o ∧
      o.unclosed = [] ∧ o.root = some d.root ∧ o.items = d.items ∧
      o.Indents text.toList d.indent ∧ d.lineEnding = lineEndingOf text.toList := by
  have hBody := follow_of_body h
  rwa [hText, bodyOf_marked hMarked, ← hText] at hBody

/-- The indentation of a document that was read consists of blanks. -/
theorem isIndent_indent {text : String} {d : Document} (h : parse text = .ok d) :
    ∀ c ∈ d.indent.toList, isIndent c = true := by
  obtain ⟨-, o, -, -, -, -, -, hIndent, -⟩ := follow_of_body h
  exact hIndent.isIndent

end Document

end ScriptWindows.Manifest
