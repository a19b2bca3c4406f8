import ScriptWindows.Proofs.Manifest.RootPlaces

/-!
# Documents that are read again

Folders are registered in separate builds, and each of them reads the manifest that the one before
it wrote. Indentation, line ending and the place before the end tag of the root are looked for
anew, in a text that holds what was added. This module shows that what is found is what was found
before, so that many edits write what one edit would have written.

The line ending is the delicate part: a text whose returns are not all followed by feeds can get a
return with a feed behind it just because a line is put in there.

Main results:

* `RootEnd.reparse`: a text with groups before the end tag of its root is read again with the same
  indentation, and what is appended then goes behind these groups.
* `appended_items_read_back`: whatever is appended to a document whose root has an end tag is read
  back from one block put into the text.
* `edits_compose`: one edit after another, with a reading between them, is both edits at once.
-/

namespace ScriptWindows.Manifest

open Text Xml

/-! ## Line endings -/

/-- Every return of a text is followed by a feed. -/
def FedReturns (cs : List Char) : Prop :=
  ∀ rest, '\r' :: rest <:+ cs → rest.head? = some '\n'

instance (cs : List Char) : Decidable (FedReturns cs) :=
  decidable_of_iff (∀ tail ∈ cs.tails, tail.head? = some '\r' → tail.tail.head? = some '\n') <| by
    simp only [List.mem_tails]
    constructor
    · intro h rest hSuffix
      exact h _ hSuffix rfl
    · intro h tail hSuffix hReturn
      obtain ⟨rest, rfl⟩ := List.head?_eq_some_iff.1 hReturn
      exact h rest hSuffix

theorem lineEndingOf_eq_returnFeed_iff {cs : List Char} :
    Document.lineEndingOf cs = .returnFeed ↔ ['\r', '\n'] <:+: cs := by
  rw [← occursIn_iff, Document.lineEndingOf]
  split <;> simp [*]

/-- Where no return has a feed behind it there is no return. -/
theorem FedReturns.not_mem {cs : List Char} (h : FedReturns cs)
    (hFeed : Document.lineEndingOf cs = .feed) : '\r' ∉ cs := by
  intro hIn
  obtain ⟨before, after, rfl⟩ := List.append_of_mem hIn
  obtain ⟨rest, rfl⟩ := List.head?_eq_some_iff.1 (h after (List.suffix_append before _))
  have hReturnFeed : Document.lineEndingOf (before ++ '\r' :: '\n' :: rest) = .returnFeed :=
    lineEndingOf_eq_returnFeed_iff.2 ⟨before, rest, by simp⟩
  rw [hFeed] at hReturnFeed
  contradiction

/-- **A text keeps the line ending of another one** if it has lines that end so, and no return
where the other one has none. -/
theorem FedReturns.lineEndingOf_eq {text written : List Char} (h : FedReturns text)
    (hEnds : (Document.lineEndingOf text).text <:+: written)
    (hReturns : Document.lineEndingOf text = .feed → '\r' ∈ written → '\r' ∈ text) :
    Document.lineEndingOf written = Document.lineEndingOf text := by
  cases hEnding : Document.lineEndingOf text with
  | returnFeed =>
    rw [hEnding] at hEnds
    exact lineEndingOf_eq_returnFeed_iff.2 hEnds
  | feed =>
    cases hWritten : Document.lineEndingOf written with
    | feed => rfl
    | returnFeed =>
      have hIn : '\r' ∈ written :=
        (lineEndingOf_eq_returnFeed_iff.1 hWritten).mem (List.mem_cons_self ..)
      exact absurd (hReturns hEnding hIn) (h.not_mem hEnding)

/-- A return in a written value stands for itself. -/
theorem mem_of_return_mem_escape {value : List Char} (h : '\r' ∈ escape value) : '\r' ∈ value := by
  obtain ⟨c, hIn, hChar⟩ := List.mem_flatMap.1 h
  suffices hSame : '\r' = c from hSame ▸ hIn
  unfold escapeChar at hChar
  split_ifs at hChar
  · simp at hChar
  · simp at hChar
  · simp at hChar
  · simp at hChar
  · simp at hChar
  · exact List.mem_singleton.1 hChar

/-- The lines of groups end as they are told to. -/
theorem lineEnding_infix_blockAfter (indent : List Char) (ending : LineEnding) (cs : List Char)
    {items : List ItemReference} (hSome : items ≠ []) :
    ending.text <:+: blockAfter indent ending cs items := by
  obtain ⟨item, rest, rfl⟩ := List.exists_cons_of_ne_nil hSome
  have hGroup : ending.text <:+ Document.groupText indent ending.text item :=
    (List.suffix_append _ _).trans (List.suffix_append _ _)
  have hFirst : Document.groupText indent ending.text item <+:
      (item :: rest).flatMap (Document.groupText indent ending.text) := List.prefix_append _ _
  exact (hGroup.isInfix.trans hFirst.isInfix).trans (List.suffix_append _ _).isInfix

/-- Groups have no return but those of their values, if lines end in feeds. -/
theorem return_not_mem_blockAfter {indent : List Char}
    (hIndent : ∀ c ∈ indent, Document.isIndent c = true) {items : List ItemReference}
    (hFiles : ∀ item ∈ items, '\r' ∉ item.files.toList) (cs : List Char) :
    '\r' ∉ blockAfter indent .feed cs items := by
  have hFeed : '\r' ∉ LineEnding.feed.text := by decide
  have hBlank : '\r' ∉ indent := fun hIn => absurd (hIndent _ hIn) (by decide)
  intro hIn
  rcases List.mem_append.1 hIn with hLine | hGroups
  · unfold newLineAfter at hLine
    split at hLine
    · contradiction
    · exact hFeed hLine
  · obtain ⟨item, hItem, hGroup⟩ := List.mem_flatMap.1 hGroups
    have hName : '\r' ∉ item.kind.elementName.toList := by cases item.kind <;> decide
    have hValue : '\r' ∉ escape item.files.toList := mt mem_of_return_mem_escape (hFiles item hItem)
    simp [Document.groupText, hFeed, hBlank, hName, hValue] at hGroup

/-! ## Indentation -/

/-- An element that has only blanks before it on its line is indented by them. -/
theorem indentBefore_line {cs rest : List Char} {indent : String} (hLine : cs.getLast? = some '\n')
    (hSome : indent.toList ≠ []) (hBlank : ∀ c ∈ indent.toList, Document.isIndent c = true) :
    Document.indentBefore (cs ++ indent.toList ++ rest) (byteLength (cs ++ indent.toList)) =
      .ok indent := by
  have hStop : ∀ c ∈ cs.getLast?, decide (c ≠ '\n') = false := by
    rw [hLine]
    rintro c ⟨⟩
    rfl
  have hRun : ∀ c ∈ indent.toList, decide (c ≠ '\n') = true := by
    intro c hc
    refine decide_eq_true ?_
    rintro rfl
    exact absurd (hBlank _ hc) (by decide)
  -- the last line of what stands before the element is just the blanks
  have hLast : Document.lastLine (cs ++ indent.toList) = some indent.toList := by
    have hIn : '\n' ∈ cs ++ indent.toList := List.mem_append_left _ (List.mem_of_getLast? hLine)
    rw [Document.lastLine, if_pos hIn, (trailing_upTo hStop hRun).2]
  have hAll : indent.toList ≠ [] ∧ indent.toList.all Document.isIndent = true :=
    ⟨hSome, List.all_eq_true.2 hBlank⟩
  rw [Document.indentBefore, splitAtByte_append]
  simp only [hLast, if_pos hAll, String.ofList_toList]

section
variable {cs : List Char} {indent : String} {o : Outline}

theorem getLast?_newLineAfter (ending : LineEnding) (cs : List Char) :
    (cs ++ newLineAfter ending cs).getLast? = some '\n' := by
  unfold newLineAfter
  split
  · rwa [List.append_nil]
  · rw [List.getLast?_append, getLast?_lineEnding]
    rfl

/-- **The groups of items show the indentation** that the text before them shows, or the usual one
if they are the first children. -/
theorem Outline.Indents.block (h : o.Indents cs indent) (hRoot : o.unclosed.length = 1)
    (ending : LineEnding) {items : List ItemReference} (hSome : items ≠ []) :
    (o.withContent items
        (some (byteLength (cs ++ newLineAfter ending cs ++ indent.toList)))).Indents
      (cs ++ blockAfter indent.toList ending cs items) indent := by
  cases hChild : o.firstChild with
  | some start =>
    -- the first child stays the first one
    have hMore := h.append (blockAfter indent.toList ending cs items)
    rw [Outline.Indents, hChild] at hMore
    rw [Outline.Indents, Outline.withContent, Outline.childAfter, if_pos hRoot, hChild]
    exact hMore
  | none =>
    rw [Outline.Indents, hChild] at h
    obtain rfl := Except.ok.inj h
    obtain ⟨item, rest, rfl⟩ := List.exists_cons_of_ne_nil hSome
    have hFirst : ∃ more, cs ++ blockAfter Document.defaultIndent.toList ending cs (item :: rest) =
        cs ++ newLineAfter ending cs ++ Document.defaultIndent.toList ++ more := by
      simp only [blockAfter, List.flatMap_cons, Document.groupText, List.append_assoc]
      exact ⟨_, rfl⟩
    obtain ⟨more, hText⟩ := hFirst
    rw [Outline.Indents, Outline.withContent, Outline.childAfter, if_pos hRoot, hChild, hText]
    exact indentBefore_line (getLast?_newLineAfter ending cs) (by decide)
      Document.isIndent_defaultIndent

end

/-! ## Reading what was written -/

/-- Groups behind groups begin on lines of their own. -/
theorem blockAfter_append (indent : List Char) (ending : LineEnding) (cs : List Char)
    {first : List ItemReference} (hSome : first ≠ []) (last : List ItemReference) :
    blockAfter indent ending cs first ++
        blockAfter indent ending (cs ++ blockAfter indent ending cs first) last =
      blockAfter indent ending cs (first ++ last) := by
  have hLine : newLineAfter ending (cs ++ blockAfter indent ending cs first) = [] := by
    rw [newLineAfter, List.getLast?_append, getLast?_blockAfter _ _ _ hSome]
    rfl
  have hRest : blockAfter indent ending (cs ++ blockAfter indent ending cs first) last =
      last.flatMap (Document.groupText indent ending.text) := by
    rw [blockAfter, hLine, List.nil_append]
  rw [hRest, blockAfter, blockAfter, List.flatMap_append, List.append_assoc]

/-- **A text with groups before the end tag of its root, read again**: it shows the same
indentation, and what is appended then goes behind these groups. -/
theorem RootEnd.reparse {mark before blanks closing : List Char} {o : Outline}
    (h : RootEnd mark before blanks closing o) {indent : String}
    (hIndent : o.Indents (mark ++ before) indent) {ending : LineEnding}
    {first : List ItemReference} (hSome : first ≠ []) {written : String}
    (hWritten : written.toList = mark ++
      (before ++ blockAfter indent.toList ending (mark ++ before) first ++ blanks ++ closing))
    (hEnding : Document.lineEndingOf written.toList = ending) :
    ∃ d, Document.parse written = .ok d ∧ d.indent = indent ∧ d.lineEnding = ending ∧
      d.items = o.items ++ first ∧
      ∀ last, (d.appendAll last).render = .ok (String.ofList (mark ++
        (before ++ blockAfter indent.toList ending (mark ++ before) (first ++ last) ++ blanks ++
          closing))) := by
  obtain ⟨name, hUnclosed, -⟩ := h.closes
  have hEnd := h.insert_block hIndent.isIndent ending hSome
  have hShown := hIndent.block (by rw [hUnclosed]; rfl) ending hSome
  rw [List.append_assoc mark before (blockAfter _ _ _ _)] at hShown
  refine ⟨_, hEnd.parse_eq hWritten hShown, rfl, hEnding,
    by simp [Document.items, Outline.withContent], fun last => ?_⟩
  by_cases hLast : last = []
  · subst hLast
    rw [Document.render_of_nothing_appended rfl, List.append_nil, ← hWritten]
    exact congrArg Except.ok String.ofList_toList.symm
  · rw [hEnd.render_block hWritten rfl rfl rfl hLast]
    simp only [hEnding, ← blockAfter_append _ _ _ hSome last, List.append_assoc]

/-! ## Where groups go -/

/-- A document, cut where the groups of appended items are put in: the text behind that place
begins with the end tag of the root, and the text before it tells the same as the document. For a
root that closes itself both texts have the tags that are written instead of its own. -/
structure Splicing (d : Document) (mark before blanks closing : List Char) (o : Outline) : Prop
    extends RootEnd mark before blanks closing o where
  items_eq : o.items = d.items
  indents : o.Indents (mark ++ before) d.indent
  render_eq : ∀ items ≠ [], (d.appendAll items).render = .ok (String.ofList (mark ++
    (before ++ blockAfter d.indent.toList d.lineEnding (mark ++ before) items ++ blanks ++
      closing)))
  returns : '\r' ∈ mark ++ (before ++ blanks ++ closing) → '\r' ∈ d.text.toList

/-- A root with an end tag takes the groups before it. -/
theorem exists_splicing_of_tagged {text : String} {mark body : List Char} {d : Document}
    {close : Nat} (hText : text.toList = mark ++ body) (hMarked : Marked mark body)
    (hParse : Document.parse text = .ok d) (hRoot : d.root = .tagged close) :
    ∃ before blanks closing o, Splicing d mark before blanks closing o := by
  obtain ⟨before, blanks, closing, o, rfl, -, hEnd, -⟩ :=
    RootEnd.of_parse hText hMarked hParse hRoot
  obtain ⟨indent, hIndent⟩ := hEnd.exists_indent
  obtain rfl := Except.ok.inj (hParse.symm.trans (hEnd.parse_eq hText hIndent))
  exact ⟨before, blanks, closing, o, {
    toRootEnd := hEnd
    items_eq := by simp [Document.items]
    indents := hIndent
    render_eq := fun items hSome => hEnd.render_block hText rfl rfl rfl hSome
    returns := by rw [hText]; exact id }⟩

namespace SingleDocument

variable {d : Document} {mark before content after : List Char}

/-- Without children the usual indentation is taken. -/
theorem indent_eq (h : SingleDocument d mark before content after) :
    d.indent = Document.defaultIndent := by
  obtain ⟨ts, o, -, hFollow, -, hRoot, -, hIndent, -⟩ :=
    Document.follow_of_parse h.text_eq h.marked h.parsed
  rw [h.root_eq] at hRoot
  obtain ⟨-, -, -, -, -, -, -, rfl⟩ := Outline.follow_single hFollow hRoot
  exact (Except.ok.inj hIndent).symm

/-- What is written is read again only if the tag opens cleanly. -/
theorem opensCleanly_of_parse (h : SingleDocument d mark before content after)
    {items : List ItemReference} (hSome : items ≠ []) {written : String} {d' : Document}
    (hRender : (d.appendAll items).render = .ok written)
    (hParse : Document.parse written = .ok d') : OpensCleanly content := by
  obtain rfl := Except.ok.inj ((h.render_append hSome).symm.trans hRender)
  have hMarked := h.marked_opened (d.groups items ++ SingleRoot.closed content after)
  rw [← List.append_assoc] at hMarked
  obtain ⟨ts, o, hScan, hFollow, -⟩ :=
    Document.follow_of_parse String.toList_ofList hMarked hParse
  rw [List.append_assoc, h.groups_eq_written] at hScan
  exact h.opensCleanly_of_follow hScan hFollow

/-- A root that closes itself takes the groups between its tags, if its own tag opens cleanly. -/
theorem splicing (h : SingleDocument d mark before content after) (hOpens : OpensCleanly content) :
    Splicing d mark (SingleRoot.opened before content) [] (SingleRoot.closed content after)
      { unclosed := [nameOf content] } where
  toRootEnd := h.rootEnd hOpens
  items_eq := h.empty.symm
  indents := by rw [h.indent_eq]; rfl
  render_eq := by
    intro items hSome
    rw [h.render_append hSome, d.groups_eq_blockAfter mark, List.append_nil]
  returns := by
    intro hIn
    -- what is written between the parts of the text has no return, and the rest is of the text
    have hShorter : trimmed content <+: content := dropTrailing_prefix _ _
    have hTrimmed : '\r' ∈ trimmed content → '\r' ∈ content := hShorter.mem
    have hName : '\r' ∈ nameOf content → '\r' ∈ content := (List.takeWhile_prefix _).mem
    simp only [SingleRoot.opened, SingleRoot.closed, List.mem_append, List.mem_cons,
      List.not_mem_nil, h.text_eq] at hIn ⊢
    tauto

end SingleDocument

/-- **A document that is read again from what was written can be spliced.** -/
theorem exists_splicing {text : String} {mark body : List Char} {d : Document}
    (hText : text.toList = mark ++ body) (hMarked : Marked mark body)
    (hParse : Document.parse text = .ok d) {items : List ItemReference} (hSome : items ≠ [])
    {written : String} {d' : Document} (hRender : (d.appendAll items).render = .ok written)
    (hAgain : Document.parse written = .ok d') :
    ∃ before blanks closing o, Splicing d mark before blanks closing o := by
  cases hRoot : d.root with
  | tagged close => exact exists_splicing_of_tagged hText hMarked hParse hRoot
  | selfClosing start stop name =>
    obtain ⟨-, rfl⟩ := Document.appended_parse hParse
    obtain ⟨before, content, after, h⟩ := SingleDocument.of_parse hText hMarked hParse hRoot
    exact ⟨_, _, _, _, h.splicing (h.opensCleanly_of_parse hSome hRender hAgain)⟩

/-! ## One edit after another -/

/-- What a document shows that was read from what another one with items appended was written as. -/
structure Continues (d : Document) (first : List ItemReference) (d' : Document) : Prop where
  indent : d'.indent = d.indent
  lineEnding : d'.lineEnding = d.lineEnding
  items : d'.items = (first.foldl Document.append d).items
  /-- More items are written in it as they are written in the other one, behind the first ones. -/
  render : ∀ last : List ItemReference, ∃ whole,
    (last.foldl Document.append d').render = .ok whole ∧
      ((first ++ last).foldl Document.append d).render = .ok whole

section
variable {d d' : Document} {mark before blanks closing : List Char} {o : Outline}
  {first : List ItemReference} {written : String}

/-- Lines end in what is written as they do in the document. -/
theorem Splicing.lineEndingOf_eq (h : Splicing d mark before blanks closing o)
    (hFed : FedReturns d.text.toList) (hEnding : d.lineEnding = Document.lineEndingOf d.text.toList)
    (hFiles : ∀ item ∈ first, '\r' ∉ item.files.toList) (hSome : first ≠ [])
    (hWritten : written.toList = mark ++ (before ++
      blockAfter d.indent.toList d.lineEnding (mark ++ before) first ++ blanks ++ closing)) :
    Document.lineEndingOf written.toList = d.lineEnding := by
  rw [hWritten, hEnding]
  refine hFed.lineEndingOf_eq ?_ ?_
  · refine (lineEnding_infix_blockAfter d.indent.toList _ (mark ++ before) hSome).trans ?_
    exact ⟨mark ++ before, blanks ++ closing, by simp⟩
  · intro hFeed hIn
    have hBlock := return_not_mem_blockAfter h.indents.isIndent hFiles (mark ++ before)
    rw [hFeed] at hIn
    refine h.returns ?_
    simp only [List.mem_append, hBlock] at hIn ⊢
    tauto

/-- What is read from there goes on from the document. -/
theorem Splicing.continues (h : Splicing d mark before blanks closing o)
    (hFed : FedReturns d.text.toList) (hEnding : d.lineEnding = Document.lineEndingOf d.text.toList)
    (hFiles : ∀ item ∈ first, '\r' ∉ item.files.toList) (hSome : first ≠ [])
    (hRender : (d.appendAll first).render = .ok written)
    (hAgain : Document.parse written = .ok d') : Continues d first d' := by
  have hWritten : written.toList = mark ++ (before ++
      blockAfter d.indent.toList d.lineEnding (mark ++ before) first ++ blanks ++ closing) := by
    rw [← Except.ok.inj ((h.render_eq first hSome).symm.trans hRender), String.toList_ofList]
  obtain ⟨d'', hParse, hIndent, hLineEnding, hItems, hRest⟩ := h.reparse h.indents hSome hWritten
    (h.lineEndingOf_eq hFed hEnding hFiles hSome hWritten)
  obtain rfl : d' = d'' := Except.ok.inj (hAgain.symm.trans hParse)
  refine ⟨hIndent, hLineEnding, ?_, fun last => ?_⟩
  · rw [Document.foldl_append, Document.items_appendAll, hItems, h.items_eq]
  · have hMore : first ++ last ≠ [] := by simp [hSome]
    rw [Document.foldl_append, Document.foldl_append]
    exact ⟨_, hRest last, h.render_eq _ hMore⟩

end

/-- **A document that is read from what another one is written as goes on from there.** -/
theorem continues_of_parse {text : String} {d d' : Document}
    (hMarks : ¬ [byteOrderMark, byteOrderMark] <+: text.toList) (hFed : FedReturns text.toList)
    (hParse : Document.parse text = .ok d) {first : List ItemReference}
    (hFiles : ∀ item ∈ first, '\r' ∉ item.files.toList) {written : String}
    (hRender : (d.appendAll first).render = .ok written)
    (hAgain : Document.parse written = .ok d') : Continues d first d' := by
  obtain ⟨mark, body, hText, hMarked⟩ := exists_marked hMarks
  obtain ⟨hNone, rfl⟩ := Document.appended_parse hParse
  by_cases hSome : first = []
  · -- nothing was written, so the same document is read again
    subst hSome
    rw [Document.appendAll_nil, Document.render_of_nothing_appended hNone] at hRender
    obtain rfl := Except.ok.inj hRender
    obtain rfl : d = d' := Except.ok.inj (hParse.symm.trans hAgain)
    refine ⟨rfl, rfl, rfl, fun last => ?_⟩
    obtain ⟨whole, hWhole⟩ := exists_render hText hMarked hParse last
    rw [← Document.foldl_append] at hWhole
    exact ⟨whole, hWhole, hWhole⟩
  · obtain ⟨before, blanks, closing, o, hSplicing⟩ :=
      exists_splicing hText hMarked hParse hSome hRender hAgain
    obtain ⟨-, -, -, -, -, -, -, -, hEnding⟩ := Document.follow_of_parse hText hMarked hParse
    exact hSplicing.continues hFed hEnding hFiles hSome hRender hAgain

/-! ## One build after another -/

/-- Register folders in one document, one after another. -/
def Document.registerAll : Document → List String → List PatchOutcome × Document
  | d, [] => ([], d)
  | d, folder :: folders =>
    let (outcome, next) := d.register folder
    let (outcomes, last) := next.registerAll folders
    (outcome :: outcomes, last)

/-- What a folder lacks depends on the items alone. -/
theorem Document.lacking_congr {d d' : Document} (h : d.items = d'.items) (folder : String) :
    d.lacking folder = d'.lacking folder ∧ d.lackingOutcome folder = d'.lackingOutcome folder := by
  refine Document.lacking_of_hasReference fun kind => ?_
  rw [Document.hasReference, h, Document.hasReference]

/-- The items that a folder lacks have no return if its name has none. -/
theorem Document.return_not_mem_lacking {d : Document} {folder : String}
    (h : '\r' ∉ folder.toList) : ∀ item ∈ d.lacking folder, '\r' ∉ item.files.toList := by
  intro item hIn
  rw [(Document.mem_lacking.1 hIn).2, ItemKind.pattern]
  cases item.kind <;> simp [ItemKind.fileEnding, h]

/-- A file holds what a document with items appended is written as, and none of the items has a
return. -/
structure HoldsEdited (tree : FileTree) (path : Path) (d : Document) (items : List ItemReference) :
    Prop where
  written : ∃ text, (d.appendAll items).render = .ok text ∧ tree.readText path = .ok text
  files : ∀ item ∈ items, '\r' ∉ item.files.toList

section
variable {tree next after : FileTree} {path : Path} {text : String} {d : Document}
  {items : List ItemReference}

/-- **One build registers a folder as the one edit does**, whatever was written before it. -/
theorem HoldsEdited.patched (h : HoldsEdited tree path d items)
    (hMarks : ¬ [byteOrderMark, byteOrderMark] <+: text.toList) (hFed : FedReturns text.toList)
    (hParse : Document.parse text = .ok d) {folder : String} (hFolder : '\r' ∉ folder.toList)
    {outcome : PatchOutcome} (hRun : Manifest.patched path tree folder = (.ok outcome, next)) :
    ∃ more, (d.appendAll items).register folder = (outcome, d.appendAll (items ++ more)) ∧
      HoldsEdited next path d (items ++ more) := by
  obtain ⟨written, hRender, hRead⟩ := h.written
  -- a build that succeeds has read a document from the file
  obtain ⟨d', middle, hLoad, -⟩ := run_bind_ok_iff.1 hRun
  have hHolds := holds_of_load hLoad
  obtain rfl : d'.text = written := Except.ok.inj (hHolds.read.symm.trans hRead)
  have hContinues := continues_of_parse hMarks hFed hParse h.files hRender hHolds.parsed
  have hItems := hContinues.items
  rw [Document.foldl_append] at hItems
  obtain ⟨hLacking, hOutcome⟩ := Document.lacking_congr hItems folder
  obtain ⟨whole, hThere, hHere⟩ := hContinues.render (d'.lacking folder)
  rw [Document.foldl_append] at hThere hHere
  obtain ⟨next', hPatch, hWritten, -⟩ := hHolds.patched_of_render hThere
  obtain ⟨hSame, rfl⟩ := Prod.mk.inj (hRun.symm.trans hPatch)
  obtain rfl := Except.ok.inj hSame
  refine ⟨d'.lacking folder, ?_, ⟨whole, hHere, hWritten⟩, ?_⟩
  · rw [Document.register_eq, hOutcome, hLacking, Document.appendAll_appendAll]
  · intro item hIn
    rcases List.mem_append.1 hIn with hBefore | hNew
    · exact h.files item hBefore
    · exact Document.return_not_mem_lacking hFolder item hNew

/-- **Builds one after another register folders as one edit does.** -/
theorem HoldsEdited.patchedAll (h : HoldsEdited tree path d items)
    (hMarks : ¬ [byteOrderMark, byteOrderMark] <+: text.toList) (hFed : FedReturns text.toList)
    (hParse : Document.parse text = .ok d) {folders : List String}
    (hFolders : ∀ folder ∈ folders, '\r' ∉ folder.toList) {outcomes : List PatchOutcome}
    (hRun : Manifest.patchedAll path tree folders = (.ok outcomes, after)) :
    ∃ more, (d.appendAll items).registerAll folders = (outcomes, d.appendAll (items ++ more)) ∧
      HoldsEdited after path d (items ++ more) := by
  -- each build goes on from what the ones before it wrote
  induction folders generalizing tree items outcomes with
  | nil =>
    obtain ⟨hNone, rfl⟩ := Prod.mk.inj hRun
    obtain rfl := Except.ok.inj hNone
    exact ⟨[], by rw [List.append_nil]; rfl, by rwa [List.append_nil]⟩
  | cons folder folders ih =>
    rw [Manifest.patchedAll, List.mapM_cons] at hRun
    obtain ⟨outcome, middle, hPatch, hRest⟩ := run_bind_ok_iff.1 hRun
    obtain ⟨others, last, hOthers, hDone⟩ := run_bind_ok_iff.1 hRest
    obtain ⟨hSame, rfl⟩ := Prod.mk.inj hDone
    obtain rfl := Except.ok.inj hSame
    obtain ⟨more, hFirst, hMiddle⟩ :=
      h.patched hMarks hFed hParse (hFolders folder (List.mem_cons_self ..)) hPatch
    obtain ⟨later, hLater, hAfter⟩ :=
      ih hMiddle (fun other hIn => hFolders other (List.mem_cons_of_mem _ hIn)) hOthers
    rw [List.append_assoc] at hLater hAfter
    refine ⟨more ++ later, ?_, hAfter⟩
    rw [Document.registerAll, hFirst]
    simp only [hLater]

end

/-! ## Main results -/

/-- **What is appended to a document whose root has an end tag is read back.** The place where it is
put in is the same whatever is appended, and nothing else of the text changes. The text that is
written is a document with all items in order, and this document is written as just that text. -/
theorem appended_items_read_back {text : String} {d : Document} {close : Nat}
    (hMarks : ¬ [byteOrderMark, byteOrderMark] <+: text.toList)
    (hParse : Document.parse text = .ok d) (hRoot : d.root = .tagged close) :
    ∃ first last, text.toList = first ++ last ∧
      ∀ items : List ItemReference, ∃ block written d',
        (items.foldl Document.append d).render = .ok written ∧
        written.toList = first ++ block ++ last ∧ (block = [] ↔ items = []) ∧
        Document.parse written = .ok d' ∧ d'.items = (items.foldl Document.append d).items ∧
        d'.items = d.items ++ items ∧ d'.render = .ok written := by
  obtain ⟨mark, body, hText, hMarked⟩ := exists_marked hMarks
  obtain ⟨before, blanks, closing, o, rfl, -, hEnd, -⟩ :=
    RootEnd.of_parse hText hMarked hParse hRoot
  refine ⟨mark ++ before, blanks ++ closing, by simp [hText], fun items => ?_⟩
  obtain ⟨block, o', hRender, hEnd', hItems, hBlock⟩ := hEnd.render_append hText hParse items
  have hWritten : (String.ofList (mark ++ (before ++ block ++ blanks ++ closing))).toList =
      mark ++ (before ++ block ++ blanks ++ closing) := String.toList_ofList
  obtain ⟨d', hAgain, hFound, -⟩ := hEnd'.parse hWritten
  obtain ⟨hNone, hSame⟩ := Document.appended_parse hAgain
  rw [← hFound] at hItems
  refine ⟨block, _, d', ?_, ?_, hBlock, hAgain, ?_, hItems, ?_⟩
  · rw [Document.foldl_append, hRender]
  · rw [hWritten]
    simp
  · rw [Document.foldl_append, Document.items_appendAll, hItems]
  · rw [Document.render_of_nothing_appended hNone, hSame]

theorem appended_items_read_back_emptyProject :
    ¬ [byteOrderMark, byteOrderMark] <+: emptyProject.text.toList ∧
      Document.parse emptyProject.text = .ok emptyProject ∧ emptyProject.root = .tagged 10 ∧
      ∃ written d', ([⟨.page, "&#10;<\"&\r\n>"⟩, ⟨.compile, "&amp;"⟩].foldl Document.append
          emptyProject).render = .ok written ∧
        Document.parse written = .ok d' ∧
        d'.items = [⟨.page, "&#10;<\"&\r\n>"⟩, ⟨.compile, "&amp;"⟩] ∧ d'.render = .ok written := by
  have hMarks : ¬ [byteOrderMark, byteOrderMark] <+: emptyProject.text.toList := by decide
  have hParse := holds_emptyProject.parsed
  obtain ⟨first, last, -, hAppended⟩ := appended_items_read_back hMarks hParse rfl
  obtain ⟨block, written, d', hRender, -, -, hAgain, -, hItems, hSame⟩ :=
    hAppended [⟨.page, "&#10;<\"&\r\n>"⟩, ⟨.compile, "&amp;"⟩]
  exact ⟨hMarks, hParse, rfl, written, d', hRender, hAgain, hItems, hSame⟩

/-- **One edit after another is both edits at once**, for every text in which returns are followed
by feeds, and every root: if what is written for the first items can be read, then the document that
is read goes on from there. So builds that register folders one after another leave the file as one
edit that registers them all would write it, and tell the same of each folder. -/
theorem edits_compose {text : String} {d : Document}
    (hMarks : ¬ [byteOrderMark, byteOrderMark] <+: text.toList) (hFed : FedReturns text.toList)
    (hParse : Document.parse text = .ok d) :
    (∀ first : List ItemReference, (∀ item ∈ first, '\r' ∉ item.files.toList) →
      ∀ written d', (first.foldl Document.append d).render = .ok written →
        Document.parse written = .ok d' → Continues d first d') ∧
    ∀ tree path folders outcomes after, Holds tree path d →
      (∀ folder ∈ folders, '\r' ∉ folder.toList) →
      patchedAll path tree folders = (.ok outcomes, after) →
      ∃ whole, (d.registerAll folders).2.render = .ok whole ∧ after.readText path = .ok whole ∧
        (d.registerAll folders).1 = outcomes := by
  constructor
  · intro first hFiles written d' hRender hAgain
    rw [Document.foldl_append] at hRender
    exact continues_of_parse hMarks hFed hParse hFiles hRender hAgain
  · intro tree path folders outcomes after hHolds hFolders hRun
    -- before the first build nothing was appended
    have hStart : HoldsEdited tree path d [] := by
      refine ⟨⟨d.text, ?_, hHolds.read⟩, by simp⟩
      rw [Document.appendAll_nil]
      exact Document.render_of_nothing_appended (Document.appended_parse hParse).1
    obtain ⟨more, hAll, hAfter⟩ := hStart.patchedAll hMarks hFed hParse hFolders hRun
    obtain ⟨whole, hRender, hRead⟩ := hAfter.written
    rw [Document.appendAll_nil] at hAll
    rw [hAll]
    exact ⟨whole, hRender, hRead, rfl⟩

/-- The project without items after a page was registered. -/
def onePageProject : Document where
  text := "<Project>\n  <ItemGroup>\n    <Page Include=\"G\\*.xaml\" />\n  </ItemGroup>\n</Project>"
  found := [⟨.page, "G\\*.xaml"⟩]
  root := .tagged 71
  lineEnding := .feed
  indent := "  "

theorem edits_compose_emptyProject :
    ¬ [byteOrderMark, byteOrderMark] <+: emptyProject.text.toList ∧
      FedReturns emptyProject.text.toList ∧
      Document.parse emptyProject.text = .ok emptyProject ∧
      ([⟨.page, "G\\*.xaml"⟩].foldl Document.append emptyProject).render =
        .ok onePageProject.text ∧
      Document.parse onePageProject.text = .ok onePageProject ∧
      Continues emptyProject [⟨.page, "G\\*.xaml"⟩] onePageProject ∧
      ∃ outcomes after whole,
        patchedAll ⟨"App.csproj"⟩ emptyProjectTree ["First", "Second"] = (.ok outcomes, after) ∧
        (emptyProject.registerAll ["First", "Second"]).2.render = .ok whole ∧
        after.readText ⟨"App.csproj"⟩ = .ok whole := by
  have hMarks : ¬ [byteOrderMark, byteOrderMark] <+: emptyProject.text.toList := by decide
  have hFed : FedReturns emptyProject.text.toList := by decide
  have hParse := holds_emptyProject.parsed
  have hRender : ([⟨.page, "G\\*.xaml"⟩].foldl Document.append emptyProject).render =
      .ok onePageProject.text := by cbv
  have hAgain : Document.parse onePageProject.text = .ok onePageProject := by cbv
  obtain ⟨hEdits, hBuilds⟩ := edits_compose hMarks hFed hParse
  -- the builds succeed, since the root has an end tag
  have hMarked : Marked [] emptyProject.text.toList := ⟨.inl rfl, by decide⟩
  obtain ⟨before, blanks, closing, o, hBody, -, hEnd, -⟩ :=
    RootEnd.of_parse rfl hMarked hParse rfl
  obtain ⟨outcomes, after, -, -, -, hRun, -⟩ :=
    Patchable.patchedAll ⟨holds_emptyProject, hBody, o, hEnd⟩ ["First", "Second"]
  obtain ⟨whole, hWhole, hRead, -⟩ :=
    hBuilds _ _ _ _ _ holds_emptyProject (by decide) hRun
  exact ⟨hMarks, hFed, hParse, hRender, hAgain, hEdits _ (by decide) _ _ hRender hAgain, outcomes,
    after, whole, hRun, hWhole, hRead⟩

/-- A feed that is put in behind a return alone makes the next edit end its lines otherwise. -/
example :
    (Document.parse "<P>\r</P>").map (·.lineEnding) = .ok .feed ∧
      (Document.parse "<P>\r</P>").toOption.map (·.append ⟨.page, "G"⟩ |>.render) =
        some (.ok "<P>\r\n  <ItemGroup>\n    <Page Include=\"G\" />\n  </ItemGroup>\n</P>") ∧
      (Document.parse
        "<P>\r\n  <ItemGroup>\n    <Page Include=\"G\" />\n  </ItemGroup>\n</P>").map
          (·.lineEnding) = .ok .returnFeed :=
  ⟨by cbv, by cbv, by cbv⟩

end ScriptWindows.Manifest
