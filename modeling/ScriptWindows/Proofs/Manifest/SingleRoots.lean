import ScriptWindows.Proofs.Manifest.PatchRuns
import ScriptWindows.Proofs.Xml.TrimmedTags

/-!
# Roots that close themselves

A root without content has no end tag to write items in front of. Its tag is opened instead: the
slash at its end goes, and the items and an end tag follow. What the slash leaves behind decides
whether that works: it must still be a start tag, and of the same name.

Main results:

* `SingleDocument.of_parse`: a document whose root closes itself is one such tag among remarks.
* `SingleDocument.render_append`: what is written for appended items.
* `SingleRoot.rootEnd`, `SingleRoot.opensCleanly_of_follow`: the root is open behind what is left of
  its tag, and closed by the end tag that is written, exactly if the tag opens cleanly.
* `expand_selfClosing`: so the items are read back, under a root of the same name, exactly then.
-/

namespace ScriptWindows.Manifest

open Text Xml

/-! ## Outlines of a root without content -/

namespace Outline

/-- Below an unknown root a step stays there, or it is the end tag of the root. -/
theorem step_below {o next : Outline} {t : Token} (hOpen : o.unclosed ≠ []) (hNone : o.root = none)
    (h : o.step t = .ok next) :
    (next.unclosed ≠ [] ∧ next.root = none) ∨ next = o.closedAt t.start := by
  have hNoted : ∀ {start content noted}, (o.noteChild start).noteItem start content = .ok noted →
      noted.unclosed = o.unclosed ∧ noted.root = none := by
    intro start content noted hNoted
    obtain ⟨items, rfl⟩ := noteItem_keeps hNoted
    rw [noteChild_eq]
    exact ⟨rfl, hNone⟩
  -- an opening tag, a tag that closes itself, an end tag, and a remark
  unfold step at h
  split at h
  · rename_i content hMarkup
    rw [if_neg hOpen] at h
    cases hItem : (o.noteChild t.start).noteItem t.start content with
    | error e => simp [hItem, bind, Except.bind] at h
    | ok noted =>
      rw [hItem] at h
      obtain rfl := Except.ok.inj h
      exact .inl ⟨by simp, (hNoted hItem).2⟩
  · rw [if_neg hOpen] at h
    exact .inl ⟨by rw [(hNoted h).1]; exact hOpen, (hNoted h).2⟩
  · split at h
    · contradiction
    · split at h
      · contradiction
      · split at h
        · obtain rfl := Except.ok.inj h
          exact .inr (by simp [closedAt, hNone])
        · obtain rfl := Except.ok.inj h
          exact .inl ⟨‹_›, hNone⟩
  · obtain rfl := Except.ok.inj h
    exact .inl ⟨hOpen, hNone⟩

/-- A root that was opened does not close itself. -/
theorem root_of_open {o last : Outline} {ts : List Token} (hOpen : o.unclosed ≠ [])
    (hNone : o.root = none) (h : o.follow ts = .ok last) (start stop : Nat) (name : String) :
    last.root ≠ some (.selfClosing start stop name) := by
  induction ts generalizing o with
  | nil =>
    obtain rfl := Except.ok.inj h
    simp [hNone]
  | cons t ts ih =>
    obtain ⟨next, hStep, hRest⟩ := follow_cons_ok h
    rcases step_below hOpen hNone hStep with ⟨hStill, hUnknown⟩ | rfl
    · exact ih hStill hUnknown hRest
    · obtain ⟨rfl, -⟩ := follow_after_root rfl rfl hRest
      simp [closedAt]

/-- **A root that closes itself** is the only markup besides remarks. -/
theorem follow_single {last : Outline} {ts : List Token} {start stop : Nat} {name : String}
    (h : ({} : Outline).follow ts = .ok last)
    (hRoot : last.root = some (.selfClosing start stop name)) :
    ∃ before content after, ts = before ++ ⟨start, stop, .empty content⟩ :: after ∧
      (∀ t ∈ before, t.markup = .remark) ∧ (∀ t ∈ after, t.markup = .remark) ∧
      name = String.ofList (nameOf content) ∧
      last = { root := some (.selfClosing start stop name) } := by
  induction ts with
  | nil =>
    obtain rfl := Except.ok.inj h
    contradiction
  | cons t ts ih =>
    obtain ⟨next, hStep, hRest⟩ := follow_cons_ok h
    obtain ⟨first, second, markup⟩ := t
    cases markup with
    | opening content =>
      -- the root would not close itself
      obtain rfl := Except.ok.inj hStep
      exact absurd hRoot (root_of_open (by simp) rfl hRest start stop name)
    | empty content =>
      obtain rfl := Except.ok.inj hStep
      obtain ⟨rfl, hRemarks⟩ := follow_after_root rfl rfl hRest
      obtain ⟨rfl, rfl, rfl⟩ := RootElement.selfClosing.inj (Option.some.inj hRoot)
      exact ⟨[], content, ts, rfl, by simp, hRemarks, rfl, rfl⟩
    | closing name => simp [step] at hStep
    | remark =>
      obtain rfl := Except.ok.inj hStep
      obtain ⟨before, content, after, rfl, hBefore, hAfter, hName, hLast⟩ := ih hRest
      refine ⟨⟨first, second, .remark⟩ :: before, content, after, rfl, ?_, hAfter, hName, hLast⟩
      intro t ht
      rcases List.mem_cons.1 ht with rfl | ht
      · rfl
      · exact hBefore t ht

theorem follow_singleton (o : Outline) (t : Token) : o.follow [t] = o.step t := by
  rw [follow]
  cases o.step t <;> rfl

/-- An end tag has the name of the innermost open element. -/
theorem name_of_closing {o next : Outline} {t : Token} {name other : List Char}
    {outer : List (List Char)} (hUnclosed : o.unclosed = name :: outer)
    (hMarkup : t.markup = .closing other) (h : o.step t = .ok next) : name = other := by
  rw [step, hMarkup] at h
  simp only [hUnclosed] at h
  split at h
  · contradiction
  · exact Decidable.not_not.1 ‹_›

end Outline

/-! ## Texts around a root -/

/-- A text without tags. -/
def Remarks (cs : List Char) : Prop :=
  ∀ offset, ∃ ts, Scans offset cs ts ∧ ∀ t ∈ ts, t.markup = .remark

/-- A text without tags has none wherever it begins. -/
theorem remarks_of_scan {cs : List Char} {offset : Nat} {ts : List Token} (h : Scans offset cs ts)
    (hRemarks : ∀ t ∈ ts, t.markup = .remark) : Remarks cs := by
  obtain ⟨zs, hZero, rfl⟩ := h.from_zero
  intro distance
  refine ⟨_, by simpa using hZero.moved distance, ?_⟩
  intro t ht
  obtain ⟨z, hz, rfl⟩ := List.mem_map.1 ht
  exact hRemarks (z.moved offset) (List.mem_map_of_mem hz)

/-- A text begins with the end tag of one name at most. -/
theorem EndTag.unique {name other tail : List Char} (h : EndTag name tail)
    (hOther : EndTag other tail) : name = other := by
  obtain ⟨stop, us, hScan, -⟩ := h 0
  obtain ⟨stop', us', hScan', -⟩ := hOther 0
  obtain ⟨-, -, hMarkup⟩ := Token.mk.inj (List.cons.inj (hScan.unique hScan')).1
  exact Markup.closing.inj hMarkup

/-- A text that ends within its root: the root is the only element that is open there. -/
def RootOpen (name head : List Char) : Prop :=
  ∃ ts o, Scans 0 head ts ∧ ({} : Outline).follow ts = .ok o ∧ o.root = none ∧ o.unclosed = [name]

/-- A text with its root where the document says: up to there only the root is open, and there
begins its end tag. -/
structure RootStands (d : Document) (name head tail : List Char) : Prop where
  text_eq : d.text.toList = head ++ tail
  root_eq : d.root = .tagged (byteLength head)
  opened : RootOpen name head
  closed : EndTag name tail

/-- With the end tag of the root behind it, all markups of such a text can be gone past. -/
theorem RootOpen.follow {name head tail : List Char} (h : RootOpen name head)
    (hEnd : EndTag name tail) :
    ∃ ts last, Scans 0 (head ++ tail) ts ∧ ({} : Outline).follow ts = .ok last := by
  obtain ⟨ts, o, hScan, hFollow, hNone, hUnclosed⟩ := h
  obtain ⟨stop, us, hTail, hRemarks⟩ := hEnd (0 + byteLength head)
  have hStep : o.step ⟨0 + byteLength head, stop, .closing name⟩ =
      .ok (o.closedAt (byteLength head)) := by
    simp [Outline.step, Outline.closedAt, hUnclosed, hNone]
  refine ⟨_, o.closedAt (byteLength head), hScan.append hTail, ?_⟩
  rw [Outline.follow_append_of_ok hFollow, Outline.follow_cons_of_ok hStep]
  exact Outline.follow_remarks _ hRemarks

/-- A byte order mark has no markup. -/
theorem scans_mark {mark body : List Char} (h : Marked mark body) (offset : Nat) :
    Scans offset mark [] := by
  refine Scans.text ?_
  rcases h.mark_eq with rfl | rfl <;> decide

/-- **A text cut at the end tag of its root is a document with its root just there.** -/
theorem RootEnd.stands {mark before blanks closing name : List Char} {o : Outline} {text : String}
    (h : RootEnd mark before blanks closing o) (hName : o.unclosed = [name])
    (hText : text.toList = mark ++ (before ++ blanks ++ closing)) :
    ∃ d, Document.parse text = .ok d ∧ d.items = o.items ∧
      RootStands d name (mark ++ (before ++ blanks)) closing := by
  obtain ⟨d, hParse, hItems, hRoot, -⟩ := h.parse hText
  obtain ⟨ts, hScan, hFollow⟩ := h.below
  obtain ⟨name', hUnclosed, hEnd⟩ := h.closes
  obtain rfl : name' = name := by
    rw [hUnclosed] at hName
    exact (List.cons.inj hName).1
  have hBlank : Scans (byteLength mark + byteLength before) blanks [] :=
    Scans.text fun hIn => (isText_of_isIndent (h.blank _ hIn)).1 rfl
  have hHead : Scans 0 (mark ++ (before ++ blanks)) ts := by
    have hBelow := hScan.append hBlank
    rw [List.append_nil] at hBelow
    exact (scans_mark h.marked 0).append (by rwa [Nat.zero_add])
  refine ⟨d, hParse, hItems, ?_, hRoot, ⟨ts, o, hHead, hFollow, h.rootUnknown, hUnclosed⟩, hEnd⟩
  rw [(Document.appended_parse hParse).2, hText, List.append_assoc, List.append_assoc,
    List.append_assoc]

/-! ## The tag of the root -/

/-- A text in parts: at most one byte order mark, what stands before the tag of a root that closes
itself, the tag, and what stands after it. -/
structure SingleRoot (mark before content after : List Char) : Prop where
  marked : Marked mark (before ++ '<' :: (content ++ '/' :: '>' :: after))
  remarksBefore : Remarks before
  tag : SingleTag content after
  remarksAfter : Remarks after

/-- The tag of a root that closes itself loses just its slash and the blanks before it. -/
theorem openTag_single {content rest : List Char} (h : SingleTag content rest) :
    Document.openTag ('<' :: (content ++ ['/', '>'])) = '<' :: trimmed content := by
  have hOnce : Document.dropTagEnds (content.reverse ++ ['<']) = content.reverse ++ ['<'] := by
    have hLast := h.getLast?_ne
    rw [← List.head?_reverse] at hLast
    unfold Document.dropTagEnds
    split
    · rename_i cs hText
      cases hContent : content.reverse with
      | nil => simp [hContent] at hText
      | cons c reversed =>
        rw [hContent] at hText hLast
        obtain ⟨rfl, -⟩ := List.cons.inj hText
        simp at hLast
    · rfl
  have hReverse : ('<' :: (content ++ ['/', '>'])).reverse =
      '>' :: '/' :: (content.reverse ++ ['<']) := by simp
  rw [Document.openTag, hReverse, Document.dropTagEnds, hOnce]
  rw [List.reverse_append, List.reverse_reverse]
  -- the bracket is no blank, so it stays whatever is left behind it
  have hStop : ∀ c ∈ ('<' :: trimmed content).getLast?, isBlank c = false := by
    intro c hc
    rw [List.getLast?_cons] at hc
    obtain rfl := Option.some.inj hc
    cases hLast : (trimmed content).getLast? with
    | none => rfl
    | some d => exact dropTrailing_getLast? content d hLast
  have hBlank : ∀ c ∈ trailing content, isBlank c = true := fun c => isBlank_of_mem_trailing
  have hTrim := (trailing_upTo hStop hBlank).1
  rwa [List.cons_append, trimmed_append_trailing] at hTrim

namespace SingleRoot

variable {mark before content after : List Char}

/-- What is left of the tag of the root, behind what stands before it. -/
def opened (before content : List Char) : List Char := before ++ '<' :: (trimmed content ++ ['>'])

/-- The end tag that is written for the root, before what stands after it. -/
def closed (content after : List Char) : List Char :=
  '<' :: '/' :: (nameOf content ++ '>' :: after)

/-- An end tag is written for the root exactly if no quote is open in its name. -/
theorem endTag_iff (h : SingleRoot mark before content after) :
    EndTag (nameOf content) (closed content after) ↔
      cutTag none (nameOf content ++ ['>']) = some (nameOf content, []) := by
  constructor
  · intro hEnd
    obtain ⟨stop, us, hScan, -⟩ := hEnd 0
    obtain ⟨r, vs, hRead, hTokens, -⟩ := hScan.read
    obtain ⟨-, -, hMarkup⟩ := Token.mk.inj (List.cons.inj hTokens).1
    exact cutTag_of_closing hRead hMarkup.symm
  · intro hCut
    have hRead : ∀ rest, readMarkup ('/' :: nameOf content ++ ['>'] ++ rest) =
        .ok ⟨.closing (nameOf content), '/' :: nameOf content ++ ['>'], rest⟩ :=
      fun rest => by simpa using readMarkup_closing (solid_nameOf content) hCut rest
    intro offset
    obtain ⟨us, hAfter, hRemarks⟩ :=
      h.remarksAfter (offset + byteLength ('<' :: ('/' :: nameOf content ++ ['>'])))
    have hTag := scans_markup offset hRead
    exact ⟨_, us, by simpa [closed] using hTag.append hAfter, hRemarks⟩

/-- What is left of the tag is read behind the remarks before it. -/
theorem follow_opened (h : SingleRoot mark before content after) (offset : Nat) :
    ∃ ts t, Scans offset (opened before content) ts ∧ t.markup = .ofTag (trimmed content) ∧
      ({} : Outline).follow ts = ({} : Outline).step t := by
  obtain ⟨ts, hBefore, hRemarks⟩ := h.remarksBefore offset
  have hRead : ∀ rest, readMarkup (trimmed content ++ ['>'] ++ rest) =
      .ok ⟨.ofTag (trimmed content), trimmed content ++ ['>'], rest⟩ :=
    fun rest => by simpa using h.tag.readMarkup_trimmed rest
  have hTag := scans_markup (offset + byteLength before) hRead
  have hFollow := Outline.follow_append_of_ok (Outline.follow_remarks {} hRemarks)
  exact ⟨_, _, hBefore.append hTag, rfl, (hFollow _).trans (Outline.follow_singleton _ _)⟩

/-- Without a slash at its end it opens the root. -/
theorem follow_open (h : SingleRoot mark before content after)
    (hSlash : (trimmed content).getLast? ≠ some '/') (offset : Nat) :
    ∃ ts, Scans offset (opened before content) ts ∧
      ({} : Outline).follow ts = .ok { unclosed := [nameOf (trimmed content)] } := by
  obtain ⟨ts, t, hScan, hMarkup, hFollow⟩ := h.follow_opened offset
  refine ⟨ts, hScan, ?_⟩
  rw [hFollow, Outline.step, hMarkup, h.tag.ofTag_open hSlash]
  rfl

/-- What is written begins as the text did. -/
theorem marked_opened (h : SingleRoot mark before content after) (rest : List Char) :
    Marked mark (opened before content ++ rest) := by
  refine ⟨h.marked.mark_eq, ?_⟩
  have hHead := h.marked.body_head
  cases before with
  | nil => simp [opened, byteOrderMark]
  | cons c cs => simpa [opened] using hHead

/-- **A tag that opens cleanly** leaves the root open, and the end tag that is written closes it. -/
theorem rootEnd (h : SingleRoot mark before content after) (hOpens : OpensCleanly content) :
    RootEnd mark (opened before content) [] (closed content after)
      { unclosed := [nameOf content] } where
  marked := by simpa using h.marked_opened (closed content after)
  unblank := by
    intro c hc
    obtain rfl : '>' = c := by simpa [opened, List.getLast?_append, List.getLast?_cons] using hc
    decide
  blank := by simp
  below := by
    rw [← hOpens.name]
    exact h.follow_open hOpens.slash (byteLength mark)
  rootUnknown := rfl
  closes := ⟨nameOf content, rfl, h.endTag_iff.2 hOpens.quotes⟩

/-- **What is left of a tag and the end tag that is written, around a content**: if these markups
can be gone past, the tag opens cleanly. Otherwise what is left of it closes itself, or it has
another name, or the end tag has. -/
theorem opensCleanly_of_follow (h : SingleRoot mark before content after) {block : Content}
    {offset : Nat} {ts : List Token} {last : Outline}
    (hScan : Scans offset (opened before content ++ (block.written ++ closed content after)) ts)
    (hFollow : ({} : Outline).follow ts = .ok last) : OpensCleanly content := by
  obtain ⟨us, t, hOpened, hMarkup, hOutline⟩ := h.follow_opened offset
  obtain ⟨vs, rfl, hInside⟩ := hOpened.rest hScan
  obtain ⟨ws, rfl, hClosed⟩ := (scans_content _ block).rest hInside
  -- what follows the block is an end tag, of whatever name
  obtain ⟨r, xs, hRead, rfl, -⟩ := hClosed.read
  obtain ⟨name, -, hClosing, -, -⟩ := closing_of_readMarkup hRead
  have hSlash : (trimmed content).getLast? ≠ some '/' := by
    intro hSlash
    -- with a slash left the root would be known already, and only remarks could follow
    rw [Outline.step, hMarkup, h.tag.ofTag_slash hSlash] at hOutline
    rw [Outline.follow_append_of_ok hOutline] at hFollow
    obtain ⟨-, hRemarks⟩ := Outline.follow_after_root rfl rfl hFollow
    have hRemark := hRemarks _ (List.mem_append_right _ (List.mem_cons_self ..))
    simp [hClosing] at hRemark
  rw [Outline.step, hMarkup, h.tag.ofTag_open hSlash] at hOutline
  rw [Outline.follow_append_of_ok hOutline,
    Outline.follow_append_of_ok (Outline.follow_content (by simp) _ block)] at hFollow
  -- so the end tag closes what is left of the tag
  obtain ⟨next, hStep, -⟩ := Outline.follow_cons_ok hFollow
  obtain rfl := Outline.name_of_closing rfl hClosing hStep
  exact opensCleanly_of_closing hSlash hRead hClosing

/-- **A root that is open behind what is left of its tag, and closed by the end tag that is
written**, comes from a tag that opens cleanly. -/
theorem opensCleanly_of_open (h : SingleRoot mark before content after)
    (hOpen : RootOpen (nameOf content) (mark ++ opened before content))
    (hEnd : EndTag (nameOf content) (closed content after)) : OpensCleanly content := by
  obtain ⟨ts, last, hScan, hFollow⟩ := hOpen.follow hEnd
  rw [List.append_assoc] at hScan
  obtain ⟨us, rfl, hBody⟩ := (scans_mark h.marked 0).rest hScan
  -- the content between both is empty here
  have hNothing : closed content after = Content.nil.written ++ closed content after := rfl
  rw [hNothing] at hBody
  exact h.opensCleanly_of_follow hBody hFollow

/-- **A text that reads back with a root of the same name** comes from a tag that opens cleanly. -/
theorem opensCleanly_of_stands (h : SingleRoot mark before content after) {block : Content}
    {d : Document} {head tail : List Char}
    (hText : d.text.toList =
      mark ++ (opened before content ++ block.written ++ closed content after))
    (hStands : RootStands d (nameOf content) head tail) : OpensCleanly content := by
  obtain ⟨ts, last, hScan, hFollow⟩ := hStands.opened.follow hStands.closed
  rw [← hStands.text_eq, hText, List.append_assoc (opened before content)] at hScan
  obtain ⟨us, rfl, hBody⟩ := (scans_mark h.marked 0).rest hScan
  exact h.opensCleanly_of_follow hBody hFollow

end SingleRoot

/-! ## Writing -/

/-- A document that was read from a text whose root closes itself. -/
structure SingleDocument (d : Document) (mark before content after : List Char) : Prop
    extends SingleRoot mark before content after where
  parsed : Document.parse d.text = .ok d
  text_eq : d.text.toList = mark ++ (before ++ '<' :: (content ++ '/' :: '>' :: after))
  root_eq : d.root = .selfClosing (byteLength (mark ++ before))
    (byteLength (mark ++ (before ++ '<' :: (content ++ ['/', '>'])))) (String.ofList (nameOf content))
  empty : d.items = []

/-- The line end and the groups that are written between the tags of the root. -/
def Document.groups (d : Document) (items : List ItemReference) : List Char :=
  d.lineEnding.text ++ items.flatMap (Document.groupText d.indent.toList d.lineEnding.text)

/-- Behind a bracket the groups begin a line. -/
theorem Document.groups_eq_blockAfter (d : Document) (mark before content : List Char)
    (items : List ItemReference) :
    d.groups items =
      blockAfter d.indent.toList d.lineEnding (mark ++ SingleRoot.opened before content) items := by
  have hLine : newLineAfter d.lineEnding (mark ++ SingleRoot.opened before content) =
      d.lineEnding.text := by
    simp [newLineAfter, SingleRoot.opened, List.getLast?_append, List.getLast?_cons]
  rw [blockAfter, hLine, Document.groups]

theorem Document.foldl_append (d : Document) (items : List ItemReference) :
    items.foldl Document.append d = d.appendAll items := by
  induction items generalizing d with
  | nil => simp [appendAll]
  | cons item items ih =>
    rw [List.foldl_cons, ih]
    simp [appendAll, append]

namespace SingleDocument

variable {d : Document} {mark before content after : List Char}

/-- **A document whose root closes itself is one such tag among remarks**, and says where it
stands. -/
theorem of_parse {text : String} {body : List Char} {start stop : Nat} {name : String}
    (hText : text.toList = mark ++ body) (hMarked : Marked mark body)
    (hParse : Document.parse text = .ok d) (hRoot : d.root = .selfClosing start stop name) :
    ∃ before content after, SingleDocument d mark before content after := by
  obtain ⟨ts, last, hScan, hFollow, -, hLast, hItems, -⟩ :=
    Document.follow_of_parse hText hMarked hParse
  obtain ⟨-, rfl⟩ := Document.appended_parse hParse
  rw [hRoot] at hLast
  obtain ⟨us, content, vs, rfl, hBefore, hAfter, rfl, rfl⟩ := Outline.follow_single hFollow hLast
  rw [Scans] at hScan
  obtain ⟨head, tail, r, rfl, hHead, hRead, hToken, hTokens, hFailure⟩ :=
    scan_split (congrArg Scan.tokens hScan)
  obtain ⟨hStart, hStop, hMarkup⟩ := Token.mk.inj hToken
  obtain ⟨rfl, hTaken, hTag⟩ := single_of_readMarkup hRead hMarkup.symm
  -- what is read behind the tag are its remarks and no fault
  have hRest : Scans stop r.rest vs := by
    have hNone : (scan stop r.rest).failure = none :=
      hFailure.trans (congrArg Scan.failure hScan)
    rw [Scans, ← hTokens, ← hNone]
  refine ⟨head, content, r.rest, {
    marked := hMarked
    remarksBefore := remarks_of_scan hHead hBefore
    tag := hTag
    remarksAfter := remarks_of_scan hRest hAfter
    parsed := hParse
    text_eq := hText
    root_eq := ?_
    empty := hItems.symm }⟩
  rw [hRoot, hStart, hStop, hTaken]
  simp only [byteLength_append, byteLength_cons, byteLength_nil]
  have hBracket : ('<' : Char).utf8Size = 1 := rfl
  rw [hBracket]
  congr 1
  omega

/-- What a content of groups needs of the indentation. -/
theorem plain_indent (h : SingleDocument d mark before content after) : '<' ∉ d.indent.toList :=
  fun hIn => (isText_of_isIndent (Document.isIndent_indent h.parsed _ hIn)).1 rfl

/-- The groups of items as a content. -/
theorem groups_eq_written (h : SingleDocument d mark before content after)
    (items : List ItemReference) :
    d.groups items = (Content.text d.lineEnding.text (lineEnding_plain d.lineEnding)
      (groupsContent h.plain_indent d.lineEnding items)).written := by
  rw [Content.written, written_groupsContent, Document.groups]

/-- **What is written for appended items** is the text with the slash of the root's tag and the
blanks before it left away, and the groups and an end tag put in behind the bracket. -/
theorem render_append (h : SingleDocument d mark before content after) {items : List ItemReference}
    (hSome : items ≠ []) :
    (d.appendAll items).render = .ok (String.ofList
      (mark ++ (SingleRoot.opened before content ++ d.groups items ++
        SingleRoot.closed content after))) := by
  obtain ⟨hNone, -⟩ := Document.appended_parse h.parsed
  have hAppended : (d.appendAll items).appended = items := by simp [Document.appendAll, hNone]
  -- both cuts are where the tag begins and ends
  have hText : d.text.toList =
      (mark ++ before) ++ (('<' :: (content ++ ['/', '>'])) ++ after) := by
    rw [h.text_eq]
    simp
  have hStart := splitAtByte_append (mark ++ before) (('<' :: (content ++ ['/', '>'])) ++ after)
  have hStop := splitAtByte_append ('<' :: (content ++ ['/', '>'])) after
  have hLength : byteLength (mark ++ (before ++ '<' :: (content ++ ['/', '>']))) -
      byteLength (mark ++ before) = byteLength ('<' :: (content ++ ['/', '>'])) := by
    simp only [byteLength_append]
    omega
  rw [Document.render, hAppended, if_neg hSome, show (d.appendAll items).root = _ from h.root_eq]
  simp only [show (d.appendAll items).text = d.text from rfl, hText, hStart, hLength, hStop,
    openTag_single h.tag, Document.groupsText, hAppended, String.toList_ofList]
  simp [SingleRoot.opened, SingleRoot.closed, Document.groups, Document.appendAll]

/-- **A tag that opens cleanly takes the groups between its tags**, and they are its items. -/
theorem rootEnd_groups (h : SingleDocument d mark before content after)
    (hOpens : OpensCleanly content) {items : List ItemReference} (hSome : items ≠ []) :
    ∃ o, RootEnd mark (SingleRoot.opened before content ++ d.groups items) []
        (SingleRoot.closed content after) o ∧ o.items = items ∧ o.unclosed = [nameOf content] := by
  rw [d.groups_eq_blockAfter mark before content]
  exact ⟨_, (h.rootEnd hOpens).insert_block (Document.isIndent_indent h.parsed) d.lineEnding hSome,
    rfl, rfl⟩

/-- What is written reads back with the items, under a root of the same name. -/
theorem reads_back (h : SingleDocument d mark before content after) (hOpens : OpensCleanly content)
    {items : List ItemReference} (hSome : items ≠ []) :
    ∃ written d', (d.appendAll items).render = .ok written ∧ Document.parse written = .ok d' ∧
      d'.items = items ∧ ∃ head tail, RootStands d' (nameOf content) head tail := by
  obtain ⟨o, hEnd, hItems, hName⟩ := h.rootEnd_groups hOpens hSome
  have hRender := h.render_append hSome
  have hText : (String.ofList (mark ++ (SingleRoot.opened before content ++ d.groups items ++
      SingleRoot.closed content after))).toList =
      mark ++ ((SingleRoot.opened before content ++ d.groups items) ++ [] ++
        SingleRoot.closed content after) := by
    simp
  obtain ⟨d', hParse, hFound, hStands⟩ := hEnd.stands hName hText
  exact ⟨_, d', hRender, hParse, hFound.trans hItems, _, _, hStands⟩

/-- A registration opens the root, and the next one of the folder changes nothing. -/
theorem patched_twice (h : SingleDocument d mark before content after)
    (hOpens : OpensCleanly content) {tree : FileTree} {path : Path} (hFile : Holds tree path d)
    (folder : String) :
    ∃ next, patched path tree folder = (.ok ⟨true, true⟩, next) ∧
      patched path next folder = (.ok ⟨false, false⟩, next) := by
  -- without items the folder lacks one of each kind
  have hNone : ∀ kind, d.hasReference kind folder = false := by
    intro kind
    rw [Document.hasReference, h.empty]
    rfl
  have hLacks : d.lacking folder ≠ [] := by
    rw [ne_eq, Document.lacking_eq_nil_iff]
    intro hAll
    simpa [hNone] using hAll .page
  have hOutcome : d.lackingOutcome folder = ⟨true, true⟩ := by
    simp [Document.lackingOutcome, hNone]
  obtain ⟨o, hEnd, hItems, -⟩ := h.rootEnd_groups hOpens hLacks
  have hRender := h.render_append hLacks
  obtain ⟨next, hRun, hRead, -⟩ := hFile.patched_of_render hRender
  have hWritten : (String.ofList (mark ++ (SingleRoot.opened before content ++
      d.groups (d.lacking folder) ++ SingleRoot.closed content after))).toList =
      mark ++ ((SingleRoot.opened before content ++ d.groups (d.lacking folder)) ++ [] ++
        SingleRoot.closed content after) := by
    simp
  obtain ⟨d', hParse, hFound, -⟩ := hEnd.parse hWritten
  obtain ⟨-, hText⟩ := Document.appended_parse hParse
  have hPatchable : Patchable next path mark
      (SingleRoot.opened before content ++ d.groups (d.lacking folder)) []
      (SingleRoot.closed content after) d' :=
    { holds := ⟨by rw [hRead, hText], by rw [hText, hParse]⟩
      text_eq := by rw [hText]; simp
      ends := ⟨o, hEnd⟩ }
  refine ⟨next, by rw [hRun, hOutcome], hPatchable.patched_of_hasReference ?_⟩
  intro kind
  refine Document.hasReference_of_lacking (d := d) ?_ kind
  rw [hFound, hItems, h.empty, List.nil_append]

end SingleDocument

/-- **What appending items does to a document whose root closes itself.** The text is kept before
and behind the tag of the root; the tag loses its slash and the blanks before it, which keeps its
attributes; and an end tag of its name is written. The items are read back, under a root of the
same name, and registering a folder twice does what registering it once does, exactly if the tag
opens cleanly. -/
theorem expand_selfClosing {text : String} {d : Document} {start stop : Nat} {name : String}
    (hMarks : ¬ [byteOrderMark, byteOrderMark] <+: text.toList)
    (hParse : Document.parse text = .ok d) (hRoot : d.root = .selfClosing start stop name) :
    ∃ before content after,
      text.toList = before ++ '<' :: (content ++ '/' :: '>' :: after) ∧
      byteLength before = start ∧ byteLength (before ++ '<' :: (content ++ ['/', '>'])) = stop ∧
      SingleTag content after ∧ name = String.ofList (nameOf content) ∧ d.items = [] ∧
      (attributesOf (trimmed content)).attributes = (attributesOf content).attributes ∧
      (∀ items ≠ [], (items.foldl Document.append d).render = .ok (String.ofList
        (before ++ '<' :: (trimmed content ++ '>' :: (d.groups items ++
          '<' :: '/' :: (nameOf content ++ '>' :: after)))))) ∧
      (OpensCleanly content ↔
        (∀ items ≠ [], ∃ written d', (items.foldl Document.append d).render = .ok written ∧
          Document.parse written = .ok d' ∧ d'.items = items ∧
          ∃ head tail, RootStands d' (nameOf content) head tail) ∧
        ∀ tree path folder, Holds tree path d → ∃ next,
          patched path tree folder = (.ok ⟨true, true⟩, next) ∧
          patched path next folder = (.ok ⟨false, false⟩, next)) := by
  obtain ⟨mark, body, hText, hMarked⟩ := exists_marked hMarks
  obtain ⟨-, rfl⟩ := Document.appended_parse hParse
  obtain ⟨before, content, after, h⟩ := SingleDocument.of_parse hText hMarked hParse hRoot
  obtain ⟨hStart, hStop, hName⟩ := RootElement.selfClosing.inj (hRoot.symm.trans h.root_eq)
  simp only [Document.foldl_append]
  refine ⟨mark ++ before, content, after, by rw [h.text_eq, List.append_assoc], hStart.symm,
    by rw [hStop, List.append_assoc], h.tag, hName, h.empty, attributes_trimmed content, ?_, ?_⟩
  · intro items hSome
    rw [h.render_append hSome]
    simp [SingleRoot.opened, SingleRoot.closed]
  · constructor
    · intro hOpens
      exact ⟨fun items hSome => h.reads_back hOpens hSome,
        fun tree path folder hFile => h.patched_twice hOpens hFile folder⟩
    · rintro ⟨hReads, -⟩
      -- one item shows what is left of the tag
      obtain ⟨written, d', hRender, hAgain, -, head, tail, hStands⟩ :=
        hReads [⟨.page, ""⟩] (by simp)
      obtain rfl := Except.ok.inj ((h.render_append (by simp)).symm.trans hRender)
      have hText : d'.text.toList = mark ++ (SingleRoot.opened before content ++
          (Content.text d.lineEnding.text (lineEnding_plain d.lineEnding)
            (groupsContent h.plain_indent d.lineEnding [⟨.page, ""⟩])).written ++
          SingleRoot.closed content after) := by
        rw [(Document.appended_parse hAgain).2, ← h.groups_eq_written, String.toList_ofList]
      exact h.opensCleanly_of_stands hText hStands

/-- A project whose root closes itself. -/
def singleProject : Document where
  text := "<Project Sdk=\"Sdk\" />"
  found := []
  root := .selfClosing 0 21 "Project"
  lineEnding := .feed
  indent := "  "

theorem parse_singleProject : Document.parse singleProject.text = .ok singleProject := by cbv

theorem expand_selfClosing_project :
    ¬ [byteOrderMark, byteOrderMark] <+: singleProject.text.toList ∧
      Document.parse singleProject.text = .ok singleProject ∧
      singleProject.root = .selfClosing 0 21 "Project" ∧
      ∀ items ≠ [], ∃ written d', (items.foldl Document.append singleProject).render = .ok written ∧
        Document.parse written = .ok d' ∧ d'.items = items ∧
        ∃ head tail, RootStands d' "Project".toList head tail := by
  have hMarks : ¬ [byteOrderMark, byteOrderMark] <+: singleProject.text.toList := by decide
  obtain ⟨before, content, after, hText, hStart, hStop, -, -, -, -, -, hIff⟩ :=
    expand_selfClosing hMarks parse_singleProject rfl
  -- the tag is the whole text, since it begins and ends where the text does
  have hEmpty : ∀ {cs : List Char}, byteLength cs = 0 → cs = [] := by
    intro cs hLength
    cases cs with
    | nil => rfl
    | cons c cs =>
      have hPositive := c.utf8Size_pos
      rw [byteLength_cons] at hLength
      omega
  obtain rfl := hEmpty hStart
  have hWhole : byteLength singleProject.text.toList = 21 := by decide
  have hSplit : singleProject.text.toList = ('<' :: (content ++ ['/', '>'])) ++ after := by
    rw [hText]
    simp
  rw [hSplit, byteLength_append] at hWhole
  rw [List.nil_append] at hStop
  obtain rfl : after = [] := hEmpty (by omega)
  have hContent : "Project Sdk=\"Sdk\" ".toList ++ ['/', '>'] = content ++ ['/', '>'] := by
    rw [List.append_nil] at hSplit
    exact (List.cons.inj hSplit).2
  obtain rfl := List.append_cancel_right hContent
  refine ⟨hMarks, parse_singleProject, rfl, ?_⟩
  exact (hIff.1 ⟨by decide, by decide, by decide⟩).1

/-- A root whose name ends in a blank of Unicode that is none of markup. -/
def blankNamed : Document where
  text := "<Project\u1680/>"
  found := []
  root := .selfClosing 0 13 "Project\u1680"
  lineEnding := .feed
  indent := "  "

/-- Its start tag loses the blank and its end tag does not, so what is written is no document. -/
theorem expand_selfClosing_blankNamed :
    Document.parse blankNamed.text = .ok blankNamed ∧
      ∃ written, (blankNamed.append ⟨.page, "G\\*.xaml"⟩).render = .ok written ∧
        Document.parse written = .error (.ill ⟨71, .closedByOther
          ['P', 'r', 'o', 'j', 'e', 'c', 't'] ['P', 'r', 'o', 'j', 'e', 'c', 't', '\u1680']⟩) :=
  ⟨by cbv, _, by cbv, by cbv⟩

end ScriptWindows.Manifest
