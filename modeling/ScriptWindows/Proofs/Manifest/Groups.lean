import ScriptWindows.Proofs.Manifest.RootEnds

/-!
# What a registration writes

Registering a folder appends the items it lacks, and each appended item is written as a group of
its own. A group is a content like any other, so it reads back as the one item it was made from,
whatever the name of the folder is.

Main results:

* `register_eq`: a registration appends an item for each kind that lacks one, and nothing else.
* `itemsOf_groupsContent`: the groups of items read back as these items.
* `RootEnd.render_append`: a document with items appended is written as the old text with one
  content put in before its end tag, and reads back with the items behind all others.
-/

namespace ScriptWindows.Manifest

open Text Xml

/-! ## Registering -/

namespace Document

/-- The item of a kind that a document lacks for a folder, if it lacks one. -/
def lackingOf (d : Document) (folder : String) (kind : ItemKind) : List ItemReference :=
  if d.hasReference kind folder then [] else [⟨kind, kind.pattern folder⟩]

/-- The items that a document lacks for a folder: one of each kind of which no item names it. -/
def lacking (d : Document) (folder : String) : List ItemReference :=
  ItemKind.all.flatMap (d.lackingOf folder)

/-- What a document lacks is the pattern of each kind that has no reference to the folder. -/
theorem mem_lacking {d : Document} {folder : String} {item : ItemReference} :
    item ∈ d.lacking folder ↔
      d.hasReference item.kind folder = false ∧ item.files = item.kind.pattern folder := by
  have hAll : ∀ kind, kind ∈ ItemKind.all := by
    intro kind
    cases kind <;> decide
  rw [lacking, List.mem_flatMap]
  constructor
  · rintro ⟨kind, -, hIn⟩
    rw [lackingOf] at hIn
    split at hIn
    · simp at hIn
    · rename_i hLacks
      obtain rfl := List.mem_singleton.1 hIn
      exact ⟨Bool.eq_false_iff.2 hLacks, rfl⟩
  · rintro ⟨hLacks, hFiles⟩
    refine ⟨item.kind, hAll _, ?_⟩
    rw [lackingOf, hLacks, ← hFiles]
    exact List.mem_singleton.2 rfl

/-- Nothing lacks for a folder that is referenced by items of both kinds. -/
theorem lacking_eq_nil_iff {d : Document} {folder : String} :
    d.lacking folder = [] ↔ ∀ kind, d.hasReference kind folder = true := by
  rw [List.eq_nil_iff_forall_not_mem]
  constructor
  · intro h kind
    have hNone := h ⟨kind, kind.pattern folder⟩
    rw [mem_lacking] at hNone
    simpa using hNone
  · intro h item hIn
    rw [mem_lacking, h item.kind] at hIn
    simp at hIn

/-- At most one item of each kind lacks. -/
theorem lacking_kinds (d : Document) (folder : String) (kind : ItemKind) :
    ((d.lacking folder).filter (·.kind == kind)).length ≤ 1 := by
  -- each kind gives at most one item, and only of this kind
  have hOf : ∀ other, (d.lackingOf folder other).filter (·.kind == kind) =
      if other = kind then d.lackingOf folder other else [] := by
    intro other
    rw [lackingOf]
    split <;> simp [List.filter_cons]
  have hLength : ∀ other, (d.lackingOf folder other).length ≤ 1 := by
    intro other
    rw [lackingOf]
    split <;> simp
  simp only [lacking, ItemKind.all, List.flatMap_cons, List.flatMap_nil, List.append_nil,
    List.filter_append, hOf]
  cases kind with
  | page => simpa using hLength .page
  | compile => simpa using hLength .compile

/-- The outcome that says of which kinds an item lacked. -/
def lackingOutcome (d : Document) (folder : String) : PatchOutcome :=
  ⟨!d.hasReference .page folder, !d.hasReference .compile folder⟩

/-- What a folder lacks depends on nothing but the kinds of item that reference it. -/
theorem lacking_of_hasReference {d d' : Document} {folder : String}
    (h : ∀ kind, d.hasReference kind folder = d'.hasReference kind folder) :
    d.lacking folder = d'.lacking folder ∧ d.lackingOutcome folder = d'.lackingOutcome folder := by
  have hOf : d.lackingOf folder = d'.lackingOf folder := by
    funext kind
    rw [lackingOf, h, lackingOf]
  constructor
  · rw [lacking, hOf, lacking]
  · rw [lackingOutcome, h, h, lackingOutcome]

/-- Something is changed exactly if something was lacking. -/
theorem changed_lackingOutcome (d : Document) (folder : String) :
    (d.lackingOutcome folder).changed = true ↔ d.lacking folder ≠ [] := by
  rw [lackingOutcome, PatchOutcome.changed, lacking]
  simp only [ItemKind.all, List.flatMap_cons, List.flatMap_nil, lackingOf]
  cases d.hasReference .page folder <;> cases d.hasReference .compile folder <;> simp

/-- A document with more items appended. -/
def appendAll (d : Document) (items : List ItemReference) : Document :=
  { d with appended := d.appended ++ items }

theorem appendAll_nil (d : Document) : d.appendAll [] = d := by
  simp [appendAll]

/-- Appended items stand behind those that were found. -/
theorem items_appendAll (d : Document) (items : List ItemReference) :
    (d.appendAll items).items = d.items ++ items := by
  simp [Document.items, appendAll]

/-- Items that are appended in two parts are appended together. -/
theorem appendAll_appendAll (d : Document) (first last : List ItemReference) :
    (d.appendAll first).appendAll last = d.appendAll (first ++ last) := by
  simp [appendAll]

/-- A folder is referred to if it was, or if an appended item refers to it. -/
theorem hasReference_appendAll (d : Document) (items : List ItemReference) (kind : ItemKind)
    (folder : String) :
    (d.appendAll items).hasReference kind folder =
      (d.hasReference kind folder || items.any (·.references kind folder)) := by
  rw [hasReference, items_appendAll, List.any_append, hasReference]

/-- To make sure of a reference is to append what is lacking of that kind. -/
theorem ensure_eq (d : Document) (kind : ItemKind) (folder : String) :
    d.ensure kind folder = d.appendAll (d.lackingOf folder kind) := by
  rw [ensure, lackingOf]
  split
  · simp [appendAll]
  · rfl

/-- What lacks of one kind does not depend on whether items of the other were appended. -/
theorem lackingOf_appendAll_of_ne (d : Document) (folder : String) {kind other : ItemKind}
    (h : kind ≠ other) :
    (d.appendAll (d.lackingOf folder kind)).hasReference other folder =
      d.hasReference other folder := by
  have hNone : (d.lackingOf folder kind).any (·.references other folder) = false := by
    rw [lackingOf]
    split
    · rfl
    · simp [ItemReference.references, h]
  rw [hasReference_appendAll, hNone, Bool.or_false]

/-- **A registration appends what lacks**, and says of which kinds that was. -/
theorem register_eq (d : Document) (folder : String) :
    d.register folder = (d.lackingOutcome folder, d.appendAll (d.lacking folder)) := by
  -- the second check sees the item of the first kind, which makes no difference to it
  have hOther : (d.ensure .page folder).hasReference .compile folder =
      d.hasReference .compile folder := by
    rw [ensure_eq]
    exact lackingOf_appendAll_of_ne d folder (by decide)
  rw [register, hOther, ensure_eq _ .compile, lackingOf, hOther, ← lackingOf, ensure_eq]
  simp [lackingOutcome, lacking, appendAll, ItemKind.all]

/-- A folder is referenced once the items it lacks are there. -/
theorem hasReference_of_lacking {d after : Document} {folder : String}
    (h : after.items = d.items ++ d.lacking folder) (kind : ItemKind) :
    after.hasReference kind folder = true := by
  rw [hasReference, h, List.any_append]
  -- the folder was referenced before, or it lacked just this item
  cases hHas : d.hasReference kind folder with
  | true =>
    rw [hasReference] at hHas
    rw [hHas, Bool.true_or]
  | false =>
    have hIn : (⟨kind, kind.pattern folder⟩ : ItemReference) ∈ d.lacking folder :=
      mem_lacking.2 ⟨hHas, rfl⟩
    have hAny : (d.lacking folder).any (·.references kind folder) = true :=
      List.any_eq_true.2 ⟨_, hIn, references_pattern kind folder⟩
    rw [hAny, Bool.or_true]

/-- A reference that was there is still there behind more items. -/
theorem hasReference_of_append {d after : Document} {more : List ItemReference}
    (h : after.items = d.items ++ more) {kind : ItemKind} {folder : String}
    (hHas : d.hasReference kind folder = true) : after.hasReference kind folder = true := by
  rw [hasReference] at hHas ⊢
  rw [h, List.any_append, hHas, Bool.true_or]

end Document

/-! ## Groups -/

def includeName : Name where
  own := includeKey
  named := List.all_eq_true.1 (by decide)
  noColon := by decide
  nonempty := by decide

def groupTag : Tag where
  name := {
    own := "ItemGroup".toList
    named := List.all_eq_true.1 (by decide)
    noColon := by decide
    nonempty := by decide }

/-- The tag an item is written as. -/
def itemTag (item : ItemReference) : Tag where
  name := {
    own := item.kind.elementName.toList
    named := List.all_eq_true.1 (by cases item.kind <;> decide)
    noColon := by cases item.kind <;> decide
    nonempty := by cases item.kind <;> decide }
  attributes := [{ name := includeName, value := item.files.toList }]
  gap := [' ']
  distinct := by simp

/-- The tag of an item is read back as that item. -/
theorem ofElement?_itemTag (item : ItemReference) :
    ItemReference.ofElement? (itemTag item) = some item := by
  obtain ⟨kind, files⟩ := item
  have hKind : ItemKind.all.find? (·.elementName.toList == kind.elementName.toList) = some kind := by
    cases kind <;> decide
  have hOwn : (itemTag ⟨kind, files⟩).name.own = kind.elementName.toList := rfl
  have hAttributes : (itemTag ⟨kind, files⟩).attributes =
      [{ name := includeName, value := files.toList }] := rfl
  -- the only attribute is the one that is looked for
  have hInclude : (includeName.own == "Include".toList) = true := by decide
  rw [ItemReference.ofElement?, hOwn, hKind, hAttributes, Option.bind_some, List.find?_cons,
    hInclude]
  simp

theorem lineEnding_plain (ending : LineEnding) : '<' ∉ ending.text := by
  cases ending <;> decide

section
variable {indent : List Char} (hPlain : '<' ∉ indent) (ending : LineEnding)

/-- The lines of a group as a content. -/
def groupContent (item : ItemReference) : Content :=
  .text indent hPlain <|
    .element groupTag
      (.text (ending.text ++ indent ++ indent) (by simp [hPlain, lineEnding_plain ending]) <|
        .single (itemTag item) <|
          .text (ending.text ++ indent) (by simp [hPlain, lineEnding_plain ending]) .nil) <|
      .text ending.text (lineEnding_plain ending) .nil

/-- A group as a content is written as its text. -/
theorem written_groupContent (item : ItemReference) :
    (groupContent hPlain ending item).written =
      Document.groupText indent ending.text item := by
  simp [groupContent, Content.written, Document.groupText, Tag.openText, Tag.singleText,
    Tag.closeText, Tag.inside, groupTag, itemTag, WrittenAttribute.text, Name.text, includeName,
    includeKey]

/-- The groups of items, one behind another. -/
def groupsContent : List ItemReference → Content
  | [] => .nil
  | item :: rest => (groupContent hPlain ending item).append (groupsContent rest)

/-- So are several groups. -/
theorem written_groupsContent (items : List ItemReference) :
    (groupsContent hPlain ending items).written =
      items.flatMap (Document.groupText indent ending.text) := by
  induction items with
  | nil => rfl
  | cons item rest ih =>
    rw [groupsContent, Content.written_append, written_groupContent, ih, List.flatMap_cons]

/-- **The groups of items read back as these items.** -/
theorem itemsOf_groupsContent (items : List ItemReference) :
    itemsOf (groupsContent hPlain ending items) = items := by
  induction items with
  | nil => rfl
  | cons item rest ih =>
    have hGroup : ItemReference.ofElement? groupTag = none := by decide
    rw [groupsContent, itemsOf_append, ih, groupContent]
    simp [itemsOf, hGroup, ofElement?_itemTag]

end

/-! ## Writing -/

theorem getLast?_lineEnding (ending : LineEnding) : ending.text.getLast? = some '\n' := by
  cases ending <;> rfl

/-- The text of groups ends with a line end. -/
theorem getLast?_groups (indent : List Char) (ending : LineEnding) {items : List ItemReference}
    (h : items ≠ []) :
    (items.flatMap (Document.groupText indent ending.text)).getLast? = some '\n' := by
  induction items with
  | nil => contradiction
  | cons item rest ih =>
    rw [List.flatMap_cons, List.getLast?_append]
    cases rest with
    | nil =>
      simp only [Document.groupText, List.getLast?_append, getLast?_lineEnding, List.flatMap_nil]
      rfl
    | cons next others =>
      rw [ih (by simp)]
      rfl

/-- What goes in front of a line that begins behind a text: nothing if the text ends a line. -/
def newLineAfter (ending : LineEnding) (cs : List Char) : List Char :=
  if cs.getLast? = some '\n' then [] else ending.text

/-- No markup begins in a line end. -/
theorem newLineAfter_plain (ending : LineEnding) (cs : List Char) :
    '<' ∉ newLineAfter ending cs := by
  unfold newLineAfter
  split
  · simp
  · exact lineEnding_plain ending

/-- The groups of items behind a text, on lines of their own. -/
def blockAfter (indent : List Char) (ending : LineEnding) (cs : List Char)
    (items : List ItemReference) : List Char :=
  newLineAfter ending cs ++ items.flatMap (Document.groupText indent ending.text)

/-- The last group ends its line. -/
theorem getLast?_blockAfter (indent : List Char) (ending : LineEnding) (cs : List Char)
    {items : List ItemReference} (h : items ≠ []) :
    (blockAfter indent ending cs items).getLast? = some '\n' := by
  rw [blockAfter, List.getLast?_append, getLast?_groups _ _ h]
  rfl

/-- A block of items is not empty. -/
theorem blockAfter_ne_nil (indent : List Char) (ending : LineEnding) (cs : List Char)
    {items : List ItemReference} (h : items ≠ []) : blockAfter indent ending cs items ≠ [] := by
  intro hNil
  have hLast := getLast?_blockAfter indent ending cs h
  rw [hNil] at hLast
  contradiction

namespace RootEnd

variable {mark before blanks closing : List Char} {o : Outline}

/-- Appended items are written right behind what stands before the blanks of the end tag. -/
theorem render_block {text : String} {d : Document} (h : RootEnd mark before blanks closing o)
    (hText : text.toList = mark ++ (before ++ blanks ++ closing)) (hSame : d.text = text)
    (hRoot : d.root = .tagged (byteLength (mark ++ (before ++ blanks)))) (hNone : d.appended = [])
    {items : List ItemReference} (hSome : items ≠ []) :
    (d.appendAll items).render =
      .ok (String.ofList (mark ++ (before ++
        blockAfter d.indent.toList d.lineEnding (mark ++ before) items ++ blanks ++ closing))) := by
  have hAppended : (d.appendAll items).appended = items := by simp [Document.appendAll, hNone]
  -- the offset of the root's end tag is where the text was cut
  have hCut : splitAtByte (byteLength (mark ++ (before ++ blanks)))
      (d.appendAll items).text.toList = some (mark ++ (before ++ blanks), closing) := by
    have hWhole := splitAtByte_append (mark ++ (before ++ blanks)) closing
    rw [show (d.appendAll items).text = text from hSame, hText]
    rwa [List.append_assoc] at hWhole
  obtain ⟨hBefore, hBlanks⟩ := trailing_upTo h.unblank_mark h.blank
  rw [List.append_assoc] at hBefore hBlanks
  rw [Document.render, hAppended, if_neg hSome, show (d.appendAll items).root = _ from hRoot]
  simp only [hCut, hBefore, hBlanks, Document.groupsText, hAppended]
  simp [blockAfter, newLineAfter, Document.appendAll]

/-- **The groups of items can be put in before the end tag**, and are the first children if there
was none. -/
theorem insert_block (h : RootEnd mark before blanks closing o) {indent : List Char}
    (hBlank : ∀ c ∈ indent, Document.isIndent c = true) (ending : LineEnding)
    {items : List ItemReference} (hSome : items ≠ []) :
    RootEnd mark (before ++ blockAfter indent ending (mark ++ before) items) blanks closing
      (o.withContent items (some
        (byteLength (mark ++ before ++ newLineAfter ending (mark ++ before) ++ indent)))) := by
  -- an indentation of blanks begins no markup, so the groups are a content
  have hPlain : '<' ∉ indent := fun hIn => (isText_of_isIndent (hBlank _ hIn)).1 rfl
  have hBlock : (Content.text _ (newLineAfter_plain ending (mark ++ before))
      (groupsContent hPlain ending items)).written =
        blockAfter indent ending (mark ++ before) items := by
    rw [Content.written, written_groupsContent, blockAfter]
  have hInsert := h.insert (.text _ (newLineAfter_plain ending (mark ++ before))
    (groupsContent hPlain ending items)) (by
      -- no blank at its end can indent the tag
      rw [hBlock, getLast?_blockAfter _ _ _ hSome]
      rintro x ⟨⟩
      decide)
  rw [hBlock, itemsOf, itemsOf_groupsContent] at hInsert
  obtain ⟨item, rest, rfl⟩ := List.exists_cons_of_ne_nil hSome
  simpa [groupsContent, groupContent, Content.append, Content.firstElement, byteLength_append,
    Nat.add_assoc] using hInsert

/-- **What was appended to a document is put in as one block before its end tag**, and reads
back behind all other items. -/
theorem render_append {text : String} {d : Document} (h : RootEnd mark before blanks closing o)
    (hText : text.toList = mark ++ (before ++ blanks ++ closing))
    (hParse : Document.parse text = .ok d) (items : List ItemReference) :
    ∃ block o', (d.appendAll items).render =
        .ok (String.ofList (mark ++ (before ++ block ++ blanks ++ closing))) ∧
      RootEnd mark (before ++ block) blanks closing o' ∧ o'.items = d.items ++ items ∧
      (block = [] ↔ items = []) := by
  obtain ⟨hNone, hSame⟩ := Document.appended_parse hParse
  obtain ⟨d', hAgain, hItems, hRoot, hIndent⟩ := h.parse hText
  obtain rfl : d = d' := Except.ok.inj (hParse.symm.trans hAgain)
  by_cases hSome : items = []
  · subst hSome
    refine ⟨[], o, ?_, by rwa [List.append_nil], by rw [hItems, List.append_nil], by simp⟩
    rw [Document.appendAll_nil, Document.render_of_nothing_appended hNone, List.append_nil, ← hText]
    exact congrArg Except.ok (hSame.trans String.ofList_toList.symm)
  · refine ⟨_, _, h.render_block hText hSame hRoot hNone hSome,
      h.insert_block hIndent d.lineEnding hSome, by rw [hItems]; rfl, ?_⟩
    exact iff_of_false (blockAfter_ne_nil _ _ _ hSome) hSome

end RootEnd

end ScriptWindows.Manifest
