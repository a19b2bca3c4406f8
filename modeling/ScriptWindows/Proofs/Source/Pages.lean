import Mathlib
import ScriptWindows.Source.Page
import ScriptWindows.Proofs.Files.Rejections
import ScriptWindows.Proofs.Manifest.WrittenTrees
import ScriptWindows.Proofs.Xml.Elements

/-!
# Pages read back

The page of a window is put together as text. It is the text of a tree of elements, with the class,
the message and the font size as values that are escaped like any other. So it is a document without
items whatever these hold, the readers of markup and of attributes get them back, and two windows
with the same page are the same.

Main results:

* `Page.text_tree`: the page as text is that of its tree.
* `Page.elements?_render`: the elements of a page, with the values that the window has.
* `Page.tells_window`: every page can be written, is a document, and tells its window.
-/

namespace ScriptWindows

open Manifest Xml

/-! ## Names -/

/-- A name without a prefix. -/
def Xml.Name.plain (own : String)
    (named : (own.toList.all fun c => isNameChar c && c != ':') = true := by decide)
    (nonempty : own.toList ≠ [] := by decide) : Name where
  pre := none
  own := own.toList
  named := fun c (hc : c ∈ own.toList) => (Bool.and_eq_true_iff.1 (List.all_eq_true.1 named c hc)).1
  noColon := fun (hc : ':' ∈ own.toList) => absurd (List.all_eq_true.1 named ':' hc) (by decide)
  nonempty := fun _ => nonempty

/-- A name behind a prefix. -/
def Xml.Name.prefixed (pre own : String)
    (named : ((pre.toList ++ own.toList).all isNameChar) = true := by decide)
    (noColon : ':' ∉ pre.toList := by decide) : Name where
  pre := some pre.toList
  own := own.toList
  named := List.all_eq_true.1 named
  noColon := noColon
  nonempty := nofun

@[simp] theorem Xml.Name.text_plain {own : String} {named} {nonempty} :
    (plain own named nonempty).text = own.toList := rfl

@[simp] theorem Xml.Name.text_prefixed {pre own : String} {named} {noColon} :
    (prefixed pre own named noColon).text = (pre ++ ":" ++ own).toList := by
  simp [prefixed, text]

namespace Source.Page

/-! ## The tree of a page -/

-- what a tag and its attributes have to show of their blanks, quotes and names

theorem blank_gap : [' '] ≠ [] ∧ ∀ c ∈ [' '], isSpace c = true := by simp [isSpace]

theorem blank_noGap : ∀ c ∈ [], isSpace c = true := by simp

theorem quoted_double : '"' = '"' ∨ '"' = '\'' := .inl rfl

theorem distinct_none : (([] : List WrittenAttribute).map (·.name.text)).Nodup := .nil

/-- An attribute of a page, written with one blank and in double quotes. -/
def written (name : Name) (value : String) : WrittenAttribute where
  name := name
  value := value.toList
  blank := blank_gap
  quoted := quoted_double

/-- The outermost tag: the window with its class. -/
def windowTag (p : Page) : Tag where
  name := .plain "Window"
  attributes :=
    [written (.prefixed "x" "Class") p.className,
     written (.plain "xmlns") "http://schemas.microsoft.com/winfx/2006/xaml/presentation",
     written (.prefixed "xmlns" "x") "http://schemas.microsoft.com/winfx/2006/xaml"]
  distinct := by
    show ["x:Class".toList, "xmlns".toList, "xmlns:x".toList].Nodup
    decide
  blank := blank_noGap

/-- What holds the text in its middle. -/
def gridTag : Tag where
  name := .plain "Grid"
  distinct := distinct_none
  blank := blank_noGap

/-- The one text of the window: its message and how large it is. -/
def blockTag (p : Page) : Tag where
  name := .plain "TextBlock"
  attributes :=
    [written (.plain "Text") p.message,
     written (.plain "HorizontalAlignment") "Center",
     written (.plain "VerticalAlignment") "Center",
     written (.plain "FontSize") (toString p.fontSize)]
  distinct := by
    show ["Text".toList, "HorizontalAlignment".toList, "VerticalAlignment".toList,
      "FontSize".toList].Nodup
    decide
  blank := blank_noGap

/-- What stands inside of the window. -/
def content (p : Page) : Content :=
  .text "\n    ".toList (by simp) <|
  .element gridTag
    (.text "\n        ".toList (by simp) <|
      .single p.blockTag <|
      .text "\n    ".toList (by simp) .nil) <|
  .text "\n".toList (by simp) .nil

/-- What the page begins with. -/
def declaration : Remark :=
  .instruction "xml version=\"1.0\" encoding=\"utf-8\"".toList (by simp) fun hEnd =>
    absurd (hEnd.subset (List.mem_cons_self ..)) (by simp)

/-- The page as a tree of elements. -/
def tree (p : Page) : Tree where
  before := [.remark declaration, .blank "\n".toList (by simp [isSpace])]
  tag := p.windowTag
  inside := some p.content
  after := [.blank "\n".toList (by simp [isSpace])]

/-- An attribute is written as it is rendered. -/
theorem text_written (name : Name) (value : String) :
    (written name value).text = (attributeText (String.ofList name.text) value).toList := by
  simp [written, WrittenAttribute.text, toList_attributeText]

/-- What the tag of the window is written as. -/
theorem inside_windowTag (p : Page) : p.windowTag.inside = ("Window" ++
    attributeText "x:Class" p.className ++
    attributeText "xmlns" "http://schemas.microsoft.com/winfx/2006/xaml/presentation" ++
    attributeText "xmlns:x" "http://schemas.microsoft.com/winfx/2006/xaml").toList := by
  simp [Tag.inside, windowTag, text_written]

/-- What the tag of the text block is written as. -/
theorem inside_blockTag (p : Page) : p.blockTag.inside = ("TextBlock" ++
    attributeText "Text" p.message ++ attributeText "HorizontalAlignment" "Center" ++
    attributeText "VerticalAlignment" "Center" ++
    attributeText "FontSize" (toString p.fontSize)).toList := by
  simp [Tag.inside, blockTag, text_written]

/-- **The page as text is that of its tree.** -/
theorem text_tree (p : Page) : p.tree.text = p.render.toList := by
  have hWindow : p.windowTag.name.text = "Window".toList := rfl
  have hGrid : gridTag.inside = "Grid".toList ∧ gridTag.name.text = "Grid".toList := ⟨rfl, rfl⟩
  -- piece by piece, with the attributes left as they are written
  unfold render
  simp [Tree.text, Tree.mark, Tree.body, Tree.element, tree, declaration, content, Content.written,
    Surrounding.text, Remark.text, Remark.body, Tag.openText, Tag.singleText, Tag.closeText,
    inside_windowTag, inside_blockTag, hWindow, hGrid]

/-! ## Reading a page -/

/-- The elements of a page. -/
def elements (p : Page) : List Element :=
  [⟨"Window",
    [("x:Class", p.className),
     ("xmlns", "http://schemas.microsoft.com/winfx/2006/xaml/presentation"),
     ("xmlns:x", "http://schemas.microsoft.com/winfx/2006/xaml")]⟩,
   ⟨"Grid", []⟩,
   ⟨"TextBlock",
    [("Text", p.message), ("HorizontalAlignment", "Center"), ("VerticalAlignment", "Center"),
     ("FontSize", toString p.fontSize)]⟩]

/-- **The elements of a page** read back with the values that the window has. -/
theorem elements?_render (p : Page) : elements? p.render.toList = some p.elements := by
  rw [← text_tree, elements?_tree]
  simp [Tree.tags, Content.tags, Tag.element, tree, content, windowTag, gridTag, blockTag, written,
    elements, Nat.repr]

/-- What a page has of its window is all there is to it. -/
theorem elements_injective : Function.Injective elements := by
  intro p q h
  obtain ⟨className, message, fontSize⟩ := p
  simp only [elements, List.cons.injEq, Element.mk.injEq, Prod.mk.injEq, true_and, and_true] at h
  obtain ⟨rfl, rfl, hSize⟩ := h
  -- the font size is told by its digits
  rw [Nat.repr_injective hSize]

/-- A page is a document without items. -/
theorem parse_render (p : Page) : ∃ d, Document.parse p.render = .ok d ∧ d.items = [] := by
  obtain ⟨d, hParse, hItems⟩ := parse_written_tree p.tree
  rw [text_tree, String.ofList_toList] at hParse
  -- neither of the tags inside of the window has the name of an item
  have hNone : ItemReference.ofElement? gridTag = none ∧
      ItemReference.ofElement? p.blockTag = none := ⟨rfl, rfl⟩
  refine ⟨d, hParse, hItems.trans ?_⟩
  simp [itemsOfTree, tree, content, itemsOf, hNone]

/-- **Every page can be written, is a document, and tells its window.** The document has no items;
its elements are the window with its class and the one text with its message and font size, exactly
as given, so that no two windows have the same page. Nothing but the system keeps the page from
being written. -/
theorem tells_window (p : Page) :
    (∃ d, Document.parse p.render = .ok d ∧ d.items = []) ∧
    elements? p.render.toList = some p.elements ∧
    (∀ q : Page, q.render = p.render → q = p) ∧
    ∀ files path after,
      (emitPage (m := StateM FileTree) p path).run.run files = (.ok (), after) ↔
        (Files.writeText path p.render : StateM FileTree _).run files = (.ok (), after) := by
  refine ⟨p.parse_render, p.elements?_render, ?_, ?_⟩
  · intro q hSame
    -- pages of the same text have the same elements, and these tell the window
    have hElements := q.elements?_render
    rw [hSame, p.elements?_render] at hElements
    exact (elements_injective (Option.some.inj hElements)).symm
  · intro files path after
    exact emitText_ok_iff

end Source.Page

end ScriptWindows
