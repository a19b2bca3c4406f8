import ScriptWindows.Manifest.Item
import ScriptWindows.Text.Blank

/-!
# A manifest as a document

A manifest is kept as its text. Reading it finds its items and the tag that closes its root;
items appended later are written just before that tag, so nothing else of the text changes.

Main results:

* `render_of_nothing_appended`: a document to which nothing was appended is its text.
* `items_append`: an appended item is the last one.
-/

namespace ScriptWindows.Manifest

open Text Xml

/-! ## What can be wrong -/

/-- Why a text is no manifest. -/
inductive SyntaxCause
  | markup (cause : MarkupError)
  | closedByOther (expected found : List Char)
  | nothingToClose (found : List Char)
  | item (cause : ItemError)
  | secondRoot
  | rootNotClosed
  | noRoot
deriving DecidableEq, Repr

def SyntaxCause.message : SyntaxCause → String
  | .markup cause => cause.message
  | .closedByOther expected found =>
    "ill-formed document: expected `</" ++ String.ofList expected ++ ">`, but `</" ++
      String.ofList found ++ ">` was found"
  | .nothingToClose found =>
    "ill-formed document: close tag `</" ++ String.ofList found ++
      ">` does not match any open tag"
  | .item cause => cause.message
  | .secondRoot => "multiple root elements"
  | .rootNotClosed => "unclosed root element"
  | .noRoot => "manifest has no root element"

/-- A fault and the byte offset at which it was found. -/
structure SyntaxError where
  position : Nat
  cause : SyntaxCause
deriving DecidableEq, Repr

/-- An offset at which a text cannot be cut, since no character begins there. -/
structure NoBoundary where
  offset : Nat
deriving DecidableEq, Repr

/-- Why a text cannot be read as a document. -/
inductive ParseError
  | ill (e : SyntaxError)
  | cut (at_ : NoBoundary)
deriving DecidableEq, Repr

/-! ## The outline of a text -/

/-- The root element: where its end tag begins, or where it stands when it has none. -/
inductive RootElement
  | tagged (closeStart : Nat)
  | selfClosing (start stop : Nat) (name : String)
deriving DecidableEq, Repr

/-- What is known of a document while its markups are gone through. -/
structure Outline where
  /-- Names of the elements not yet closed, innermost first. -/
  unclosed : List (List Char) := []
  items : List ItemReference := []
  root : Option RootElement := none
  firstChild : Option Nat := none
deriving DecidableEq, Repr

namespace Outline

/-- Note where an element begins when it is the first one below the root. -/
def noteChild (o : Outline) (start : Nat) : Outline :=
  if o.unclosed.length = 1 ∧ o.firstChild = none then { o with firstChild := some start } else o

/-- Add the item that a tag below the root stands for. -/
def noteItem (o : Outline) (start : Nat) (content : List Char) : Except SyntaxError Outline :=
  match ItemReference.ofTag content with
  | .ok none => .ok o
  | .ok (some item) => .ok { o with items := o.items ++ [item] }
  | .error cause => .error ⟨start, .item cause⟩

/-- Go past one markup. -/
def step (o : Outline) (token : Token) : Except SyntaxError Outline :=
  match token.markup with
  | .opening content =>
    if o.unclosed = [] then
      -- the tag stands outside of every element, so it is the root's
      if o.root.isSome then .error ⟨token.start, .secondRoot⟩
      else .ok { o with unclosed := [nameOf content] }
    else do
      let noted ← (o.noteChild token.start).noteItem token.start content
      .ok { noted with unclosed := nameOf content :: o.unclosed }
  | .empty content =>
    if o.unclosed = [] then
      if o.root.isSome then .error ⟨token.start, .secondRoot⟩
      else .ok { o with
        root := some (.selfClosing token.start token.stop (String.ofList (nameOf content))) }
    else (o.noteChild token.start).noteItem token.start content
  | .closing name =>
    match o.unclosed with
    | [] => .error ⟨token.start, .nothingToClose name⟩
    | innermost :: outer =>
      if innermost ≠ name then .error ⟨token.start, .closedByOther innermost name⟩
      else if outer = [] then
        .ok { o with unclosed := [], root := some (o.root.getD (.tagged token.start)) }
      else .ok { o with unclosed := outer }
  | .remark => .ok o

/-- Go past markups in order, up to the first fault. -/
def follow (o : Outline) : List Token → Except SyntaxError Outline
  | [] => .ok o
  | token :: rest => do (← o.step token).follow rest

end Outline

/-- The outline of a whole text of `size` bytes whose first markup is looked for at `offset`. -/
def outline (size offset : Nat) (body : List Char) : Except SyntaxError Outline := do
  let found := scan offset body
  -- a fault of an element before the place where scanning failed comes first
  let o ← ({} : Outline).follow found.tokens
  match found.failure with
  | some (position, cause) => .error ⟨position, .markup cause⟩
  | none => if o.unclosed = [] then .ok o else .error ⟨size, .rootNotClosed⟩

/-! ## Documents -/

/-- How lines end. -/
inductive LineEnding
  | feed
  | returnFeed
deriving DecidableEq, Repr

def LineEnding.text : LineEnding → List Char
  | .feed => ['\n']
  | .returnFeed => ['\r', '\n']

/-- A manifest: its text, what was found in it, and what is to be added to it. -/
structure Document where
  text : String
  found : List ItemReference
  root : RootElement
  lineEnding : LineEnding
  indent : String
  appended : List ItemReference := []
deriving DecidableEq, Repr

namespace Document

/-- The indentation of a document that shows none. -/
def defaultIndent : String := "  "

/-- Blanks that can indent a line. -/
def isIndent (c : Char) : Bool := c == ' ' || c == '\t'

/-- The text of the line before the end of a text, when a line begins in it. -/
def lastLine (cs : List Char) : Option (List Char) :=
  if '\n' ∈ cs then some (takeTrailing (· ≠ '\n') cs) else none

/-- The indentation of the element at an offset, when nothing else stands before it on its
line. -/
def indentBefore (text : List Char) (offset : Nat) : Except NoBoundary String :=
  match splitAtByte offset text with
  | none => .error ⟨offset⟩
  | some (head, _) =>
    match lastLine head with
    | some line =>
      .ok (if line ≠ [] ∧ line.all isIndent then String.ofList line else defaultIndent)
    | none => .ok defaultIndent

/-- The line ending of a text: return and feed together if they occur together anywhere. -/
def lineEndingOf (text : List Char) : LineEnding :=
  if occursIn ['\r', '\n'] text then .returnFeed else .feed

/-- Offset and text of what follows the byte order mark. A second mark is skipped without being
counted, so that offsets found after it are too small by its length. -/
def bodyOf (text : List Char) : Nat × List Char :=
  match text with
  | first :: rest =>
    if first = byteOrderMark then
      match rest with
      | second :: others =>
        (byteLength [byteOrderMark], if second = byteOrderMark then others else rest)
      | [] => (byteLength [byteOrderMark], [])
    else (0, text)
  | [] => (0, [])

/-- Read a text as a document. -/
def parse (text : String) : Except ParseError Document :=
  let cs := text.toList
  let (offset, body) := bodyOf cs
  match outline (byteLength cs) offset body with
  | .error e => .error (.ill e)
  | .ok o =>
    match o.root with
    | none => .error (.ill ⟨0, .noRoot⟩)
    | some root =>
      match o.firstChild.elim (.ok defaultIndent) (indentBefore cs) with
      | .error e => .error (.cut e)
      | .ok indent => .ok ⟨text, o.items, root, lineEndingOf cs, indent, []⟩

/-- The items of a document in order, appended ones last. -/
def items (d : Document) : List ItemReference := d.found ++ d.appended

/-- Whether some item of this kind names files of a folder. -/
def hasReference (d : Document) (kind : ItemKind) (folder : String) : Bool :=
  d.items.any (·.references kind folder)

/-- Add an item at the end, in a group of its own. -/
def append (d : Document) (item : ItemReference) : Document :=
  { d with appended := d.appended ++ [item] }

/-! ## Writing -/

/-- The lines of a group that holds one item. -/
def groupText (indent lineEnding : List Char) (item : ItemReference) : List Char :=
  indent ++ "<ItemGroup>".toList ++ lineEnding ++
  (indent ++ indent ++ '<' :: item.kind.elementName.toList ++ " Include=\"".toList ++
    escape item.files.toList ++ "\" />".toList ++ lineEnding) ++
  (indent ++ "</ItemGroup>".toList ++ lineEnding)

/-- The lines of all appended items. -/
def groupsText (d : Document) : List Char :=
  d.appended.flatMap (groupText d.indent.toList d.lineEnding.text)

/-- A text without the ends of self-closing tags at its end. -/
def dropTagEnds : List Char → List Char
  | '>' :: '/' :: reversed => dropTagEnds reversed
  | reversed => reversed

/-- A self-closing tag without its end. -/
def openTag (tag : List Char) : List Char :=
  dropTrailing isBlank (dropTagEnds tag.reverse).reverse

/-- The document as text. Blanks that indent the end tag of the root move behind what is
added. -/
def render (d : Document) : Except NoBoundary String :=
  if d.appended = [] then .ok d.text
  else match d.root with
    | .tagged closeStart =>
      -- what is added goes on lines of its own right before the end tag
      match splitAtByte closeStart d.text.toList with
      | none => .error ⟨closeStart⟩
      | some (head, tail) =>
        let before := dropTrailing isIndent head
        let newLine := if before.getLast? = some '\n' then [] else d.lineEnding.text
        .ok (String.ofList
          (before ++ newLine ++ d.groupsText ++ takeTrailing isIndent head ++ tail))
    | .selfClosing start stop name =>
      -- the root is opened and gets an end tag
      match splitAtByte start d.text.toList with
      | none => .error ⟨start⟩
      | some (before, rest) =>
        match splitAtByte (stop - start) rest with
        | none => .error ⟨stop⟩
        | some (tag, after) =>
          .ok (String.ofList
            (before ++ openTag tag ++ '>' :: d.lineEnding.text ++ d.groupsText ++
              '<' :: '/' :: name.toList ++ '>' :: after))

/-! ## Laws -/

/-- A document to which nothing was appended is its text. -/
theorem render_of_nothing_appended {d : Document} (h : d.appended = []) :
    d.render = .ok d.text := by
  simp [render, h]

/-- An appended item is the last one. -/
theorem items_append (d : Document) (item : ItemReference) :
    (d.append item).items = d.items ++ [item] := by
  simp [items, append]

/-- A document that was just read has the items found in its text. -/
theorem appended_parse {text : String} {d : Document} (h : parse text = .ok d) :
    d.appended = [] ∧ d.text = text := by
  unfold parse at h
  simp only at h
  split at h
  · simp at h
  · split at h
    · simp at h
    · split at h
      · simp at h
      · simp only [Except.ok.injEq] at h
        subst h
        exact ⟨rfl, rfl⟩

end Document

end ScriptWindows.Manifest
