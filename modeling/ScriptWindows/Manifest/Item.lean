import ScriptWindows.Text.Search
import ScriptWindows.Xml.Attributes
import ScriptWindows.Xml.Escape

/-!
# Items of a manifest

A manifest lists what a project is built from. Two kinds of item matter here: markup pages and
compiled sources. An item names its files by a pattern; a folder counts as referenced when its
name occurs anywhere in the pattern of an item of the kind.

Main results:

* `references_pattern`: the pattern made for a folder references that folder.
* `ofTag_eq_none`: a tag of another name is no item, whatever its attributes.
-/

namespace ScriptWindows.Manifest

open Text Xml

/-- What an item contributes to the build. -/
inductive ItemKind
  | page
  | compile
deriving DecidableEq, Repr

namespace ItemKind

/-- Both kinds, in the order in which they are looked for. -/
def all : List ItemKind := [.page, .compile]

/-- The element an item of this kind is written as. -/
def elementName : ItemKind → String
  | .page => "Page"
  | .compile => "Compile"

/-- The ending of the files this kind of item names. -/
def fileEnding : ItemKind → String
  | .page => "xaml"
  | .compile => "cs"

/-- The pattern that names all files of this kind in a folder. -/
def pattern (kind : ItemKind) (folder : String) : String :=
  folder ++ "\\*." ++ kind.fileEnding

/-- The kind of item that an element of this name is. -/
def ofElementName? (name : List Char) : Option ItemKind :=
  if name = ['P', 'a', 'g', 'e'] then some .page
  else if name = ['C', 'o', 'm', 'p', 'i', 'l', 'e'] then some .compile
  else none

end ItemKind

/-- One item: its kind and the pattern of the files it names. -/
structure ItemReference where
  kind : ItemKind
  files : String
deriving DecidableEq, Repr

/-- Whether an item of this kind names files of a folder. -/
def ItemReference.references (item : ItemReference) (kind : ItemKind) (folder : String) : Bool :=
  item.kind == kind && occursIn folder.toList item.files.toList

/-- What is wrong with the element of an item. -/
inductive ItemError
  | badAttribute (cause : AttributeError)
  | badReference (cause : ReferenceError)
deriving DecidableEq, Repr

def ItemError.message : ItemError → String
  | .badAttribute cause => cause.message
  | .badReference cause => cause.message

/-- The attribute that holds an item's pattern. -/
def includeKey : List Char := ['I', 'n', 'c', 'l', 'u', 'd', 'e']

/-- The item that a tag stands for, by what stands between its brackets. Only the first
attribute that holds a pattern counts, and attributes after it are not looked at. -/
def ItemReference.ofTag (content : List Char) : Except ItemError (Option ItemReference) :=
  match ItemKind.ofElementName? (localName (nameOf content)) with
  | none => .ok none
  | some kind =>
    let written := attributesOf content
    match written.attributes.find? (localName ·.key == includeKey) with
    | some written =>
      match unescape written.value with
      | .ok value => .ok (some ⟨kind, String.ofList value⟩)
      | .error cause => .error (.badReference cause)
    | none =>
      match written.failure with
      | some cause => .error (.badAttribute cause)
      | none => .ok none

/-! ## Laws -/

theorem ofElementName?_elementName (kind : ItemKind) :
    ItemKind.ofElementName? kind.elementName.toList = some kind := by
  cases kind <;> decide

/-- The pattern made for a folder references that folder. -/
theorem references_pattern (kind : ItemKind) (folder : String) :
    ItemReference.references ⟨kind, kind.pattern folder⟩ kind folder = true := by
  simp only [ItemReference.references, beq_self_eq_true, Bool.true_and, occursIn_iff,
    ItemKind.pattern, String.toList_append, List.append_assoc]
  exact ⟨[], "\\*.".toList ++ kind.fileEnding.toList, by simp⟩

/-- A tag of another name is no item, whatever its attributes. -/
theorem ofTag_eq_none {content : List Char}
    (h : ItemKind.ofElementName? (localName (nameOf content)) = none) :
    ItemReference.ofTag content = .ok none := by
  simp [ItemReference.ofTag, h]

end ScriptWindows.Manifest
