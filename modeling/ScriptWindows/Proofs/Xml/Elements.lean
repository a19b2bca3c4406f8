import ScriptWindows.Proofs.Xml.Content

/-!
# Elements of a text

What a reader can tell of the elements of a text: their names, and their attributes with the values
that the written ones stand for. A text that was written from a tree of elements has just the
elements of the tree, in the order in which they begin, whatever the values are.

Main results:

* `Element.ofTag?_inside`: a written tag begins the element it was made from.
* `elements?_tree`: the elements of a written tree read back.
-/

namespace ScriptWindows.Xml

open Text

/-- An element: its name and its attributes, each with its value. -/
structure Element where
  name : String
  attributes : List (String × String) := []
deriving DecidableEq, Repr

/-- The key of an attribute and the text that its value stands for. -/
def Attribute.resolve? (a : Attribute) : Option (String × String) :=
  (unescape a.value).toOption.map fun value => (String.ofList a.key, String.ofList value)

/-- The element that a tag begins, by what stands between its brackets. None of its attributes may be
at fault. -/
def Element.ofTag? (content : List Char) : Option Element :=
  match attributesOf content with
  | ⟨_, some _⟩ => none
  | ⟨attributes, none⟩ =>
    (attributes.mapM Attribute.resolve?).map fun values => ⟨String.ofList (nameOf content), values⟩

/-- What stands between the brackets of the tags that begin elements. -/
def beginnings (ts : List Token) : List (List Char) :=
  ts.flatMap fun t => match t.markup with
    | .opening content | .empty content => [content]
    | .closing _ | .remark => []

/-- The elements of a text in the order in which they begin. No markup may be at fault. -/
def elements? (text : List Char) : Option (List Element) :=
  match scan 0 text with
  | ⟨_, some _⟩ => none
  | ⟨tokens, none⟩ => (beginnings tokens).mapM Element.ofTag?

/-! ## Elements that were written -/

/-- The element that a tag was written for. -/
def Tag.element (t : Tag) : Element where
  name := String.ofList t.name.text
  attributes := t.attributes.map fun a => (String.ofList a.name.text, String.ofList a.value)

/-- The tags that begin the elements of a content, in order. -/
def Content.tags : Content → List Tag
  | nil => []
  | text _ _ rest | remark _ rest => rest.tags
  | single tag rest => tag :: rest.tags
  | element tag inside rest => tag :: inside.tags ++ rest.tags

/-- The tags that begin the elements of a tree, in order. -/
def Tree.tags (t : Tree) : List Tag := t.tag :: t.inside.elim [] Content.tags

theorem mapM_map_eq_some {α β γ : Type} {f : β → Option γ} {g : α → β} {h : α → γ}
    (hEach : ∀ x, f (g x) = some (h x)) (xs : List α) : (xs.map g).mapM f = some (xs.map h) := by
  induction xs with
  | nil => rfl
  | cons x xs ih =>
    rw [List.map_cons, List.mapM_cons, hEach, ih]
    rfl

/-- **A written tag begins the element it was made from.** -/
theorem Element.ofTag?_inside (t : Tag) : Element.ofTag? t.inside = some t.element := by
  -- a value was escaped when it was written
  have hResolve : ∀ a : WrittenAttribute, a.asRead.resolve? =
      some (String.ofList a.name.text, String.ofList a.value) := by
    intro a
    rw [Attribute.resolve?, WrittenAttribute.asRead, unescape_escape]
    rfl
  rw [Element.ofTag?, attributesOf_inside]
  simp only [mapM_map_eq_some hResolve, nameOf_inside]
  rfl

@[simp] theorem beginnings_nil : beginnings [] = [] := rfl

@[simp] theorem beginnings_append (ts us : List Token) :
    beginnings (ts ++ us) = beginnings ts ++ beginnings us := by
  simp [beginnings]

@[simp] theorem beginnings_opening (start stop : Nat) (content : List Char) (ts : List Token) :
    beginnings (⟨start, stop, .opening content⟩ :: ts) = content :: beginnings ts := rfl

@[simp] theorem beginnings_empty (start stop : Nat) (content : List Char) (ts : List Token) :
    beginnings (⟨start, stop, .empty content⟩ :: ts) = content :: beginnings ts := rfl

@[simp] theorem beginnings_closing (start stop : Nat) (name : List Char) (ts : List Token) :
    beginnings (⟨start, stop, .closing name⟩ :: ts) = beginnings ts := rfl

theorem beginnings_remarks {ts : List Token} (h : ∀ t ∈ ts, t.markup = .remark) :
    beginnings ts = [] := by
  rw [beginnings, List.flatMap_eq_nil_iff]
  intro t ht
  rw [h t ht]

/-- The tags that begin elements of a content are those it was written with. -/
theorem beginnings_content (offset : Nat) (c : Content) :
    beginnings (c.tokens offset) = c.tags.map (·.inside) := by
  induction c generalizing offset with
  | nil => rfl
  | text cs plain rest ih => exact ih _
  | remark r rest ih => exact ih _
  | single tag rest ih =>
    rw [Content.tokens, beginnings_empty, ih]
    rfl
  | element tag inside rest ihInside ihRest =>
    -- the end tag begins nothing
    simp [Content.tokens, Content.tags, ihInside, ihRest]

/-- The tags that begin elements of a tree are those it was written with. -/
theorem scans_element (offset : Nat) (t : Tree) :
    ∃ ts, Scans offset t.element ts ∧ beginnings ts = t.tags.map (·.inside) := by
  unfold Tree.element Tree.tags
  cases t.inside with
  | none => exact ⟨_, scans_singleText offset t.tag, rfl⟩
  | some c =>
    have hScan := ((scans_openText offset t.tag).append (scans_content _ c)).append
      (scans_closeText _ t.tag)
    refine ⟨_, hScan, ?_⟩
    simp [beginnings_content]

/-- **The elements of a written tree read back**, with the names and values they were given. -/
theorem elements?_tree (t : Tree) : elements? t.text = some (t.tags.map (·.element)) := by
  have hMark : Scans 0 t.mark [] := by
    refine Scans.text ?_
    rw [Tree.mark]
    split <;> decide
  obtain ⟨ts, hBefore, hBeforeRemarks⟩ := scans_surroundings (0 + byteLength t.mark) t.before
  obtain ⟨us, hElement, hTags⟩ :=
    scans_element (0 + byteLength (t.mark ++ t.before.flatMap (·.text))) t
  obtain ⟨vs, hAfter, hAfterRemarks⟩ := scans_surroundings
    (0 + byteLength (t.mark ++ t.before.flatMap (·.text) ++ t.element)) t.after
  have hScan := ((hMark.append hBefore).append hElement).append hAfter
  have hText : t.mark ++ t.before.flatMap (·.text) ++ t.element ++ t.after.flatMap (·.text) =
      t.text := by simp [Tree.text, Tree.body]
  rw [hText, Scans] at hScan
  -- what stands around the outermost element begins none
  have hBeginnings : beginnings ([] ++ ts ++ us ++ vs) = t.tags.map (·.inside) := by
    simp [beginnings_remarks hBeforeRemarks, beginnings_remarks hAfterRemarks, hTags]
  rw [elements?, hScan]
  simp only [hBeginnings]
  exact mapM_map_eq_some Element.ofTag?_inside t.tags

end ScriptWindows.Xml
