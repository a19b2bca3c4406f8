import ScriptWindows.Proofs.Manifest.Outlines

/-!
# Items of written trees

A tree of elements is written in the ordinary way: byte order mark or not, remarks and blanks
around one root, tags with escaped values in either quote. The text reads back as a document, and
its items are those of the tree: the elements strictly below the root, in the order in which they
begin. What merely looks like an item, inside of a remark or of a value, is none.

Main result:

* `parse_written_tree`: every written tree is a document with the items of the tree.
-/

namespace ScriptWindows.Manifest

open Text Xml

/-- The items of a tree: the root is none, and without content it has none. -/
def itemsOfTree (t : Tree) : List ItemReference := t.inside.elim [] itemsOf

/-! ## The text -/

/-- What stands around the root begins with a blank or with a markup. -/
theorem head?_surroundings (ss : List Surrounding) {rest : List Char}
    (h : rest.head? = some '<') :
    ∀ c ∈ (ss.flatMap (·.text) ++ rest).head?, c = '<' ∨ isSpace c = true := by
  induction ss with
  | nil =>
    intro c hc
    rw [List.flatMap_nil, List.nil_append, h] at hc
    exact .inl (Option.some.inj hc).symm
  | cons s ss ih =>
    cases s with
    | blank cs blank =>
      cases cs with
      | nil => simpa [Surrounding.text] using ih
      | cons d ds =>
        intro c hc
        obtain rfl : d = c := by simpa [Surrounding.text] using hc
        exact .inr (blank d (List.mem_cons_self ..))
    | remark r =>
      intro c hc
      exact .inl (by simpa [Surrounding.text, Remark.text] using hc.symm)

theorem marked_tree (t : Tree) : Marked t.mark t.body where
  mark_eq := by
    rw [Tree.mark]
    split
    · exact .inr rfl
    · exact .inl rfl
  body_head := by
    intro hHead
    have hElement : (t.element ++ t.after.flatMap (·.text)).head? = some '<' := by
      rw [Tree.element]
      split <;> rfl
    rw [Tree.body, List.append_assoc] at hHead
    rcases head?_surroundings t.before hElement _ hHead with hOpen | hBlank
    · exact absurd hOpen (by decide)
    · exact absurd hBlank (by decide)

/-! ## The root -/

/-- **The root of a written tree** is gone past with the items below it noted, and nothing is left
unclosed. -/
theorem follow_element (offset : Nat) (t : Tree) :
    ∃ ts o root, Scans offset t.element ts ∧ ({} : Outline).follow ts = .ok o ∧
      o.unclosed = [] ∧ o.root = some root ∧ o.items = itemsOfTree t := by
  unfold Tree.element itemsOfTree
  cases t.inside with
  | none => exact ⟨_, _, _, scans_singleText offset t.tag, rfl, rfl, rfl, rfl⟩
  | some c =>
    -- an end tag closes just what the start tag opened
    have hScan := ((scans_openText offset t.tag).append (scans_content _ c)).append
      (scans_closeText _ t.tag)
    -- inside of the root only the root is unclosed
    have hOpened : ({} : Outline).step
        ⟨offset, offset + byteLength t.tag.openText, .opening t.tag.inside⟩ =
        .ok { unclosed := [t.tag.name.text] } := by
      simp [Outline.step, nameOf_inside]
    have hContent := Outline.follow_content (o := { unclosed := [t.tag.name.text] }) (by simp)
      (offset + byteLength t.tag.openText) c
    refine ⟨_, {
      items := itemsOf c
      root := some (.tagged (offset + byteLength (t.tag.openText ++ c.written)))
      firstChild := c.firstElement (offset + byteLength t.tag.openText) },
      _, hScan, ?_, rfl, rfl, rfl⟩
    rw [List.append_assoc, List.singleton_append, Outline.follow_cons_of_ok hOpened,
      Outline.follow_append_of_ok hContent]
    simp [Outline.follow, Outline.step, Outline.withContent, Outline.childAfter, bind, Except.bind]

/-! ## The document -/

/-- **Every written tree is a document with the items of the tree.** -/
theorem parse_written_tree (t : Tree) :
    ∃ d, Document.parse (String.ofList t.text) = .ok d ∧ d.items = itemsOfTree t := by
  obtain ⟨ts, hBefore, hBeforeRemarks⟩ := scans_surroundings (byteLength t.mark) t.before
  obtain ⟨us, o, root, hElement, hFollow, hClosed, hRoot, hItems⟩ :=
    follow_element (byteLength t.mark + byteLength (t.before.flatMap (·.text))) t
  obtain ⟨vs, hAfter, hAfterRemarks⟩ := scans_surroundings
    (byteLength t.mark + byteLength (t.before.flatMap (·.text) ++ t.element)) t.after
  have hScan : Scans (byteLength t.mark) t.body (ts ++ us ++ vs) :=
    (hBefore.append hElement).append hAfter
  -- remarks around the root are gone past, before it and after it
  have hWhole : ({} : Outline).follow (ts ++ us ++ vs) = .ok o := by
    rw [List.append_assoc, Outline.follow_append_of_ok (Outline.follow_remarks _ hBeforeRemarks),
      Outline.follow_append_of_ok hFollow]
    exact Outline.follow_remarks o hAfterRemarks
  have hText : (String.ofList t.text).toList = t.mark ++ t.body := String.toList_ofList
  obtain ⟨indent, hIndent⟩ := Document.exists_indent hScan hWhole
  have hParse := Document.parse_of_follow hText (marked_tree t) hScan hWhole hClosed hRoot hIndent
  exact ⟨_, hParse, by simpa [Document.items] using hItems⟩

end ScriptWindows.Manifest
