import ScriptWindows.Proofs.Manifest.PatchRuns

/-!
# Folders registered in either order

A folder counts as referenced when its name occurs anywhere in the pattern of an item, so what one
registration writes can make the next one believe that its folder is there already. This module
says exactly when that happens: the first folder lacked an item of a kind, and the name of the
second one occurs in the pattern that was made for it. Two folders of which neither occurs in the
patterns of the other do not see each other.

Main results:

* `Document.hasReference_of_registered`: which folders are referenced once another one is
  registered.
* `registrations_commute`: two such folders are registered in either order, each of them as if it
  were the only one.
-/

namespace ScriptWindows.Manifest

open Text

namespace Document

variable {d after : Document} {first second : String}

/-- **Which folders are referenced once another one is registered**: those that were, and those
that occur in a pattern that was added. -/
theorem hasReference_of_registered (h : after.items = d.items ++ d.lacking first)
    (kind : ItemKind) :
    after.hasReference kind second = true ↔ d.hasReference kind second = true ∨
      (d.hasReference kind first = false ∧ second.toList <:+: (kind.pattern first).toList) := by
  rw [hasReference, h, List.any_append, Bool.or_eq_true, ← hasReference, List.any_eq_true]
  refine or_congr_right ⟨?_, ?_⟩
  · rintro ⟨item, hIn, hReferences⟩
    obtain ⟨hLacks, hFiles⟩ := mem_lacking.1 hIn
    -- an item references folders for its own kind only
    simp only [ItemReference.references, Bool.and_eq_true, beq_iff_eq, occursIn_iff] at hReferences
    obtain ⟨rfl, hOccurs⟩ := hReferences
    rw [hFiles] at hOccurs
    exact ⟨hLacks, hOccurs⟩
  · rintro ⟨hLacks, hOccurs⟩
    refine ⟨⟨kind, kind.pattern first⟩, mem_lacking.2 ⟨hLacks, rfl⟩, ?_⟩
    simpa [ItemReference.references, occursIn_iff] using hOccurs

/-- A folder that occurs in no pattern of another one still lacks what it lacked when that one is
registered. -/
theorem lacking_of_registered (h : after.items = d.items ++ d.lacking first)
    (hApart : ∀ kind : ItemKind, ¬ second.toList <:+: (kind.pattern first).toList) :
    after.lacking second = d.lacking second ∧
      after.lackingOutcome second = d.lackingOutcome second := by
  refine lacking_of_hasReference fun kind => ?_
  rw [Bool.eq_iff_iff, hasReference_of_registered h]
  simp [hApart kind]

end Document

/-- One registration behind another one of a folder whose patterns do not name it: it does what it
would have done alone. -/
theorem Patchable.patched_behind {tree : FileTree} {path : Path}
    {mark before blanks closing : List Char} {d : Document}
    (h : Patchable tree path mark before blanks closing d) {first second : String}
    (hApart : ∀ kind : ItemKind, ¬ second.toList <:+: (kind.pattern first).toList) :
    ∃ middle last d',
      Manifest.patched path tree first = (.ok (d.lackingOutcome first), middle) ∧
      Manifest.patched path middle second = (.ok (d.lackingOutcome second), last) ∧
      Holds last path d' ∧ d'.items = d.items ++ d.lacking first ++ d.lacking second := by
  obtain ⟨middle, d₁, block, hFirst, hMiddle, hItems₁, -⟩ := h.patched first
  -- the second registration reads what the first one wrote
  obtain ⟨last, d₂, block', hSecond, hLast, hItems₂, -⟩ := hMiddle.patched second
  obtain ⟨hLacking, hOutcome⟩ := Document.lacking_of_registered hItems₁ hApart
  rw [hOutcome] at hSecond
  rw [hLacking, hItems₁] at hItems₂
  exact ⟨middle, last, d₂, hFirst, hSecond, hLast.holds, hItems₂⟩

/-- **Two folders of which neither occurs in the patterns of the other are registered in either
order.** Each of them is registered with the outcome that it has in the file as it was, whether the
other one comes first or not at all, and the items in the end are the same but for their order. -/
theorem registrations_commute {tree : FileTree} {path : Path} {d : Document} {close : Nat}
    (hFile : Holds tree path d) (hMarks : ¬ [byteOrderMark, byteOrderMark] <+: d.text.toList)
    (hRoot : d.root = .tagged close) {f g : String}
    (hf : ∀ kind : ItemKind, ¬ f.toList <:+: (kind.pattern g).toList)
    (hg : ∀ kind : ItemKind, ¬ g.toList <:+: (kind.pattern f).toList) :
    ∃ ofF ofG withF withG withFG withGF dFG dGF,
      patched path tree f = (.ok ofF, withF) ∧ patched path tree g = (.ok ofG, withG) ∧
      patched path withF g = (.ok ofG, withFG) ∧ patched path withG f = (.ok ofF, withGF) ∧
      Holds withFG path dFG ∧ Holds withGF path dGF ∧ dFG.items.Perm dGF.items := by
  obtain ⟨mark, body, hText, hMarked⟩ := exists_marked hMarks
  obtain ⟨before, blanks, closing, o, rfl, -, hEnds, -⟩ :=
    RootEnd.of_parse hText hMarked hFile.parsed hRoot
  have hPatchable : Patchable tree path mark before blanks closing d := ⟨hFile, hText, o, hEnds⟩
  obtain ⟨withF, withFG, dFG, hF, hFG, hHoldsFG, hItemsFG⟩ := hPatchable.patched_behind hg
  obtain ⟨withG, withGF, dGF, hG, hGF, hHoldsGF, hItemsGF⟩ := hPatchable.patched_behind hf
  refine ⟨_, _, withF, withG, withFG, withGF, dFG, dGF, hF, hG, hFG, hGF, hHoldsFG, hHoldsGF, ?_⟩
  -- what either folder lacked stands behind the items that were there
  rw [hItemsFG, hItemsGF, List.append_assoc, List.append_assoc]
  exact List.perm_append_comm.append_left d.items

theorem registrations_commute_emptyProject :
    Holds emptyProjectTree ⟨"App.csproj"⟩ emptyProject ∧
      ¬ [byteOrderMark, byteOrderMark] <+: emptyProject.text.toList ∧
      emptyProject.root = .tagged 10 ∧
      (∀ kind : ItemKind, ¬ "Views".toList <:+: (kind.pattern "Generated").toList) ∧
      (∀ kind : ItemKind, ¬ "Generated".toList <:+: (kind.pattern "Views").toList) ∧
      ∃ ofViews ofGenerated views generated both swapped dBoth dSwapped,
        patched ⟨"App.csproj"⟩ emptyProjectTree "Views" = (.ok ofViews, views) ∧
        patched ⟨"App.csproj"⟩ emptyProjectTree "Generated" = (.ok ofGenerated, generated) ∧
        patched ⟨"App.csproj"⟩ views "Generated" = (.ok ofGenerated, both) ∧
        patched ⟨"App.csproj"⟩ generated "Views" = (.ok ofViews, swapped) ∧
        Holds both ⟨"App.csproj"⟩ dBoth ∧ Holds swapped ⟨"App.csproj"⟩ dSwapped ∧
        dBoth.items.Perm dSwapped.items := by
  have hMarks : ¬ [byteOrderMark, byteOrderMark] <+: emptyProject.text.toList := by decide
  have hViews : ∀ kind : ItemKind, ¬ "Views".toList <:+: (kind.pattern "Generated").toList := by
    intro kind
    rw [← occursIn_iff]
    cases kind <;> decide
  have hGenerated : ∀ kind : ItemKind, ¬ "Generated".toList <:+: (kind.pattern "Views").toList := by
    intro kind
    rw [← occursIn_iff]
    cases kind <;> decide
  exact ⟨holds_emptyProject, hMarks, rfl, hViews, hGenerated,
    registrations_commute holds_emptyProject hMarks rfl hViews hGenerated⟩

/-- A folder whose name begins that of another one is not missed once that one is registered. -/
example :
    (emptyProject.register "Gen").1 = ⟨true, true⟩ ∧
      ((emptyProject.register "Generated").2.register "Gen").1 = ⟨false, false⟩ := by decide

end ScriptWindows.Manifest
