import Mathlib
import ScriptWindows.Proofs.Files.Rewriting
import ScriptWindows.Proofs.Manifest.Groups

/-!
# Runs of registrations

Folders are registered in one manifest file, one after another. Each registration reads the file
anew, so what it sees is what the ones before it wrote. This module shows that what is written is
read back every time: the place before the root's end tag stays the same place, the items only
grow, and registering a folder again leaves the file as it is.

Main results:

* `Patchable.patched`: a registration puts one block before the end tag, with the items that the
  folder lacked.
* `Patchable.patchedAll`: so does a run of registrations, and it references every folder.
* `patch_runs`: what any run does to a file, and what any registration after it does.
-/

namespace ScriptWindows.Manifest

open Text Xml

/-! ## Registering in a tree -/

/-- Register a folder in a file of a tree. -/
def patched (path : Path) (tree : FileTree) (folder : String) :
    Except ManifestError PatchOutcome × FileTree :=
  (patch (m := StateM FileTree) path folder).run.run tree

/-- Register folders in a file of a tree, one after another, up to the first failure. -/
def patchedAll (path : Path) (tree : FileTree) (folders : List String) :
    Except ManifestError (List PatchOutcome) × FileTree :=
  (folders.mapM (patch (m := StateM FileTree) path)).run.run tree

/-- Registrations are made in two parts as they are together. -/
theorem patchedAll_append {path : Path} {tree middle last : FileTree}
    {first rest : List String} {xs ys : List PatchOutcome}
    (h : patchedAll path tree first = (.ok xs, middle))
    (hRest : patchedAll path middle rest = (.ok ys, last)) :
    patchedAll path tree (first ++ rest) = (.ok (xs ++ ys), last) := by
  rw [patchedAll, List.mapM_append, run_bind_of_ok h, run_bind_of_ok hRest]
  rfl

/-- One registration is a run of its own. -/
theorem patchedAll_singleton {path : Path} {tree next : FileTree} {folder : String}
    {outcome : PatchOutcome} (h : patched path tree folder = (.ok outcome, next)) :
    patchedAll path tree [folder] = (.ok [outcome], next) := by
  rw [patchedAll, List.mapM_cons, run_bind_of_ok h]
  rfl

/-! ## One registration -/

/-- A file holds a document. -/
structure Holds (tree : FileTree) (path : Path) (d : Document) : Prop where
  read : tree.readText path = .ok d.text
  parsed : Document.parse d.text = .ok d

section
variable {tree after : FileTree} {path : Path} {d : Document}

theorem run_readText (path : Path) (tree : FileTree) :
    (Files.readText path : StateM FileTree _).run tree = (tree.readText path, tree) := rfl

/-- A manifest is loaded as the document that its file holds. -/
theorem Holds.load (h : Holds tree path d) :
    (Document.load (m := StateM FileTree) path).run.run tree = (.ok d, tree) := by
  have hRead : (Files.readText path : StateM FileTree _).run tree = (.ok d.text, tree) := by
    rw [run_readText, h.read]
  refine (run_lift_bind hRead).trans ?_
  simp only [h.parsed]
  rfl

/-- Reading a manifest ends with the tree it began with. -/
theorem load_tree (path : Path) (tree : FileTree) :
    ((Document.load (m := StateM FileTree) path).run.run tree).2 = tree := by
  rw [Document.load, run_lift_bind (run_readText path tree)]
  -- every way of going on from the text ends at once
  split
  · rfl
  · rfl
  · rfl
  · split <;> rfl

/-- Loading leaves the tree as it is. -/
theorem tree_of_load {result : Except ManifestError Document}
    (h : (Document.load (m := StateM FileTree) path).run.run tree = (result, after)) :
    after = tree := by
  rw [← load_tree path tree, h]

/-- What was read is what the file holds. -/
theorem holds_of_load
    (h : (Document.load (m := StateM FileTree) path).run.run tree = (.ok d, after)) :
    Holds tree path d := by
  rw [Document.load, run_lift_bind (run_readText path tree)] at h
  split at h
  · cases h
  · cases h
  · cases h
  · rename_i text hText
    split at h
    · rename_i parsed hParse
      obtain rfl : parsed = d := Except.ok.inj (Prod.mk.inj h).1
      have hSame : parsed.text = text := (Document.appended_parse hParse).2
      exact ⟨by rw [hSame, hText], by rw [hSame, hParse]⟩
    · cases h
    · cases h

/-- A manifest is loaded exactly if its file holds a document. -/
theorem run_load_ok_iff :
    (Document.load (m := StateM FileTree) path).run.run tree = (.ok d, after) ↔
      Holds tree path d ∧ after = tree :=
  ⟨fun h => ⟨holds_of_load h, tree_of_load h⟩, fun ⟨hHolds, hTree⟩ => hTree ▸ hHolds.load⟩

end

/-- A document that can be put together is written back where its text is taken. -/
theorem save_of_render {tree next : FileTree} {path : Path} {d : Document} {text : String}
    (hRender : d.render = .ok text)
    (hWrite : (Files.writeText path text : StateM FileTree _).run tree = (.ok (), next)) :
    (d.save (m := StateM FileTree) path).run.run tree = (.ok (), next) := by
  simp only [Document.save, hRender]
  exact run_lift_bind hWrite

/-- A registration reads the document, appends what lacks and writes it back. -/
theorem Holds.patched_of_render {tree : FileTree} {path : Path} {d : Document}
    {folder text : String} (h : Holds tree path d)
    (hRender : (d.appendAll (d.lacking folder)).render = .ok text) :
    ∃ next, patched path tree folder = (.ok (d.lackingOutcome folder), next) ∧
      next.readText path = .ok text ∧ (text = d.text → next = tree) := by
  obtain ⟨next, hWrite, hRead, hSame⟩ := FileTree.writeText_of_readText h.read text
  refine ⟨next, ?_, hRead, hSame⟩
  -- read, append, write: each part goes on from where the one before it ended
  rw [patched, patch, run_bind_of_ok h.load, Document.register_eq]
  simp only
  rw [run_bind_of_ok (save_of_render hRender hWrite)]
  rfl

/-- A file that holds a document whose root has an end tag, with the text cut at that tag. -/
structure Patchable (tree : FileTree) (path : Path) (mark before blanks closing : List Char)
    (d : Document) : Prop where
  holds : Holds tree path d
  text_eq : d.text.toList = mark ++ (before ++ blanks ++ closing)
  ends : ∃ o, RootEnd mark before blanks closing o

section
variable {tree : FileTree} {path : Path} {mark before blanks closing : List Char} {d : Document}

/-- **A registration puts one block before the end tag**, with the items that the folder lacked.
Without such items the tree stays as it is. -/
theorem Patchable.patched (h : Patchable tree path mark before blanks closing d)
    (folder : String) :
    ∃ next d' block, patched path tree folder = (.ok (d.lackingOutcome folder), next) ∧
      Patchable next path mark (before ++ block) blanks closing d' ∧
      d'.items = d.items ++ d.lacking folder ∧ (block = [] ↔ d.lacking folder = []) ∧
      (block = [] → next = tree) := by
  obtain ⟨o, hEnds⟩ := h.ends
  obtain ⟨block, o', hRender, hEnds', hItems, hBlock⟩ :=
    hEnds.render_append h.text_eq h.holds.parsed (d.lacking folder)
  obtain ⟨next, hRun, hRead, hSame⟩ := h.holds.patched_of_render hRender
  have hWritten : (String.ofList (mark ++ (before ++ block ++ blanks ++ closing))).toList =
      mark ++ (before ++ block ++ blanks ++ closing) := String.toList_ofList
  -- what is written is read back by the next registration
  obtain ⟨d', hParse, hFound, -⟩ := hEnds'.parse hWritten
  obtain ⟨-, hText⟩ := Document.appended_parse hParse
  refine ⟨next, d', block, hRun, ⟨⟨?_, ?_⟩, ?_, o', hEnds'⟩, hFound.trans hItems, hBlock, ?_⟩
  · rw [hRead, hText]
  · rw [hText, hParse]
  · rw [hText, String.toList_ofList]
  · rintro rfl
    refine hSame ?_
    rw [List.append_nil, ← h.text_eq, String.ofList_toList]

/-- The file changes exactly if the block that is put in is not empty. -/
theorem Patchable.readBytes_eq_iff {next : FileTree} {d' : Document} {block : List Char}
    (h : Patchable tree path mark before blanks closing d)
    (hNext : Patchable next path mark (before ++ block) blanks closing d') :
    next.readBytes path = tree.readBytes path ↔ block = [] := by
  rw [FileTree.readBytes_of_readText h.holds.read, FileTree.readBytes_of_readText hNext.holds.read]
  constructor
  · intro hBytes
    have hText : d'.text = d.text := String.toByteArray_inj.1 (Except.ok.inj hBytes)
    -- equal bytes are equal texts, and the block is all that one is longer by
    have hLength := congrArg List.length (congrArg String.toList hText)
    rw [h.text_eq, hNext.text_eq] at hLength
    simp only [List.length_append] at hLength
    exact List.length_eq_zero_iff.1 (by omega)
  · rintro rfl
    have hText : d'.text.toList = d.text.toList := by
      rw [h.text_eq, hNext.text_eq, List.append_nil]
    rw [String.toList_inj.1 hText]

/-! ## Many registrations -/

/-- **A run of registrations puts one block before the end tag** and references every folder. -/
theorem Patchable.patchedAll (h : Patchable tree path mark before blanks closing d)
    (folders : List String) :
    ∃ outcomes after d' block more, patchedAll path tree folders = (.ok outcomes, after) ∧
      Patchable after path mark (before ++ block) blanks closing d' ∧
      d'.items = d.items ++ more ∧
      ∀ folder ∈ folders, ∀ kind, d'.hasReference kind folder = true := by
  -- each registration begins in what the one before it left, with its block in front of the tag
  induction folders generalizing tree before d with
  | nil => exact ⟨[], tree, d, [], [], rfl, by rwa [List.append_nil], by simp, by simp⟩
  | cons folder folders ih =>
    obtain ⟨middle, d', block, hPatch, hMiddle, hItems, -⟩ := h.patched folder
    obtain ⟨outcomes, after, d'', later, more, hRun, hAfter, hGrown, hHas⟩ := ih hMiddle
    refine ⟨_, after, d'', block ++ later, d.lacking folder ++ more,
      patchedAll_append (patchedAll_singleton hPatch) hRun, ?_, ?_, ?_⟩
    · rwa [← List.append_assoc]
    · rw [hGrown, hItems, List.append_assoc]
    · intro other hIn kind
      rcases List.mem_cons.1 hIn with rfl | hLater
      · -- what the first registration added stays
        exact Document.hasReference_of_append hGrown
          (Document.hasReference_of_lacking hItems kind)
      · exact hHas other hLater kind

/-- What one registration does to a file that holds a document. -/
structure Registers (path : Path) (folder : String) (tree : FileTree) (d : Document)
    (outcome : PatchOutcome) (next : FileTree) (d' : Document) : Prop where
  run : patched path tree folder = (.ok outcome, next)
  holds : Holds next path d'
  /-- Items are added behind all others, at most one of each kind, and only of a kind of which no
  item named the folder. -/
  added : ∃ more, d'.items = d.items ++ more ∧
    (∀ kind, (more.filter (·.kind == kind)).length ≤ 1) ∧
    ∀ item ∈ more, d.hasReference item.kind folder = false
  changed : outcome.changed = true ↔ next.readBytes path ≠ tree.readBytes path

/-- A manifest that can be patched takes every registration. -/
theorem Patchable.registers (h : Patchable tree path mark before blanks closing d)
    (folder : String) : ∃ outcome next d', Registers path folder tree d outcome next d' := by
  obtain ⟨next, d', block, hRun, hNext, hItems, hBlock, -⟩ := h.patched folder
  refine ⟨_, next, d', hRun, hNext.holds, ⟨_, hItems, d.lacking_kinds folder, ?_⟩, ?_⟩
  · intro item hIn
    exact (Document.mem_lacking.1 hIn).1
  · rw [Document.changed_lackingOutcome, ne_eq, ne_eq, h.readBytes_eq_iff hNext, hBlock]

/-- A folder that is referenced by items of both kinds is registered without a change. -/
theorem Patchable.patched_of_hasReference (h : Patchable tree path mark before blanks closing d)
    {folder : String} (hHas : ∀ kind, d.hasReference kind folder = true) :
    Manifest.patched path tree folder = (.ok ⟨false, false⟩, tree) := by
  obtain ⟨next, d', block, hRun, -, -, hBlock, hSame⟩ := h.patched folder
  have hLacking : d.lacking folder = [] := Document.lacking_eq_nil_iff.2 hHas
  have hOutcome : d.lackingOutcome folder = ⟨false, false⟩ := by
    simp [Document.lackingOutcome, hHas]
  rw [hRun, hOutcome, hSame (hBlock.2 hLacking)]

end

/-- **Any run of registrations in a file that holds a manifest whose root has an end tag.** It
succeeds, it references every folder, and the text is the old one with one block right before the
blanks of the end tag. One more registration does what `Registers` says, and one of a folder of
the run changes nothing. -/
theorem patch_runs {tree : FileTree} {path : Path} {d : Document} {close : Nat}
    (hFile : Holds tree path d) (hMarks : ¬ [byteOrderMark, byteOrderMark] <+: d.text.toList)
    (hRoot : d.root = .tagged close) :
    ∃ before blanks closing, d.text.toList = before ++ blanks ++ closing ∧
      byteLength (before ++ blanks) = close ∧ (∃ name, EndTag name closing) ∧
      (∀ c ∈ blanks, Document.isIndent c = true) ∧
      (∀ c ∈ before.getLast?, Document.isIndent c = false) ∧
      ∀ folders, ∃ outcomes after d' block,
        patchedAll path tree folders = (.ok outcomes, after) ∧ Holds after path d' ∧
        d'.text.toList = before ++ block ++ blanks ++ closing ∧
        (∀ folder ∈ folders, ∀ kind, d'.hasReference kind folder = true) ∧
        (∀ folder, ∃ outcome next d'', Registers path folder after d' outcome next d'' ∧
          patchedAll path tree (folders ++ [folder]) = (.ok (outcomes ++ [outcome]), next)) ∧
        ∀ folder ∈ folders, patched path after folder = (.ok ⟨false, false⟩, after) := by
  -- the byte order mark belongs to what stands before the block
  obtain ⟨mark, body, hText, hMarked⟩ := exists_marked hMarks
  obtain ⟨before, blanks, closing, o, rfl, hClose, hEnds, -⟩ :=
    RootEnd.of_parse hText hMarked hFile.parsed hRoot
  have hPatchable : Patchable tree path mark before blanks closing d := ⟨hFile, hText, o, hEnds⟩
  obtain ⟨name, -, hEndTag⟩ := hEnds.closes
  refine ⟨mark ++ before, blanks, closing, by simp [hText], by simpa using hClose,
    ⟨name, hEndTag⟩, hEnds.blank, ?_, ?_⟩
  · exact hEnds.unblank_mark
  · intro folders
    obtain ⟨outcomes, after, d', block, -, hRun, hAfter, -, hHas⟩ := hPatchable.patchedAll folders
    refine ⟨outcomes, after, d', block, hRun, hAfter.holds, by simp [hAfter.text_eq], hHas, ?_, ?_⟩
    · intro folder
      obtain ⟨outcome, next, d'', hStep⟩ := hAfter.registers folder
      exact ⟨outcome, next, d'', hStep, patchedAll_append hRun (patchedAll_singleton hStep.run)⟩
    · intro folder hIn
      exact hAfter.patched_of_hasReference (hHas folder hIn)

/-- A project without items. -/
def emptyProject : Document where
  text := "<Project>\n</Project>"
  found := []
  root := .tagged 10
  lineEnding := .feed
  indent := "  "

/-- The only file of a tree, with a project without items in it. -/
def emptyProjectTree : FileTree where
  entries := [(["App.csproj"], .file emptyProject.text.toUTF8)]

theorem holds_emptyProject : Holds emptyProjectTree ⟨"App.csproj"⟩ emptyProject where
  read := by
    have hNames : FileTree.names ⟨"App.csproj"⟩ = ["App.csproj"] := by decide
    have hFits : ¬ FileTree.maxPathBytes < "App.csproj".utf8ByteSize := by decide
    have hTarget : emptyProjectTree.resolve ⟨"App.csproj"⟩ = .ok (.entry [] "App.csproj" false) := by
      simp [FileTree.resolve, hNames, hFits, FileTree.walk]
      rfl
    refine FileTree.readText_of_readBytes ?_
    rw [FileTree.readBytes, hTarget]
    rfl
  parsed := by cbv

theorem patch_runs_emptyProject :
    Holds emptyProjectTree ⟨"App.csproj"⟩ emptyProject ∧
      ¬ [byteOrderMark, byteOrderMark] <+: emptyProject.text.toList ∧
      emptyProject.root = .tagged 10 ∧
      ∃ outcomes after d',
        patchedAll ⟨"App.csproj"⟩ emptyProjectTree ["Generated", "Generated"] =
          (.ok outcomes, after) ∧
        Holds after ⟨"App.csproj"⟩ d' ∧
        (∀ kind, d'.hasReference kind "Generated" = true) ∧
        patched ⟨"App.csproj"⟩ after "Generated" = (.ok ⟨false, false⟩, after) := by
  have hMarks : ¬ [byteOrderMark, byteOrderMark] <+: emptyProject.text.toList := by decide
  obtain ⟨before, blanks, closing, -, -, -, -, -, hRuns⟩ :=
    patch_runs holds_emptyProject hMarks rfl
  obtain ⟨outcomes, after, d', block, hRun, hAfter, -, hHas, -, hAgain⟩ :=
    hRuns ["Generated", "Generated"]
  exact ⟨holds_emptyProject, hMarks, rfl, outcomes, after, d', hRun, hAfter,
    hHas "Generated" (by simp), hAgain "Generated" (by simp)⟩

end ScriptWindows.Manifest
