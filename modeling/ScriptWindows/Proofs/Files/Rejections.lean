import Mathlib
import ScriptWindows.Generate
import ScriptWindows.Proofs.Files.Places
import ScriptWindows.Proofs.Manifest.PatchRuns
import ScriptWindows.Proofs.Manifest.RootPlaces

/-!
# What a rejected request leaves behind

A request fails because the system does not let a folder or a file be made, or because it is
rejected: its manifest cannot be read, or its source file cannot be made. A rejected registration
leaves the tree as it was, and so does a source file that cannot be made. A window is generated
in several parts, and its source file is the only part that can be rejected after something was
written: by then the folder and the page are there.

Main results:

* `GenerationStops.of_generated`: a generation that fails does so at one of its parts, with the
  tree that the parts before it left.
* `generated_of_fault`: a source file that cannot be made leaves the folder and the page behind.
* `rejections_leave_tree`: what every rejected request leaves behind.
-/

namespace ScriptWindows

open Manifest Source Text

/-! ## Errors of the system -/

/-- Whether the system did not let a file be written. -/
def Manifest.ManifestError.isWriting : ManifestError → Bool
  | .write _ _ => true
  | _ => false

def Source.EmitError.isWriting : EmitError → Bool
  | .write _ _ => true
  | .mapping _ => false

/-- Whether the system did not let a folder be made or a file be written. -/
def GenerateError.isWriting : GenerateError → Bool
  | .createFolder _ _ => true
  | .emit cause => cause.isWriting
  | .manifest cause => cause.isWriting

/-! ## Writing a manifest -/

section
variable {tree after : FileTree} {path : Path}

/-- A manifest that is not written back either cannot be put together, which leaves the tree as it
is, or the system does not take it. -/
theorem save_error {d : Document} {e : ManifestError}
    (h : (d.save (m := StateM FileTree) path).run.run tree = (.error e, after)) :
    (∃ cause, d.render = .error cause ∧ e = .cut cause ∧ after = tree) ∨
      ∃ cause, e = .write path cause := by
  rw [Document.save] at h
  split at h
  · rename_i cause hRender
    obtain ⟨hError, hTree⟩ := Prod.mk.inj h
    exact .inl ⟨cause, hRender, (Except.error.inj hError).symm, hTree.symm⟩
  · obtain ⟨result, middle, -, hRest⟩ := run_lift_bind_error h
    cases result with
    | ok _ => cases hRest
    | error cause => exact .inr ⟨cause, (Except.error.inj (Prod.mk.inj hRest).1).symm⟩

/-- A document of a file can be put together with what a registration appends, unless the file
begins with two byte order marks. -/
theorem Manifest.Holds.exists_render_register {d : Document} (h : Holds tree path d)
    (hMarks : ¬ [byteOrderMark, byteOrderMark] <+: d.text.toList) (folder : String) :
    ∃ written, (d.register folder).2.render = .ok written := by
  obtain ⟨mark, body, hText, hMarked⟩ := exists_marked hMarks
  rw [Document.register_eq]
  exact exists_render hText hMarked h.parsed (d.lacking folder)

/-- A rejected registration leaves the tree as it is. -/
theorem patched_error {folder : String} {e : ManifestError}
    (h : patched path tree folder = (.error e, after)) (hRejected : e.isWriting = false) :
    after = tree := by
  rcases run_bind_error h with hLoad | ⟨d, middle, hLoad, hRest⟩
  · exact tree_of_load hLoad
  · obtain rfl := tree_of_load hLoad
    -- nothing follows the writing, so it is what failed
    rcases run_bind_error hRest with hSave | ⟨_, _, _, hDone⟩
    · rcases save_error hSave with ⟨cause, -, -, hTree⟩ | ⟨cause, rfl⟩
      · exact hTree
      · contradiction
    · cases hDone

/-! ## Writing generated files -/

theorem emitText_error {text : String} {e : EmitError}
    (h : (emitText (m := StateM FileTree) path text).run.run tree = (.error e, after)) :
    ∃ cause, e = .write path cause := by
  obtain ⟨result, middle, -, hRest⟩ := run_lift_bind_error h
  cases result with
  | ok _ => cases hRest
  | error cause => exact ⟨cause, (Except.error.inj (Prod.mk.inj hRest).1).symm⟩

/-- A generated text is written exactly if the system takes it. -/
theorem emitText_ok_iff {text : String} :
    (emitText (m := StateM FileTree) path text).run.run tree = (.ok (), after) ↔
      (Files.writeText path text : StateM FileTree _).run tree = (.ok (), after) := by
  cases hWrite : (Files.writeText path text : StateM FileTree _).run tree with
  | mk result middle =>
    rw [emitText, run_lift_bind hWrite]
    cases result with
    | ok _ =>
      -- nothing follows the write
      show (Except.ok (), middle) = _ ↔ _
      rw [Prod.mk.injEq, Prod.mk.injEq]
      simp
    | error cause =>
      constructor
      · intro hOk
        cases hOk
      · intro hOk
        cases hOk

/-- A page fails only where the system does not take it. -/
theorem emitPage_error {page : Page} {e : EmitError}
    (h : (emitPage (m := StateM FileTree) page path).run.run tree = (.error e, after)) :
    ∃ cause, e = .write path cause :=
  emitText_error h

/-- A source file fails where it cannot be made, which leaves the tree as it is, or where the
system does not take it. -/
theorem emitCodeBehind_error {code : CodeBehind} {e : EmitError}
    (h : (emitCodeBehind (m := StateM FileTree) code path).run.run tree = (.error e, after)) :
    (∃ cause, code.render = .error cause ∧ e = .mapping cause ∧ after = tree) ∨
      ∃ cause, e = .write path cause := by
  rw [emitCodeBehind] at h
  split at h
  · rename_i cause hRender
    obtain ⟨hError, hTree⟩ := Prod.mk.inj h
    exact .inl ⟨cause, hRender, (Except.error.inj hError).symm, hTree.symm⟩
  · exact .inr (emitText_error h)

end

/-! ## Generating a window -/

/-- Generate a window in a tree. -/
def generated (tree : FileTree) (r : GenerateRequest) :
    Except GenerateError GeneratedWindow × FileTree :=
  (generate (m := StateM FileTree) r).run.run tree

/-- A tree in which the folder of a window was made and its page written. -/
def PageStands (r : GenerateRequest) (tree paged : FileTree) : Prop :=
  ∃ made, (Files.createFolders r.folderPath : StateM FileTree _).run tree = (.ok (), made) ∧
    (Files.writeText r.pagePath r.page.render : StateM FileTree _).run made = (.ok (), paged)

/-- Where the generation of a window stops. Which tree is left is told for the parts that can
reject the request; what the system leaves of a folder or a file it does not make is its own. -/
inductive GenerationStops (r : GenerateRequest) (tree : FileTree) :
    GenerateError → FileTree → Prop
  | load {cause : ManifestError}
    (hLoad : (Document.load (m := StateM FileTree) r.manifest).run.run tree =
      (.error cause, tree)) : GenerationStops r tree (.manifest cause) tree
  | folder {cause : FileError} {after : FileTree} :
    GenerationStops r tree (.createFolder r.folderPath cause) after
  | page {cause : FileError} {after : FileTree} :
    GenerationStops r tree (.emit (.write r.pagePath cause)) after
  | code {paged : FileTree} {cause : MappingError} (hPage : PageStands r tree paged)
    (hCode : r.code.render = .error cause) :
    GenerationStops r tree (.emit (.mapping cause)) paged
  | codeWrite {cause : FileError} {after : FileTree} :
    GenerationStops r tree (.emit (.write r.codePath cause)) after
  | manifest {d : Document} {cause : NoBoundary} {after : FileTree}
    (hHolds : Holds tree r.manifest d) (hRender : (d.register r.folder).2.render = .error cause) :
    GenerationStops r tree (.manifest (.cut cause)) after
  | manifestWrite {cause : FileError} {after : FileTree} :
    GenerationStops r tree (.manifest (.write r.manifest cause)) after

/-- **A generation that fails does so at one of its parts**, in the tree that the parts before it
left. -/
theorem GenerationStops.of_generated {tree after : FileTree} {r : GenerateRequest}
    {e : GenerateError} (h : generated tree r = (.error e, after)) :
    GenerationStops r tree e after := by
  rw [generated, generate] at h
  -- the manifest is read first, and reading leaves the tree as it is
  rcases run_bind_error h with hFailed | ⟨d, loaded, hLoaded, hAfterLoad⟩
  · obtain ⟨cause, hLoad, rfl⟩ := run_adapt_error hFailed
    obtain rfl := tree_of_load hLoad
    exact .load hLoad
  have hLoad := run_adapt_ok hLoaded
  have hHolds := holds_of_load hLoad
  obtain rfl := tree_of_load hLoad
  -- the folder is made; from here on there is something to leave behind
  obtain ⟨result, made, hFolders, hAfterFolders⟩ := run_lift_bind_error hAfterLoad
  cases result with
  | error cause =>
    obtain ⟨hError, rfl⟩ := Prod.mk.inj hAfterFolders
    obtain rfl := Except.error.inj hError
    exact .folder
  | ok _ =>
    -- the page is written, and only the system can keep it from being written
    rcases run_bind_error hAfterFolders with hFailed | ⟨_, paged, hPaged, hAfterPage⟩
    · obtain ⟨cause, hPage, rfl⟩ := run_adapt_error hFailed
      obtain ⟨cause, rfl⟩ := emitPage_error hPage
      exact .page
    have hPage : PageStands r loaded paged :=
      ⟨made, hFolders, emitText_ok_iff.1 (run_adapt_ok hPaged)⟩
    -- the source file is the one part that can be rejected after that
    rcases run_bind_error hAfterPage with hFailed | ⟨_, coded, -, hAfterCode⟩
    · obtain ⟨cause, hCode, rfl⟩ := run_adapt_error hFailed
      rcases emitCodeBehind_error hCode with ⟨cause, hRender, rfl, rfl⟩ | ⟨cause, rfl⟩
      · exact .code hPage hRender
      · exact .codeWrite
    · -- the manifest is written back last, and nothing follows it
      rcases run_bind_error hAfterCode with hFailed | ⟨_, _, _, hDone⟩
      · obtain ⟨cause, hSave, rfl⟩ := run_adapt_error hFailed
        rcases save_error hSave with ⟨cause, hRender, rfl, -⟩ | ⟨cause, rfl⟩
        · exact .manifest hHolds hRender
        · exact .manifestWrite
      · cases hDone

/-- **A source file that cannot be made leaves the folder and the page behind.** -/
theorem generated_of_fault {tree paged : FileTree} {r : GenerateRequest} {d : Document}
    {cause : MappingError} (hHolds : Holds tree r.manifest d) (hPage : PageStands r tree paged)
    (hCode : r.code.render = .error cause) :
    generated tree r = (.error (.emit (.mapping cause)), paged) := by
  obtain ⟨made, hFolders, hWrite⟩ := hPage
  -- the parts before the source file go through, each in the tree that the one before it left
  have hLoad : ((Document.load (m := StateM FileTree) r.manifest).adapt
      GenerateError.manifest).run.run tree = (.ok d, tree) := by
    rw [run_adapt, hHolds.load]
    rfl
  have hEmit : ((emitPage (m := StateM FileTree) r.page r.pagePath).adapt
      GenerateError.emit).run.run made = (.ok (), paged) := by
    rw [run_adapt, emitPage, emitText_ok_iff.2 hWrite]
    rfl
  rw [generated, generate, run_bind_of_ok hLoad, run_lift_bind hFolders]
  refine (run_bind_of_ok hEmit).trans ?_
  -- the source file ends the matter without a write of its own
  rw [emitCodeBehind_of_fault hCode]
  rfl

/-- **What a rejected request leaves behind.** A registration and a source file leave the tree as
it was, and a page is never rejected. The generation of a window leaves the tree as it was too,
but for a source file that cannot be made, which is found out when the page is written, and for a
manifest that begins with two byte order marks. -/
theorem rejections_leave_tree (tree after : FileTree) :
    (∀ path folder e, patched path tree folder = (.error e, after) → e.isWriting = false →
      after = tree) ∧
    (∀ code path e,
      (emitCodeBehind (m := StateM FileTree) code path).run.run tree = (.error e, after) →
      e.isWriting = false → after = tree) ∧
    (∀ page path e, (emitPage (m := StateM FileTree) page path).run.run tree = (.error e, after) →
      e.isWriting = true) ∧
    ∀ r e, generated tree r = (.error e, after) → e.isWriting = false →
      after = tree ∨
      (∃ cause, r.code.render = .error cause ∧ e = .emit (.mapping cause) ∧
        PageStands r tree after) ∨
      ∃ cause text, e = .manifest (.cut cause) ∧ tree.readText r.manifest = .ok text ∧
        [byteOrderMark, byteOrderMark] <+: text.toList := by
  refine ⟨?_, ?_, ?_, ?_⟩
  · intro path folder e hRun hRejected
    exact patched_error hRun hRejected
  · intro code path e hRun hRejected
    rcases emitCodeBehind_error hRun with ⟨cause, -, -, hTree⟩ | ⟨cause, rfl⟩
    · exact hTree
    · contradiction
  · intro page path e hRun
    obtain ⟨cause, rfl⟩ := emitPage_error hRun
    rfl
  · intro r e hRun hRejected
    -- where it stopped tells what was left; the system's own failures are ruled out
    cases GenerationStops.of_generated hRun with
    | load hLoad => exact .inl rfl
    | code hPage hCode => exact .inr (.inl ⟨_, hCode, rfl, hPage⟩)
    | manifest hHolds hRender =>
      refine .inr (.inr ⟨_, _, rfl, hHolds.read, ?_⟩)
      by_contra hMarks
      -- without two marks a document can always be put together
      obtain ⟨written, hWritten⟩ := hHolds.exists_render_register hMarks r.folder
      rw [hRender] at hWritten
      contradiction
    | folder => contradiction
    | page => contradiction
    | codeWrite => contradiction
    | manifestWrite => contradiction

/-! ## A window that cannot be attributed -/

/-- A window whose constructor is attributed to line 0 of a script. -/
def unplacedWindow (manifest : String) : GenerateRequest where
  manifest := ⟨manifest⟩
  code := { constructorOrigin := some ⟨"ui.ps1", 0⟩ }

theorem render_unplacedWindow (manifest : String) :
    (unplacedWindow manifest).code.render = .error (.badLine "ui.ps1" 0) :=
  CodeBehind.render_of_constructorFault rfl (by decide)

/-- There is only one manifest in the tree of the empty project. -/
theorem load_missing :
    (Document.load (m := StateM FileTree) ⟨"Missing.csproj"⟩).run.run emptyProjectTree =
      (.error (.notFound ⟨"Missing.csproj"⟩), emptyProjectTree) := by
  have hTarget : emptyProjectTree.resolve ⟨"Missing.csproj"⟩ =
      .ok (.entry [] "Missing.csproj" false) :=
    FileTree.resolve_of_names [] (by decide) (by decide) (by decide) rfl
  have hNothing : emptyProjectTree.entryAt [] "Missing.csproj" = .ok none := by decide
  have hText : emptyProjectTree.readText ⟨"Missing.csproj"⟩ = .error .notFound := by
    simp [FileTree.readText, FileTree.readBytes, hTarget, hNothing, bind, Except.bind]
  rw [Document.load, run_lift_bind (run_readText _ emptyProjectTree), hText]
  rfl

theorem rejections_leave_tree_missing :
    ∃ first second third,
      patched ⟨"Missing.csproj"⟩ emptyProjectTree "Generated" =
        (.error (.notFound ⟨"Missing.csproj"⟩), first) ∧ first = emptyProjectTree ∧
      (emitCodeBehind (m := StateM FileTree) (unplacedWindow "App.csproj").code
          ⟨"MainWindow.xaml.cs"⟩).run.run emptyProjectTree =
        (.error (.mapping (.badLine "ui.ps1" 0)), second) ∧ second = emptyProjectTree ∧
      generated emptyProjectTree (unplacedWindow "Missing.csproj") =
        (.error (.manifest (.notFound ⟨"Missing.csproj"⟩)), third) ∧ third = emptyProjectTree := by
  have hPatch : patched ⟨"Missing.csproj"⟩ emptyProjectTree "Generated" =
      (.error (.notFound ⟨"Missing.csproj"⟩), emptyProjectTree) :=
    run_bind_of_error load_missing
  have hEmit : (emitCodeBehind (m := StateM FileTree) (unplacedWindow "App.csproj").code
      ⟨"MainWindow.xaml.cs"⟩).run.run emptyProjectTree =
        (.error (.mapping (.badLine "ui.ps1" 0)), emptyProjectTree) := by
    rw [emitCodeBehind_of_fault (render_unplacedWindow _)]
    rfl
  have hGenerate : generated emptyProjectTree (unplacedWindow "Missing.csproj") =
      (.error (.manifest (.notFound ⟨"Missing.csproj"⟩)), emptyProjectTree) := by
    have hLoad : ((Document.load (m := StateM FileTree) ⟨"Missing.csproj"⟩).adapt
        GenerateError.manifest).run.run emptyProjectTree =
          (.error (.manifest (.notFound ⟨"Missing.csproj"⟩)), emptyProjectTree) := by
      rw [run_adapt, load_missing]
      rfl
    exact run_bind_of_error hLoad
  obtain ⟨hPatched, hEmitted, -, hGenerated⟩ :=
    rejections_leave_tree emptyProjectTree emptyProjectTree
  refine ⟨_, _, _, hPatch, hPatched _ _ _ hPatch rfl, hEmit, hEmitted _ _ _ hEmit rfl, hGenerate,
    ?_⟩
  -- of the three ways only the first fits the error
  rcases hGenerated _ _ hGenerate rfl with hTree | ⟨_, _, hError, _⟩ | ⟨_, _, hError, _⟩
  · exact hTree
  · contradiction
  · cases hError

/-- The tree of the empty project, with the folder of generated files. -/
def folderTree : FileTree := emptyProjectTree.put ["Generated"] .folder

theorem createFolders_emptyProject :
    emptyProjectTree.createFolders ⟨"Generated"⟩ = (.ok (), folderTree) := by
  have hTarget : emptyProjectTree.resolve ⟨"Generated"⟩ = .ok (.entry [] "Generated" false) :=
    FileTree.resolve_of_names [] (by decide) (by decide) (by decide) rfl
  have hFree : emptyProjectTree.entryAt [] "Generated" = .ok none := by decide
  have hMade : emptyProjectTree.createFolder ⟨"Generated"⟩ = .ok folderTree := by
    simp [FileTree.createFolder, hTarget, hFree, bind, Except.bind, folderTree]
  rw [FileTree.createFolders, hMade]
  simp

/-- The tree of the empty project, with the folder and the page of a window. -/
def pagedTree : FileTree :=
  folderTree.put ["Generated", "MainWindow.xaml"]
    (.file (unplacedWindow "App.csproj").page.render.toUTF8)

theorem pageStands_unplacedWindow :
    PageStands (unplacedWindow "App.csproj") emptyProjectTree pagedTree := by
  refine ⟨folderTree, ?_, ?_⟩
  · have hPath : (unplacedWindow "App.csproj").folderPath = ⟨"Generated"⟩ := by decide
    show emptyProjectTree.createFolders (unplacedWindow "App.csproj").folderPath = _
    rw [hPath, createFolders_emptyProject]
  · have hTarget : folderTree.resolve ⟨"Generated/MainWindow.xaml"⟩ =
        .ok (.entry ["Generated"] "MainWindow.xaml" false) :=
      FileTree.resolve_of_names ["Generated"] (by decide) (by decide) (by decide) (by decide)
    have hFree : folderTree.entryAt ["Generated"] "MainWindow.xaml" = .ok none := by decide
    have hPath : (unplacedWindow "App.csproj").pagePath = ⟨"Generated/MainWindow.xaml"⟩ := by
      decide
    simp [Files.writeText, StateT.run, hPath, FileTree.writeBytes, hTarget, hFree, bind,
      Except.bind, pagedTree]

/-- The line is rejected, and the folder and the page are there. -/
theorem rejections_leave_tree_unplaced :
    ∃ after, generated emptyProjectTree (unplacedWindow "App.csproj") =
        (.error (.emit (.mapping (.badLine "ui.ps1" 0))), after) ∧
      (GenerateError.emit (.mapping (.badLine "ui.ps1" 0))).isWriting = false ∧
      after ≠ emptyProjectTree ∧ after.lookup ["Generated"] = some .folder ∧
      emptyProjectTree.lookup ["Generated"] = none := by
  have hRun := generated_of_fault (r := unplacedWindow "App.csproj") holds_emptyProject
    pageStands_unplacedWindow (render_unplacedWindow _)
  have hAfter : pagedTree.lookup ["Generated"] = some .folder := by decide
  have hBefore : emptyProjectTree.lookup ["Generated"] = none := by decide
  refine ⟨_, hRun, rfl, ?_, hAfter, hBefore⟩
  -- one tree has the folder and the other does not
  intro hSame
  rw [hSame, hBefore] at hAfter
  contradiction

end ScriptWindows
