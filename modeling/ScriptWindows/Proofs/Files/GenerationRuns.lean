import Mathlib
import ScriptWindows.Proofs.Files.Generation

/-!
# Runs of generations

Windows are generated one after another into one folder, with one manifest. Windows of different
classes never share a file, whatever the classes are called, and the folder is registered by the
first generation. So in the end each class has the files of the last window that was generated
for it, and generating that window again changes nothing.

Main results:

* `GenerateRequest.apart`: windows of different classes have no file in common.
* `Settled.generated`: a generation into a folder that is registered changes no other window's
  files, and not the manifest.
* `Settled.again`: generating a window whose files stand changes nothing.
* `generation_runs`: what any run of generations leaves.
-/

namespace ScriptWindows

open Manifest Source FileTree Text

/-- Generate windows in a tree, one after another, up to the first failure. -/
def generatedAll (tree : FileTree) (requests : List GenerateRequest) :
    Except GenerateError (List GeneratedWindow) × FileTree :=
  (requests.mapM (generate (m := StateM FileTree))).run.run tree

variable {tree made paged coded middle after : FileTree} {r other : GenerateRequest}
  {requests : List GenerateRequest} {w : GeneratedWindow} {windows : List GeneratedWindow}
  {d : Document} {manifest : Path} {folder : String}

/-- Nothing is generated for no requests. -/
theorem generatedAll_nil_ok_iff :
    generatedAll tree [] = (.ok windows, after) ↔ windows = [] ∧ after = tree := by
  show (Except.ok [], tree) = _ ↔ _
  rw [Prod.mk.injEq, Except.ok.injEq, eq_comm, eq_comm (a := tree)]

/-- A run goes on from where its first generation ended. -/
theorem generatedAll_cons_ok_iff :
    generatedAll tree (r :: requests) = (.ok windows, after) ↔
      ∃ w rest middle, generated tree r = (.ok w, middle) ∧
        generatedAll middle requests = (.ok rest, after) ∧ windows = w :: rest := by
  rw [generatedAll, List.mapM_cons, run_bind_ok_iff]
  constructor
  · rintro ⟨w, middle, hFirst, hRest⟩
    obtain ⟨rest, last, hRun, hDone⟩ := run_bind_ok_iff.1 hRest
    obtain ⟨hWindows, rfl⟩ := Prod.mk.inj hDone
    exact ⟨w, rest, middle, hFirst, hRun, (Except.ok.inj hWindows).symm⟩
  · rintro ⟨w, rest, middle, hFirst, hRun, rfl⟩
    exact ⟨w, middle, hFirst, run_bind_ok_iff.2 ⟨rest, after, hRun, rfl⟩⟩

/-! ## Files of different windows -/

/-- The folder of this name beside a manifest. -/
def folderBeside (manifest : Path) (folder : String) : Path :=
  (manifest.parent.getD ⟨"."⟩).join ⟨folder⟩

/-- The endings of the files of a window. -/
def endings : List String := [".xaml", ".xaml.cs"]

/-- A window that belongs to a manifest and a folder, with a class name that is a single name. -/
structure GenerateRequest.BelongsTo (r : GenerateRequest) (manifest : Path) (folder : String) :
    Prop where
  manifest_eq : r.manifest = manifest
  folder_eq : r.folder = folder
  single : '/' ∉ r.code.className.toList

namespace GenerateRequest

/-- Requests that belong together write to one folder. -/
theorem BelongsTo.folderPath_eq (h : r.BelongsTo manifest folder) :
    r.folderPath = folderBeside manifest folder := by
  rw [folderPath, folderBeside, h.manifest_eq, h.folder_eq]

/-- The paths of a window's files. -/
def files (r : GenerateRequest) : List Path := [r.pagePath, r.codePath]

/-- The files of a request are its page and its source file, by their endings. -/
theorem mem_files {path : Path} :
    path ∈ r.files ↔
      ∃ ending ∈ endings, path = r.folderPath.join ⟨r.code.className ++ ending⟩ := by
  simp [files, endings, pagePath, codePath]

/-- A file name tells its class and its ending. -/
theorem class_eq_of_append {name name' ending ending' : String} (h : ending ∈ endings)
    (h' : ending' ∈ endings) (hSame : name ++ ending = name' ++ ending') : name = name' := by
  -- the two endings have different last characters
  have hLast := congrArg (fun text : String => text.toList.getLast?) hSame
  simp only [endings, List.mem_cons, List.not_mem_nil, or_false] at h h'
  rcases h with rfl | rfl <;> rcases h' with rfl | rfl
  · exact (String.append_left_inj _).1 hSame
  · simp at hLast
  · simp at hLast
  · exact (String.append_left_inj _).1 hSame

/-- **Windows of different classes have no file in common.** -/
theorem apart {path path' : Path} {place place' : Location} (h : r.BelongsTo manifest folder)
    (hOther : other.BelongsTo manifest folder) (hClass : r.code.className ≠ other.code.className)
    (hPath : path ∈ r.files) (hPath' : path' ∈ other.files) (hLeads : tree.LeadsTo path place)
    (hLeads' : after.LeadsTo path' place') : place ≠ place' := by
  obtain ⟨ending, hEnding, rfl⟩ := mem_files.1 hPath
  obtain ⟨ending', hEnding', rfl⟩ := mem_files.1 hPath'
  rw [hOther.folderPath_eq] at hLeads'
  rw [h.folderPath_eq] at hLeads
  have hEndings : ∀ ending ∈ endings, IsEnding ending := by
    intro ending hIn
    simp only [endings, List.mem_cons, List.not_mem_nil, or_false] at hIn
    rcases hIn with rfl | rfl
    · exact ⟨by decide, by decide⟩
    · exact ⟨by decide, by decide⟩
  -- both files are names in the folder, as no separator stands in either name
  obtain ⟨folders, start, hNames⟩ := exists_names_join (folderBeside manifest folder) ""
  have hName := hNames _ ((hEndings _ hEnding).append h.single)
  have hName' := hNames _ ((hEndings _ hEnding').append hOther.single)
  rw [String.empty_append] at hName hName'
  refine hLeads.ne_of_names hLeads' hName hName' ?_
  intro hSame
  exact hClass (class_eq_of_append hEnding hEnding' ((String.append_right_inj start).1 hSame))

/-- No file of a request lies where the manifest does. -/
theorem SparesManifest.of_mem {path : Path} {place : Location} (h : r.SparesManifest tree)
    (hManifest : tree.LeadsTo r.manifest place) (hPath : path ∈ r.files) :
    ¬ tree.LeadsTo path place := by
  simp only [files, List.mem_cons, List.not_mem_nil, or_false] at hPath
  rcases hPath with rfl | rfl
  · exact (h place hManifest).1
  · exact (h place hManifest).2

/-- It stays so in a tree with the same folders. -/
theorem SparesManifest.sameBut {written : List Location} (h : r.SparesManifest made)
    (hSame : SameBut written made tree) : r.SparesManifest tree := by
  intro place hManifest
  rw [hSame.leadsTo_iff] at hManifest
  rw [hSame.leadsTo_iff, hSame.leadsTo_iff]
  exact h place hManifest

end GenerateRequest

/-! ## Files that stand -/

/-- The files of a window hold what the window is made of. -/
structure Stands (r : GenerateRequest) (tree : FileTree) : Prop where
  page : tree.readText r.pagePath = .ok r.page.render
  code : ∃ text, r.code.render = .ok text ∧ tree.readText r.codePath = .ok text

/-- A window that stands still stands when its files are not written over. -/
theorem Stands.keeps {written : List Location} (h : Stands r tree)
    (hKeeps : Keeps written tree after)
    (hApart : ∀ path ∈ r.files, ∀ place ∈ written, ¬ tree.LeadsTo path place) :
    Stands r after := by
  obtain ⟨hPage, text, hText, hCode⟩ := h
  exact ⟨hKeeps.readText (hApart _ (by simp [GenerateRequest.files])) hPage, text, hText,
    hKeeps.readText (hApart _ (by simp [GenerateRequest.files])) hCode⟩

namespace GenerationParts

/-- After a generation the files of its window stand. -/
theorem stands (h : GenerationParts r tree made paged coded after d)
    (hSpares : r.SparesManifest made) : Stands r after :=
  ⟨(h.written hSpares).page, (h.written hSpares).code⟩

/-- **A generation leaves the windows of other classes alone.** -/
theorem stands_other (h : GenerationParts r tree made paged coded after d)
    (hR : r.BelongsTo manifest folder) (hOther : other.BelongsTo manifest folder)
    (hClass : r.code.className ≠ other.code.className) (hSpares : r.SparesManifest made)
    (hSparesOther : other.SparesManifest made) (hStands : Stands other tree) :
    Stands other after := by
  have hMade := keeps_createFolders tree r.folderPath
  rw [h.folder] at hMade
  obtain ⟨page, code, written, hPage, hCode, hManifest, hSame⟩ := (h.written hSpares).others
  refine (hStands.keeps hMade (by simp)).keeps hSame.keeps ?_
  intro path hPath place hIn hLeads
  simp only [List.mem_cons, List.not_mem_nil, or_false] at hIn
  -- the page, the source file and the manifest are the places that were written
  rcases hIn with rfl | rfl | rfl
  · exact GenerateRequest.apart hR hOther hClass (by simp [GenerateRequest.files]) hPath hPage
      hLeads rfl
  · exact GenerateRequest.apart hR hOther hClass (by simp [GenerateRequest.files]) hPath hCode
      hLeads rfl
  · rw [hSame.leadsTo_iff, hR.manifest_eq, ← hOther.manifest_eq] at hManifest
    exact hSparesOther.of_mem hManifest hPath hLeads

end GenerationParts

/-! ## A folder that is registered -/

namespace Manifest

/-- A manifest file holds one document. -/
theorem Holds.unique {d' : Document} (h : Holds tree manifest d) (h' : Holds tree manifest d') :
    d = d' := by
  have hLoad := h.load.symm.trans h'.load
  exact Except.ok.inj (Prod.mk.inj hLoad).1

/-- A file whose root has an end tag can be registered in. -/
theorem Holds.exists_patchable {close : Nat} (h : Holds tree manifest d)
    (hMarks : ¬ [byteOrderMark, byteOrderMark] <+: d.text.toList) (hRoot : d.root = .tagged close) :
    ∃ mark before blanks closing, Patchable tree manifest mark before blanks closing d := by
  obtain ⟨mark, body, hText, hMarked⟩ := exists_marked hMarks
  obtain ⟨before, blanks, closing, o, rfl, -, hEnds, -⟩ :=
    RootEnd.of_parse hText hMarked h.parsed hRoot
  exact ⟨mark, before, blanks, closing, h, hText, o, hEnds⟩

/-- Whether a manifest can be patched depends on its document alone. -/
theorem Patchable.of_holds {mark before blanks closing : List Char}
    (h : Patchable tree manifest mark before blanks closing d) (hHolds : Holds after manifest d) :
    Patchable after manifest mark before blanks closing d :=
  ⟨hHolds, h.text_eq, h.ends⟩

/-- A registration saves what it registered. -/
theorem Holds.save_of_patched {outcome : PatchOutcome} (h : Holds tree manifest d)
    (hRun : patched manifest tree folder = (.ok outcome, after)) :
    ((d.register folder).2.save (m := StateM FileTree) manifest).run.run tree =
      (.ok (), after) := by
  rw [patched, patch, run_bind_of_ok h.load] at hRun
  obtain ⟨_, _, hSave, hDone⟩ := run_bind_ok_iff.1 hRun
  obtain ⟨-, rfl⟩ := Prod.mk.inj hDone
  exact hSave

end Manifest

/-- Writing what a file holds changes nothing. -/
theorem writeText_of_same {path : Path} {text : String} (h : tree.readText path = .ok text) :
    (Files.writeText path text : StateM FileTree _).run tree = (.ok (), tree) := by
  obtain ⟨next, hWrite, -, hSame⟩ := FileTree.writeText_of_readText h text
  rw [hWrite, hSame rfl]

/-- A tree in which the folder of a manifest was made and is registered. Nothing but files was
written since the folder was made. -/
structure Settled (manifest : Path) (folder : String) (made tree : FileTree) (d : Document) :
    Prop where
  stands : ∃ first : FileTree,
    first.createFolders (folderBeside manifest folder) = (.ok (), made)
  same : ∃ written, SameBut written made tree
  patchable : ∃ mark before blanks closing, Patchable tree manifest mark before blanks closing d
  has : ∀ kind, d.hasReference kind folder = true

/-- Once it is there the folder is not made again. -/
theorem Settled.createFolders (h : Settled manifest folder made tree d)
    (hR : r.BelongsTo manifest folder) : tree.createFolders r.folderPath = (.ok (), tree) := by
  obtain ⟨first, hMade⟩ := h.stands
  obtain ⟨written, hSame⟩ := h.same
  rw [hR.folderPath_eq]
  exact hSame.keeps.createFolders hMade

/-- A generation registers its folder in the manifest as it was read. -/
theorem GenerationParts.registers {mark before blanks closing : List Char} {read : Document}
    (hParts : GenerationParts r tree made paged coded after read)
    (h : Patchable tree manifest mark before blanks closing d) (hR : r.BelongsTo manifest folder)
    (hSpares : r.SparesManifest made) :
    read = d ∧ Patchable coded manifest mark before blanks closing d ∧
      Manifest.patched manifest coded folder = (.ok (d.register folder).1, after) := by
  have hRead := hParts.holds
  have hCoded := hParts.holds_coded hSpares
  have hPatched := hParts.patched hSpares
  rw [hR.manifest_eq] at hRead hCoded hPatched
  rw [hR.folder_eq] at hPatched
  obtain rfl := hRead.unique h.holds
  exact ⟨rfl, h.of_holds hCoded, hPatched⟩

/-- The first generation into a folder registers it. -/
theorem settled_of_generated {mark before blanks closing : List Char}
    (h : Patchable tree manifest mark before blanks closing d) (hR : r.BelongsTo manifest folder)
    (hSpares : ∀ made, tree.createFolders r.folderPath = (.ok (), made) → r.SparesManifest made)
    (hRun : generated tree r = (.ok w, after)) :
    ∃ made d', tree.createFolders r.folderPath = (.ok (), made) ∧
      Settled manifest folder made after d' ∧ d'.items = d.items ++ d.lacking folder ∧
      Stands r after := by
  obtain ⟨made, paged, coded, read, hParts, -⟩ := generated_ok_iff.1 hRun
  have hSparesMade := hSpares made hParts.folder
  obtain ⟨_, _, _, -, -, -, hSame⟩ := (hParts.written hSparesMade).others
  obtain ⟨-, hCoded, hPatched⟩ := hParts.registers h hR hSparesMade
  obtain ⟨next, d', block, hNext, hPatchable, hItems, -⟩ := hCoded.patched folder
  obtain ⟨-, rfl⟩ := Prod.mk.inj (hPatched.symm.trans hNext)
  have hFolder := hParts.folder
  rw [hR.folderPath_eq] at hFolder
  exact ⟨made, d', hParts.folder, ⟨⟨tree, hFolder⟩, ⟨_, hSame⟩, ⟨_, _, _, _, hPatchable⟩,
    fun kind => Document.hasReference_of_lacking hItems kind⟩, hItems, hParts.stands hSparesMade⟩

/-- **A generation into a folder that is registered** changes neither the manifest nor the windows
of other classes. -/
theorem Settled.generated (h : Settled manifest folder made tree d)
    (hR : r.BelongsTo manifest folder) (hSpares : r.SparesManifest made)
    (hRun : generated tree r = (.ok w, after)) :
    Settled manifest folder made after d ∧ w.patch = ⟨false, false⟩ ∧ Stands r after ∧
      ∀ other, other.BelongsTo manifest folder → other.SparesManifest made →
        r.code.className ≠ other.code.className → Stands other tree → Stands other after := by
  obtain ⟨_, paged, coded, read, hParts, rfl⟩ := generated_ok_iff.1 hRun
  obtain ⟨written, hSame⟩ := h.same
  obtain ⟨mark, before, blanks, closing, hPatchable⟩ := h.patchable
  -- the folder is there, so the parts begin in the tree as it is
  obtain rfl := (Prod.mk.inj (hParts.folder.symm.trans (h.createFolders hR))).2
  have hSparesTree := hSpares.sameBut hSame
  obtain ⟨_, _, _, -, -, -, hSameAfter⟩ := (hParts.written hSparesTree).others
  obtain ⟨rfl, hCoded, hPatched⟩ := hParts.registers hPatchable hR hSparesTree
  obtain ⟨hOutcome, rfl⟩ :=
    Prod.mk.inj (hPatched.symm.trans (hCoded.patched_of_hasReference h.has))
  refine ⟨⟨h.stands, ⟨_, hSame.trans hSameAfter⟩, ⟨_, _, _, _, hCoded⟩, h.has⟩, ?_,
    hParts.stands hSparesTree, ?_⟩
  · rw [hR.folder_eq]
    exact Except.ok.inj hOutcome
  · intro other hOther hSparesOther hClass hStands
    exact hParts.stands_other hR hOther hClass hSparesTree (hSparesOther.sameBut hSame) hStands

/-- **Generating a window whose files stand changes nothing.** -/
theorem Settled.again (h : Settled manifest folder made tree d) (hR : r.BelongsTo manifest folder)
    (hStands : Stands r tree) :
    ScriptWindows.generated tree r =
      (.ok ⟨r.pagePath, r.codePath, ⟨false, false⟩⟩, tree) := by
  obtain ⟨mark, before, blanks, closing, hPatchable⟩ := h.patchable
  obtain ⟨source, hSource, hCode⟩ := hStands.code
  have hRegister := Document.register_of_referenced h.has
  have hSave := hPatchable.holds.save_of_patched (hPatchable.patched_of_hasReference h.has)
  refine generated_ok_iff.2 ⟨tree, tree, tree, d, ⟨?_, h.createFolders hR, ?_, ?_, ?_⟩, ?_⟩
  · rw [hR.manifest_eq]
    exact hPatchable.holds
  · exact emitText_ok_iff.2 (writeText_of_same hStands.page)
  · exact emitCodeBehind_ok_iff.2 ⟨source, hSource, writeText_of_same hCode⟩
  · rw [hR.manifest_eq, hR.folder_eq]
    exact hSave
  · rw [hR.folder_eq, hRegister]

/-! ## Runs -/

/-- The last request of a run for its class. -/
def IsLast (r : GenerateRequest) (requests : List GenerateRequest) : Prop :=
  ∃ before later, requests = before ++ r :: later ∧
    ∀ other ∈ later, other.code.className ≠ r.code.className

/-- The last request of a class is the last one of the later requests, or there is no later one. -/
theorem IsLast.cases {first : GenerateRequest} (h : IsLast r (first :: requests)) :
    IsLast r requests ∨
      r = first ∧ ∀ other ∈ requests, other.code.className ≠ r.code.className := by
  obtain ⟨before, later, hSplit, hLater⟩ := h
  cases before with
  | nil =>
    obtain ⟨rfl, rfl⟩ := List.cons.inj hSplit
    exact .inr ⟨rfl, hLater⟩
  | cons _ before => exact .inl ⟨before, later, (List.cons.inj hSplit).2, hLater⟩

/-- It stays the last one when a request comes before all others. -/
theorem IsLast.cons (h : IsLast r requests) (first : GenerateRequest) :
    IsLast r (first :: requests) := by
  obtain ⟨before, later, rfl, hLater⟩ := h
  exact ⟨first :: before, later, rfl, hLater⟩

/-- Every class of a run has a last request. -/
theorem exists_isLast (hIn : r ∈ requests) :
    ∃ last, IsLast last requests ∧ last.code.className = r.code.className := by
  induction requests generalizing r with
  | nil => contradiction
  | cons first rest ih =>
    by_cases hLater : ∃ other ∈ rest, other.code.className = r.code.className
    · obtain ⟨other, hOther, hClass⟩ := hLater
      obtain ⟨last, hLast, hSame⟩ := ih hOther
      exact ⟨last, hLast.cons first, hSame.trans hClass⟩
    · push Not at hLater
      rcases List.mem_cons.1 hIn with rfl | hRest
      · exact ⟨r, ⟨[], rest, rfl, hLater⟩, rfl⟩
      · exact absurd rfl (hLater r hRest)

/-- **A run into a folder that is registered** changes neither the manifest nor the windows of
classes that it does not generate, and the last window of each class stands. -/
theorem Settled.generatedAll (h : Settled manifest folder made tree d)
    (hAll : ∀ r ∈ requests, r.BelongsTo manifest folder ∧ r.SparesManifest made)
    (hRun : generatedAll tree requests = (.ok windows, after)) :
    Settled manifest folder made after d ∧ (∀ w ∈ windows, w.patch = ⟨false, false⟩) ∧
      (∀ r, IsLast r requests → Stands r after) ∧
      ∀ other, other.BelongsTo manifest folder → other.SparesManifest made →
        (∀ r ∈ requests, r.code.className ≠ other.code.className) → Stands other tree →
        Stands other after := by
  induction requests generalizing tree windows with
  | nil =>
    obtain ⟨rfl, rfl⟩ := generatedAll_nil_ok_iff.1 hRun
    refine ⟨h, by simp, ?_, fun _ _ _ _ hStands => hStands⟩
    rintro r ⟨before, later, hSplit, -⟩
    simp at hSplit
  | cons first rest ih =>
    obtain ⟨w, others, middle, hFirst, hRest, rfl⟩ := generatedAll_cons_ok_iff.1 hRun
    rw [List.forall_mem_cons] at hAll
    obtain ⟨⟨hBelongs, hSpares⟩, hOthers⟩ := hAll
    obtain ⟨hMiddle, hPatch, hStands, hKept⟩ := h.generated hBelongs hSpares hFirst
    obtain ⟨hAfter, hPatches, hLasts, hKeptRest⟩ := ih hMiddle hOthers hRest
    refine ⟨hAfter, List.forall_mem_cons.2 ⟨hPatch, hPatches⟩, ?_, ?_⟩
    · intro r hLast
      -- the last of its class is made by the rest of the run, or kept by it
      rcases hLast.cases with hLater | ⟨rfl, hLater⟩
      · exact hLasts r hLater
      · exact hKeptRest r hBelongs hSpares hLater hStands
    · intro other hOther hSparesOther hClass hStandsOther
      rw [List.forall_mem_cons] at hClass
      exact hKeptRest other hOther hSparesOther hClass.2
        (hKept other hOther hSparesOther hClass.1 hStandsOther)

/-! ## Runs that go through -/

/-- A window whose files can be made in a folder. -/
structure Makeable (r : GenerateRequest) (made : FileTree) : Prop where
  page : ∃ parent name, made.Takes r.pagePath parent name
  code : ∃ parent name, made.Takes r.codePath parent name
  source : ∃ text, r.code.render = .ok text

/-- **Windows that can be made one by one are made in a run.** -/
theorem Settled.exists_generatedAll (h : Settled manifest folder made tree d)
    (hAll : ∀ r ∈ requests, r.BelongsTo manifest folder ∧ r.SparesManifest made)
    (hMakeable : ∀ r ∈ requests, Makeable r made) :
    ∃ windows after, ScriptWindows.generatedAll tree requests = (.ok windows, after) := by
  induction requests generalizing tree with
  | nil => exact ⟨[], tree, rfl⟩
  | cons first rest ih =>
    rw [List.forall_mem_cons] at hAll hMakeable
    obtain ⟨⟨hBelongs, hSpares⟩, hOthers⟩ := hAll
    obtain ⟨⟨⟨_, _, hPage⟩, ⟨_, _, hCode⟩, _, hSource⟩, hRest⟩ := hMakeable
    obtain ⟨written, hSame⟩ := h.same
    obtain ⟨mark, before, blanks, closing, hPatchable⟩ := h.patchable
    have hHolds := hPatchable.holds
    have hPatched := hPatchable.patched_of_hasReference h.has
    obtain ⟨text, hText, -⟩ := save_ok_iff.1 (hHolds.save_of_patched hPatched)
    rw [← hBelongs.manifest_eq] at hHolds
    rw [← hBelongs.folder_eq] at hText
    obtain ⟨middle, hFirst⟩ := exists_generated hHolds hText (h.createFolders hBelongs)
      (hSpares.sameBut hSame) (hSame.takes hPage) (hSame.takes hCode) hSource
    obtain ⟨windows, after, hRun⟩ :=
      ih (h.generated hBelongs hSpares hFirst).1 hOthers hRest
    exact ⟨_, after, generatedAll_cons_ok_iff.2 ⟨_, windows, middle, hFirst, hRun, rfl⟩⟩

/-- **Any run of generations into one folder.** In the end the last window of each class stands,
and generating it again changes nothing. The manifest has gained at most one item of each kind,
all of them for the folder, and it has gained them with the first window. -/
theorem generation_runs {tree after : FileTree} {manifest : Path} {folder : String} {d : Document}
    {close : Nat} {requests : List GenerateRequest} {windows : List GeneratedWindow}
    (hFile : Holds tree manifest d) (hMarks : ¬ [byteOrderMark, byteOrderMark] <+: d.text.toList)
    (hRoot : d.root = .tagged close)
    (hOne : ∀ r ∈ requests, r.BelongsTo manifest folder)
    (hSpares : ∀ r ∈ requests, ∀ made, tree.createFolders r.folderPath = (.ok (), made) →
      r.SparesManifest made)
    (hRun : generatedAll tree requests = (.ok windows, after)) :
    (∀ r ∈ requests, ∃ last, IsLast last requests ∧ last.code.className = r.code.className) ∧
      (∀ last, IsLast last requests → Stands last after ∧
        generated after last = (.ok ⟨last.pagePath, last.codePath, ⟨false, false⟩⟩, after)) ∧
      ∃ d' more, Holds after manifest d' ∧ d'.items = d.items ++ more ∧
        (∀ kind, (more.filter (·.kind == kind)).length ≤ 1) ∧
        (∀ item ∈ more, item.files = item.kind.pattern folder) ∧
        (∀ first rest, requests = first :: rest → ∃ w middle,
          generated tree first = (.ok w, middle) ∧ Holds middle manifest d') ∧
        ∀ w ∈ windows.tail, w.patch = ⟨false, false⟩ := by
  refine ⟨fun r hIn => exists_isLast hIn, ?_⟩
  cases requests with
  | nil =>
    obtain ⟨rfl, rfl⟩ := generatedAll_nil_ok_iff.1 hRun
    refine ⟨?_, d, [], hFile, by simp, by simp, by simp, by simp, by simp⟩
    rintro last ⟨before, later, hSplit, -⟩
    simp at hSplit
  | cons first rest =>
    obtain ⟨w, others, middle, hFirst, hRest, rfl⟩ := generatedAll_cons_ok_iff.1 hRun
    rw [List.forall_mem_cons] at hOne hSpares
    obtain ⟨_, _, _, _, hPatchable⟩ := hFile.exists_patchable hMarks hRoot
    -- the first window registers the folder, and the others find it registered
    obtain ⟨made, d', hMade, hMiddle, hItems, hStands⟩ :=
      settled_of_generated hPatchable hOne.1 hSpares.1 hFirst
    have hSparesFirst := hSpares.1 made hMade
    have hAll : ∀ r ∈ rest, r.BelongsTo manifest folder ∧ r.SparesManifest made := by
      intro r hIn
      refine ⟨hOne.2 r hIn, hSpares.2 r hIn made ?_⟩
      rw [(hOne.2 r hIn).folderPath_eq, ← hOne.1.folderPath_eq, hMade]
    obtain ⟨hAfter, hPatches, hLasts, hKept⟩ := hMiddle.generatedAll hAll hRest
    refine ⟨?_, d', d.lacking folder, ?_, hItems, d.lacking_kinds folder, ?_, ?_, hPatches⟩
    · intro last hLast
      have hStandsLast : Stands last after ∧ last.BelongsTo manifest folder := by
        rcases hLast.cases with hLater | ⟨rfl, hLater⟩
        · refine ⟨hLasts last hLater, hOne.2 last ?_⟩
          obtain ⟨before, later, rfl, -⟩ := hLater
          simp
        · exact ⟨hKept last hOne.1 hSparesFirst hLater hStands, hOne.1⟩
      exact ⟨hStandsLast.1, hAfter.again hStandsLast.2 hStandsLast.1⟩
    · obtain ⟨_, _, _, _, hHolds⟩ := hAfter.patchable
      exact hHolds.holds
    · intro item hIn
      exact (Document.mem_lacking.1 hIn).2
    · intro _ _ hSplit
      obtain ⟨rfl, rfl⟩ := List.cons.inj hSplit
      obtain ⟨_, _, _, _, hHolds⟩ := hMiddle.patchable
      exact ⟨w, middle, hFirst, hHolds.holds⟩

/-- Two windows of the empty project, the first of them made twice. -/
def greetings : List GenerateRequest :=
  [greeting "MainWindow" "Hello", greeting "About" "Version", greeting "MainWindow" "Goodbye"]

theorem belongsTo_greetings : ∀ r ∈ greetings, r.BelongsTo ⟨"App.csproj"⟩ "Generated" := by
  simp only [greetings, List.forall_mem_cons, List.not_mem_nil, false_imp_iff, implies_true,
    and_true]
  exact ⟨⟨rfl, rfl, by decide⟩, ⟨rfl, rfl, by decide⟩, ⟨rfl, rfl, by decide⟩⟩

theorem spares_greetings : ∀ r ∈ greetings, ∀ tree, r.SparesManifest tree := by
  simp only [greetings, List.forall_mem_cons, List.not_mem_nil, false_imp_iff, implies_true,
    and_true]
  exact ⟨spares_greeting "MainWindow.xaml" "MainWindow.xaml.cs" (by decide) (by decide) (by decide),
    spares_greeting "About.xaml" "About.xaml.cs" (by decide) (by decide) (by decide),
    spares_greeting "MainWindow.xaml" "MainWindow.xaml.cs" (by decide) (by decide) (by decide)⟩

theorem makeable_greetings : ∀ r ∈ greetings.tail, Makeable r folderTree := by
  simp only [greetings, List.tail_cons, List.forall_mem_cons, List.not_mem_nil, false_imp_iff,
    implies_true, and_true]
  refine ⟨⟨⟨_, _, takes_folderTree "About.xaml" (by decide) (by decide) (by decide)⟩,
    ⟨_, _, takes_folderTree "About.xaml.cs" (by decide) (by decide) (by decide)⟩, _, rfl⟩,
    ⟨⟨_, _, takes_folderTree "MainWindow.xaml" (by decide) (by decide) (by decide)⟩,
    ⟨_, _, takes_folderTree "MainWindow.xaml.cs" (by decide) (by decide) (by decide)⟩, _, rfl⟩⟩

/-- The windows can all be made. -/
theorem exists_generatedAll_greetings :
    ∃ windows after, generatedAll emptyProjectTree greetings = (.ok windows, after) := by
  obtain ⟨middle, hFirst⟩ := exists_generated_greeting
  obtain ⟨_, _, _, _, hPatchable⟩ := holds_emptyProject.exists_patchable (by decide) rfl
  obtain ⟨made, d', hMade, hMiddle, -⟩ := settled_of_generated hPatchable
    (belongsTo_greetings _ List.mem_cons_self)
    (fun made _ => spares_greetings _ List.mem_cons_self made) hFirst
  obtain rfl : made = folderTree :=
    (Prod.mk.inj (hMade.symm.trans createFolders_emptyProject)).2
  have hAll : ∀ r ∈ greetings.tail,
      r.BelongsTo ⟨"App.csproj"⟩ "Generated" ∧ r.SparesManifest folderTree :=
    fun r hIn => ⟨belongsTo_greetings r (List.mem_of_mem_tail hIn),
      spares_greetings r (List.mem_of_mem_tail hIn) folderTree⟩
  obtain ⟨windows, after, hRest⟩ := hMiddle.exists_generatedAll hAll makeable_greetings
  exact ⟨_, after, generatedAll_cons_ok_iff.2 ⟨_, windows, middle, hFirst, hRest, rfl⟩⟩

theorem generation_runs_greetings :
    ∃ windows after, generatedAll emptyProjectTree greetings = (.ok windows, after) ∧
      after.readText ⟨"Generated/MainWindow.xaml"⟩ =
        .ok (greeting "MainWindow" "Goodbye").page.render ∧
      after.readText ⟨"Generated/About.xaml"⟩ = .ok (greeting "About" "Version").page.render ∧
      generated after (greeting "About" "Version") =
        (.ok ⟨⟨"Generated/About.xaml"⟩, ⟨"Generated/About.xaml.cs"⟩, ⟨false, false⟩⟩, after) := by
  obtain ⟨windows, after, hRun⟩ := exists_generatedAll_greetings
  obtain ⟨-, hLast, -⟩ := generation_runs holds_emptyProject (by decide) rfl belongsTo_greetings
    (fun r hIn made _ => spares_greetings r hIn made) hRun
  have hAbout : IsLast (greeting "About" "Version") greetings :=
    ⟨[greeting "MainWindow" "Hello"], [greeting "MainWindow" "Goodbye"], rfl, by decide⟩
  have hMain : IsLast (greeting "MainWindow" "Goodbye") greetings :=
    ⟨[greeting "MainWindow" "Hello", greeting "About" "Version"], [], rfl, by simp⟩
  exact ⟨windows, after, hRun, (hLast _ hMain).1.page, (hLast _ hAbout).1.page, (hLast _ hAbout).2⟩

end ScriptWindows
