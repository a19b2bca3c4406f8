import Mathlib
import ScriptWindows.Proofs.Files.Places
import ScriptWindows.Proofs.Files.Rejections

/-!
# Generating a window part by part

A window can be generated in one go, or its folder, its page, its source file and its
registration can be made one after another. In one go the manifest is read before anything is
made, and part by part it is read when all files are there. Both end in the same tree, unless
a file of the window is the manifest itself.

Main results:

* `generated_ok_iff`: a generation that succeeds has made its parts, in the trees that lie between.
* `GenerationParts.holds_coded`: the manifest that is read before the parts is read behind them.
* `generate_in_parts`: in one go and part by part come to the same.
-/

namespace ScriptWindows

open Manifest Source FileTree

/-! ## The parts -/

section
variable {m : Type → Type} [Monad m] [Files m]

/-- Make the folder of a window, write its page and its source file, and register the folder. -/
def generateInParts (r : GenerateRequest) : ExceptT GenerateError m PatchOutcome := do
  match ← (Files.createFolders r.folderPath : m _) with
  | .error cause => throw (.createFolder r.folderPath cause)
  | .ok () => pure ()
  (emitPage r.page r.pagePath).adapt .emit
  (emitCodeBehind r.code r.codePath).adapt .emit
  (patch r.manifest r.folder).adapt .manifest

end

variable {tree made paged coded after : FileTree} {r : GenerateRequest} {d : Document}
  {path : Path} {w : GeneratedWindow}

/-- Neither file of a window is its manifest. -/
def GenerateRequest.SparesManifest (r : GenerateRequest) (tree : FileTree) : Prop :=
  ∀ place, tree.LeadsTo r.manifest place →
    ¬ tree.LeadsTo r.pagePath place ∧ ¬ tree.LeadsTo r.codePath place

/-- A generation that succeeds, with the trees between its parts. -/
structure GenerationParts (r : GenerateRequest) (tree made paged coded after : FileTree)
    (d : Document) : Prop where
  holds : Holds tree r.manifest d
  folder : tree.createFolders r.folderPath = (.ok (), made)
  page : (emitPage (m := StateM FileTree) r.page r.pagePath).run.run made = (.ok (), paged)
  code : (emitCodeBehind (m := StateM FileTree) r.code r.codePath).run.run paged = (.ok (), coded)
  manifest : ((d.register r.folder).2.save (m := StateM FileTree) r.manifest).run.run coded =
    (.ok (), after)

/-- Wrapping its errors does not change when a program comes to a value. -/
theorem run_adapt_ok_iff {ε ε' σ α : Type} {x : ExceptT ε (StateM σ) α} {f : ε → ε'} {a : α}
    {s s' : σ} : (x.adapt f).run.run s = (.ok a, s') ↔ x.run.run s = (.ok a, s') :=
  ⟨run_adapt_ok, fun h => by rw [run_adapt, h]; rfl⟩

theorem run_createFolders (path : Path) (tree : FileTree) :
    (Files.createFolders path : StateM FileTree _).run tree = tree.createFolders path := rfl

/-- **A generation that succeeds has made its parts**, one after another. -/
theorem generated_ok_iff :
    generated tree r = (.ok w, after) ↔
      ∃ made paged coded d, GenerationParts r tree made paged coded after d ∧
        w = ⟨r.pagePath, r.codePath, (d.register r.folder).1⟩ := by
  constructor
  · intro h
    rw [generated, generate] at h
    obtain ⟨d, loaded, hLoad, hRest⟩ := run_bind_ok_iff.1 h
    obtain ⟨hHolds, hLoaded⟩ := run_load_ok_iff.1 (run_adapt_ok hLoad)
    rw [hLoaded] at hRest
    -- a folder that cannot be made ends the matter
    cases hMade : tree.createFolders r.folderPath with
    | mk result made =>
      rw [run_lift_bind ((run_createFolders _ _).trans hMade)] at hRest
      cases result with
      | error cause => cases hRest
      | ok _ =>
        obtain ⟨_, paged, hPage, hRest⟩ := run_bind_ok_iff.1 hRest
        obtain ⟨_, coded, hCode, hRest⟩ := run_bind_ok_iff.1 hRest
        obtain ⟨_, last, hSave, hRest⟩ := run_bind_ok_iff.1 hRest
        obtain ⟨hWindow, rfl⟩ := Prod.mk.inj hRest
        exact ⟨made, paged, coded, d, ⟨hHolds, hMade, run_adapt_ok hPage, run_adapt_ok hCode,
          run_adapt_ok hSave⟩, (Except.ok.inj hWindow).symm⟩
  · rintro ⟨made, paged, coded, d, hParts, rfl⟩
    have hLoad := run_adapt_ok_iff (f := GenerateError.manifest).2 hParts.holds.load
    have hPage := run_adapt_ok_iff (f := GenerateError.emit).2 hParts.page
    have hCode := run_adapt_ok_iff (f := GenerateError.emit).2 hParts.code
    have hSave := run_adapt_ok_iff (f := GenerateError.manifest).2 hParts.manifest
    rw [generated, generate, run_bind_of_ok hLoad,
      run_lift_bind ((run_createFolders _ _).trans hParts.folder)]
    refine (run_bind_of_ok hPage).trans ((run_bind_of_ok hCode).trans ?_)
    exact run_bind_of_ok hSave

/-! ## What the parts leave alone -/

/-- A tree in which at most the file a path leads to was written. -/
def WritesAt (path : Path) (tree after : FileTree) : Prop :=
  after = tree ∨ ∃ place, tree.LeadsTo path place ∧ SameBut [place] tree after

/-- A generated text is written at its path and nowhere else. -/
theorem writesAt_emitText {text : String} {result : Except EmitError Unit}
    (h : (emitText (m := StateM FileTree) path text).run.run tree = (result, after)) :
    WritesAt path tree after := by
  cases hWrite : (Files.writeText path text : StateM FileTree _).run tree with
  | mk written next =>
    rw [emitText, run_lift_bind hWrite] at h
    cases written with
    | error cause =>
      obtain rfl := writeText_error_tree hWrite
      exact .inl (Prod.mk.inj h).2.symm
    | ok _ =>
      obtain ⟨place, hLeads, hSame, -⟩ := sameBut_writeText hWrite
      obtain rfl := (Prod.mk.inj h).2
      exact .inr ⟨place, hLeads, hSame⟩

/-- So is a source file. -/
theorem writesAt_emitCodeBehind {code : CodeBehind} {result : Except EmitError Unit}
    (h : (emitCodeBehind (m := StateM FileTree) code path).run.run tree = (result, after)) :
    WritesAt path tree after := by
  rw [emitCodeBehind] at h
  split at h
  · exact .inl (Prod.mk.inj h).2.symm
  · exact writesAt_emitText h

/-- A manifest keeps its document when another file is written. -/
theorem WritesAt.holds {other : Path} (h : WritesAt path tree after)
    (hApart : ∀ place, tree.LeadsTo other place → ¬ tree.LeadsTo path place)
    (hHolds : Holds tree other d) : Holds after other d := by
  rcases h with rfl | ⟨place, hLeads, hSame⟩
  · exact hHolds
  · refine ⟨hSame.keeps.readText ?_ hHolds.read, hHolds.parsed⟩
    rintro _ hIn hOther
    obtain rfl := List.mem_singleton.1 hIn
    exact hApart _ hOther hLeads

/-- Paths lead where they did. -/
theorem WritesAt.leadsTo_iff {other : Path} {place : Location} (h : WritesAt path tree after) :
    after.LeadsTo other place ↔ tree.LeadsTo other place := by
  rcases h with rfl | ⟨_, -, hSame⟩
  · exact Iff.rfl
  · exact hSame.leadsTo_iff

/-- A request that spares the manifest still does. -/
theorem WritesAt.spares (h : WritesAt path tree after) (hSpares : r.SparesManifest tree) :
    r.SparesManifest after := by
  intro place hManifest
  rw [h.leadsTo_iff] at hManifest
  rw [h.leadsTo_iff, h.leadsTo_iff]
  exact hSpares place hManifest

/-- A manifest keeps its document when folders are made. -/
theorem Manifest.Holds.createFolders (h : Holds tree path d) (folder : Path) :
    Holds (tree.createFolders folder).2 path d :=
  ⟨(keeps_createFolders tree folder).readText (by simp) h.read, h.parsed⟩

/-- Writing the page leaves the manifest alone. -/
theorem holds_after_page {result : Except EmitError Unit} (hSpares : r.SparesManifest made)
    (hHolds : Holds made r.manifest d)
    (h : (emitPage (m := StateM FileTree) r.page r.pagePath).run.run made = (result, paged)) :
    Holds paged r.manifest d ∧ r.SparesManifest paged :=
  ⟨(writesAt_emitText h).holds (fun place hLeads => (hSpares place hLeads).1) hHolds,
    (writesAt_emitText h).spares hSpares⟩

/-- Writing the source file leaves the manifest alone. -/
theorem holds_after_code {result : Except EmitError Unit} (hSpares : r.SparesManifest paged)
    (hHolds : Holds paged r.manifest d)
    (h : (emitCodeBehind (m := StateM FileTree) r.code r.codePath).run.run paged =
      (result, coded)) : Holds coded r.manifest d :=
  (writesAt_emitCodeBehind h).holds (fun place hLeads => (hSpares place hLeads).2) hHolds

/-- **A generation that fails has left its manifest as it was**, but where the manifest itself
could not be written. -/
theorem generated_error {e : GenerateError} (h : generated tree r = (.error e, after))
    (hSpares : ∀ made, tree.createFolders r.folderPath = (.ok (), made) → r.SparesManifest made) :
    after = tree ∨ (∃ cause, e = .manifest (.write r.manifest cause)) ∨
      ∃ d, Holds tree r.manifest d ∧ Holds after r.manifest d := by
  rw [generated, generate] at h
  rcases run_bind_error h with hFailed | ⟨d, loaded, hLoad, hRest⟩
  · obtain ⟨cause, hLoad, -⟩ := run_adapt_error hFailed
    exact .inl (tree_of_load hLoad)
  obtain ⟨hHolds, hLoaded⟩ := run_load_ok_iff.1 (run_adapt_ok hLoad)
  rw [hLoaded] at hRest
  refine .inr ?_
  -- from here on the manifest is a file, and each part leaves it alone
  have hMadeHolds := hHolds.createFolders r.folderPath
  cases hMade : tree.createFolders r.folderPath with
  | mk result made =>
    rw [run_lift_bind ((run_createFolders _ _).trans hMade)] at hRest
    rw [hMade] at hMadeHolds
    cases result with
    | error cause =>
      obtain rfl := (Prod.mk.inj hRest).2
      exact .inr ⟨d, hHolds, hMadeHolds⟩
    | ok _ =>
      rcases run_bind_error hRest with hFailed | ⟨_, paged, hPage, hRest⟩
      · obtain ⟨cause, hPage, -⟩ := run_adapt_error hFailed
        exact .inr ⟨d, hHolds, (holds_after_page (hSpares made hMade) hMadeHolds hPage).1⟩
      obtain ⟨hPagedHolds, hSparesPaged⟩ :=
        holds_after_page (hSpares made hMade) hMadeHolds (run_adapt_ok hPage)
      rcases run_bind_error hRest with hFailed | ⟨_, coded, hCode, hRest⟩
      · obtain ⟨cause, hCode, -⟩ := run_adapt_error hFailed
        exact .inr ⟨d, hHolds, holds_after_code hSparesPaged hPagedHolds hCode⟩
      have hCodedHolds := holds_after_code hSparesPaged hPagedHolds (run_adapt_ok hCode)
      rcases run_bind_error hRest with hFailed | ⟨_, _, _, hDone⟩
      · obtain ⟨cause, hSave, rfl⟩ := run_adapt_error hFailed
        rcases save_error hSave with ⟨_, -, -, rfl⟩ | ⟨cause, rfl⟩
        · exact .inr ⟨d, hHolds, hCodedHolds⟩
        · exact .inl ⟨cause, rfl⟩
      · cases hDone

/-! ## What the parts write -/

/-- A source file is written exactly if it can be made and its text is written. -/
theorem emitCodeBehind_ok_iff {code : CodeBehind} :
    (emitCodeBehind (m := StateM FileTree) code path).run.run tree = (.ok (), after) ↔
      ∃ text, code.render = .ok text ∧
        (Files.writeText path text : StateM FileTree _).run tree = (.ok (), after) := by
  rw [emitCodeBehind]
  cases code.render with
  | error cause =>
    constructor
    · intro h
      cases h
    · rintro ⟨_, h, -⟩
      cases h
  | ok text =>
    rw [emitText_ok_iff]
    simp

/-- A manifest is written back exactly if it can be put together and its text is written. -/
theorem save_ok_iff :
    (d.save (m := StateM FileTree) path).run.run tree = (.ok (), after) ↔
      ∃ text, d.render = .ok text ∧
        (Files.writeText path text : StateM FileTree _).run tree = (.ok (), after) := by
  constructor
  · intro h
    rw [Document.save] at h
    split at h
    · cases h
    · rename_i text hText
      cases hWrite : (Files.writeText path text : StateM FileTree _).run tree with
      | mk result written =>
        rw [run_lift_bind hWrite] at h
        cases result with
        | error cause => cases h
        | ok _ =>
          obtain rfl := (Prod.mk.inj h).2
          exact ⟨text, hText, hWrite⟩
  · rintro ⟨text, hText, hWrite⟩
    exact save_of_render hText hWrite

/-- The page and the source file of a window are two files. -/
theorem GenerateRequest.page_ne_code {other : FileTree} {page code : Location}
    (hPage : tree.LeadsTo r.pagePath page) (hCode : other.LeadsTo r.codePath code) :
    page ≠ code := by
  obtain ⟨folders, start, hNames⟩ := exists_names_join r.folderPath r.code.className
  refine hPage.ne_of_names hCode (hNames ".xaml" ⟨by decide, by decide⟩)
    (hNames ".xaml.cs" ⟨by decide, by decide⟩) ?_
  intro hSame
  have hEnds := congrArg String.toList hSame
  rw [String.toList_append, String.toList_append, List.append_cancel_left_eq] at hEnds
  revert hEnds
  decide

/-- What a generation has written, in the tree it leaves. -/
structure Written (r : GenerateRequest) (made after : FileTree) (d : Document) : Prop where
  page : after.readText r.pagePath = .ok r.page.render
  code : ∃ text, r.code.render = .ok text ∧ after.readText r.codePath = .ok text
  manifest : ∃ text, (d.register r.folder).2.render = .ok text ∧
    after.readText r.manifest = .ok text
  others : ∃ page code manifest, after.LeadsTo r.pagePath page ∧ after.LeadsTo r.codePath code ∧
    after.LeadsTo r.manifest manifest ∧ SameBut [page, code, manifest] made after

namespace GenerationParts

/-- **The manifest that is read before the parts is read behind them.** -/
theorem holds_coded (h : GenerationParts r tree made paged coded after d)
    (hSpares : r.SparesManifest made) : Holds coded r.manifest d := by
  have hMade := h.holds.createFolders r.folderPath
  rw [h.folder] at hMade
  obtain ⟨hPaged, hSparesPaged⟩ := holds_after_page hSpares hMade h.page
  exact holds_after_code hSparesPaged hPaged h.code

/-- **The parts are there in the end**: none is written over by a later one. -/
theorem written (h : GenerationParts r tree made paged coded after d)
    (hSpares : r.SparesManifest made) : Written r made after d := by
  obtain ⟨source, hSource, hCodeWrite⟩ := emitCodeBehind_ok_iff.1 h.code
  obtain ⟨text, hText, hManifestWrite⟩ := save_ok_iff.1 h.manifest
  obtain ⟨page, hPage, hPaged, hPageRead⟩ := sameBut_writeText (emitText_ok_iff.1 h.page)
  obtain ⟨code, hCode, hCoded, hCodeRead⟩ := sameBut_writeText hCodeWrite
  obtain ⟨manifest, hManifest, hAfter, hManifestRead⟩ := sameBut_writeText hManifestWrite
  -- the three paths lead to three places, the same ones in every tree
  rw [hCoded.leadsTo_iff, hPaged.leadsTo_iff] at hManifest
  rw [hPaged.leadsTo_iff] at hCode
  have hPageCode : page ≠ code := GenerateRequest.page_ne_code hPage hCode
  have hPageManifest : page ≠ manifest := fun hSame =>
    (hSpares manifest hManifest).1 (hSame ▸ hPage)
  have hCodeManifest : code ≠ manifest := fun hSame =>
    (hSpares manifest hManifest).2 (hSame ▸ hCode)
  have hAll := (hPaged.trans hCoded).trans hAfter
  refine ⟨?_, ⟨source, hSource, ?_⟩, ⟨text, hText, hManifestRead⟩, page, code, manifest,
    hAll.leadsTo_iff.2 hPage, hAll.leadsTo_iff.2 hCode, hAll.leadsTo_iff.2 hManifest, hAll⟩
  · refine (hCoded.trans hAfter).keeps.readText ?_ hPageRead
    intro place hIn hLeads
    rw [hPaged.leadsTo_iff] at hLeads
    obtain rfl := hPage.unique hLeads
    simp [hPageCode, hPageManifest] at hIn
  · refine hAfter.keeps.readText ?_ hCodeRead
    intro place hIn hLeads
    rw [hCoded.leadsTo_iff, hPaged.leadsTo_iff] at hLeads
    obtain rfl := hCode.unique hLeads
    simp [hCodeManifest] at hIn

/-- The registration reads what the generation has read at its beginning. -/
theorem patched (h : GenerationParts r tree made paged coded after d)
    (hSpares : r.SparesManifest made) :
    Manifest.patched r.manifest coded r.folder = (.ok (d.register r.folder).1, after) := by
  rw [Manifest.patched, patch, run_bind_of_ok (h.holds_coded hSpares).load]
  exact run_bind_of_ok h.manifest

/-- Part by part the same tree comes about. -/
theorem inParts (h : GenerationParts r tree made paged coded after d)
    (hSpares : r.SparesManifest made) :
    (generateInParts (m := StateM FileTree) r).run.run tree =
      (.ok (d.register r.folder).1, after) := by
  have hPage := run_adapt_ok_iff (f := GenerateError.emit).2 h.page
  have hCode := run_adapt_ok_iff (f := GenerateError.emit).2 h.code
  rw [generateInParts, run_lift_bind ((run_createFolders _ _).trans h.folder)]
  refine (run_bind_of_ok hPage).trans ((run_bind_of_ok hCode).trans ?_)
  exact run_adapt_ok_iff.2 (h.patched hSpares)

end GenerationParts

/-- A generation goes through where both files can be written, the source file can be made and the
manifest can be put together. -/
theorem exists_generated {parent parent' : Location} {page code source text : String}
    (hHolds : Holds tree r.manifest d) (hText : (d.register r.folder).2.render = .ok text)
    (hFolder : tree.createFolders r.folderPath = (.ok (), made))
    (hSpares : r.SparesManifest made) (hPage : made.Takes r.pagePath parent page)
    (hCode : made.Takes r.codePath parent' code) (hSource : r.code.render = .ok source) :
    ∃ after, generated tree r =
      (.ok ⟨r.pagePath, r.codePath, (d.register r.folder).1⟩, after) := by
  have hMade := hHolds.createFolders r.folderPath
  rw [hFolder] at hMade
  obtain ⟨paged, hPageWrite⟩ := hPage.writeText r.page.render
  have hPageEmit := emitText_ok_iff.2 hPageWrite
  obtain ⟨hPagedHolds, hSparesPaged⟩ := holds_after_page hSpares hMade hPageEmit
  -- the page is in nobody's way
  obtain ⟨_, -, hSame, -⟩ := sameBut_writeText hPageWrite
  obtain ⟨coded, hCodeWrite⟩ := (hSame.takes hCode).writeText source
  have hCodeEmit := emitCodeBehind_ok_iff.2 ⟨source, hSource, hCodeWrite⟩
  have hCodedHolds := holds_after_code hSparesPaged hPagedHolds hCodeEmit
  obtain ⟨after, hWrite, -⟩ := FileTree.writeText_of_readText hCodedHolds.read text
  exact ⟨after, generated_ok_iff.2 ⟨made, paged, coded, d, ⟨hHolds, hFolder, hPageEmit, hCodeEmit,
    save_ok_iff.2 ⟨text, hText, hWrite⟩⟩, rfl⟩⟩

/-- **In one go and part by part come to the same**, where neither file of the window is its
manifest. The files hold what was made for them, the manifest holds what its registration alone
would have written, and no other file is changed. A generation that fails leaves the manifest as
it was, but where the manifest itself could not be written. -/
theorem generate_in_parts {tree : FileTree} {r : GenerateRequest}
    (hSpares : ∀ made, tree.createFolders r.folderPath = (.ok (), made) → r.SparesManifest made) :
    (∀ w after, generated tree r = (.ok w, after) →
      (generateInParts (m := StateM FileTree) r).run.run tree = (.ok w.patch, after) ∧
      after.readText w.page = .ok r.page.render ∧
      (∃ text, r.code.render = .ok text ∧ after.readText w.code = .ok text) ∧
      (∃ alone text, patched r.manifest tree r.folder = (.ok w.patch, alone) ∧
        alone.readText r.manifest = .ok text ∧ after.readText r.manifest = .ok text) ∧
      ∀ place bytes, ¬ after.LeadsTo w.page place → ¬ after.LeadsTo w.code place →
        ¬ after.LeadsTo r.manifest place →
        (after.lookup place = some (.file bytes) ↔ tree.lookup place = some (.file bytes))) ∧
    ∀ e after, generated tree r = (.error e, after) →
      (∀ path cause, e ≠ .manifest (.write path cause)) →
      after.readBytes r.manifest = tree.readBytes r.manifest := by
  constructor
  · intro w after hRun
    obtain ⟨made, paged, coded, d, hParts, rfl⟩ := generated_ok_iff.1 hRun
    have hSparesMade := hSpares made hParts.folder
    obtain ⟨hPage, hCode, ⟨text, hText, hManifest⟩, page, code, manifest, hLeadsPage, hLeadsCode,
      hLeadsManifest, hOthers⟩ := hParts.written hSparesMade
    have hOutcome : (d.register r.folder).1 = d.lackingOutcome r.folder := by
      rw [Document.register_eq]
    rw [Document.register_eq] at hText
    obtain ⟨alone, hAlone, hAloneText, -⟩ := hParts.holds.patched_of_render hText
    refine ⟨hParts.inParts hSparesMade, hPage, hCode, ⟨alone, text, ?_, hAloneText, hManifest⟩, ?_⟩
    · rw [hAlone, hOutcome]
    · intro place bytes hNotPage hNotCode hNotManifest
      have hApart : place ∉ [page, code, manifest] := by
        simp only [List.mem_cons, List.not_mem_nil, or_false]
        rintro (rfl | rfl | rfl)
        · exact hNotPage hLeadsPage
        · exact hNotCode hLeadsCode
        · exact hNotManifest hLeadsManifest
      -- making the folder changed no file either
      have hMade := keeps_createFolders tree r.folderPath
      rw [hParts.folder] at hMade
      rw [hOthers.files place bytes hApart, hMade.files place bytes (by simp)]
  · intro e after hRun hNotWriting
    rcases generated_error hRun hSpares with rfl | ⟨cause, rfl⟩ | ⟨d, hBefore, hAfter⟩
    · rfl
    · exact absurd rfl (hNotWriting r.manifest cause)
    · rw [readBytes_of_readText hBefore.read, readBytes_of_readText hAfter.read]

/-- A window of the empty project that says something. -/
def greeting (className message : String) : GenerateRequest where
  manifest := ⟨"App.csproj"⟩
  code := { className := className }
  message := message

/-- A path that names an entry of the folder takes a file. -/
theorem takes_folderTree {path : Path} (name : String)
    (hText : ¬ path.text.toList.any (·.toNat = 0) ∧ ¬ maxPathBytes < path.text.utf8ByteSize ∧
      path.text ≠ "" ∧ path.isAbsolute = false)
    (hNames : (path.text.toList.getLast? == some '/') = false ∧ names path = ["Generated", name])
    (hName : name ≠ "." ∧ name ≠ ".." ∧ ¬ maxNameBytes < name.utf8ByteSize) :
    folderTree.Takes path ["Generated"] name where
  target := by
    rw [← hNames.1]
    exact resolve_of_names ["Generated"] hText hNames.2 ⟨hName.1, hName.2.1⟩ (by decide)
  fits := hName.2.2
  noFolder := by
    -- there are but the manifest and the folder itself
    have hApart : ["Generated", name] ≠ ["Generated"] := by simp
    have hManifest : ["Generated", name] ≠ ["App.csproj"] := by simp
    show folderTree.lookup ["Generated", name] ≠ _
    rw [folderTree, lookup_put_of_ne _ hApart]
    simp [FileTree.lookup, emptyProjectTree, List.lookup]

/-- Greetings write no file where the manifest is. -/
theorem spares_greeting {className message : String} (page code : String)
    (hPage : names (greeting className message).pagePath = ["Generated"] ++ [page])
    (hCode : names (greeting className message).codePath = ["Generated"] ++ [code])
    (hNe : page ≠ "App.csproj" ∧ code ≠ "App.csproj") (tree : FileTree) :
    (greeting className message).SparesManifest tree := by
  intro place hManifest
  have hNames : names ⟨"App.csproj"⟩ = [] ++ ["App.csproj"] := by decide
  exact ⟨fun hLeads => hLeads.ne_of_names hManifest hPage hNames hNe.1 rfl,
    fun hLeads => hLeads.ne_of_names hManifest hCode hNames hNe.2 rfl⟩

/-- The first window of the empty project. -/
theorem exists_generated_greeting :
    ∃ after, generated emptyProjectTree (greeting "MainWindow" "Hello") =
      (.ok ⟨⟨"Generated/MainWindow.xaml"⟩, ⟨"Generated/MainWindow.xaml.cs"⟩, ⟨true, true⟩⟩,
        after) := by
  have hSpares : (greeting "MainWindow" "Hello").SparesManifest folderTree :=
    spares_greeting "MainWindow.xaml" "MainWindow.xaml.cs" (by decide) (by decide) (by decide) _
  have hFolder : emptyProjectTree.createFolders (greeting "MainWindow" "Hello").folderPath =
      (.ok (), folderTree) := createFolders_emptyProject
  obtain ⟨source, hSource⟩ : ∃ source, (greeting "MainWindow" "Hello").code.render = .ok source :=
    ⟨_, rfl⟩
  obtain ⟨text, hText⟩ := holds_emptyProject.exists_render_register (by decide)
    (greeting "MainWindow" "Hello").folder
  exact exists_generated holds_emptyProject hText hFolder hSpares
    (takes_folderTree "MainWindow.xaml" (by decide) (by decide) (by decide))
    (takes_folderTree "MainWindow.xaml.cs" (by decide) (by decide) (by decide)) hSource

theorem generate_in_parts_greeting :
    (∀ made, emptyProjectTree.createFolders (greeting "MainWindow" "Hello").folderPath =
        (.ok (), made) → (greeting "MainWindow" "Hello").SparesManifest made) ∧
      ∃ w after, generated emptyProjectTree (greeting "MainWindow" "Hello") = (.ok w, after) ∧
        w.patch = ⟨true, true⟩ ∧
        (generateInParts (m := StateM FileTree) (greeting "MainWindow" "Hello")).run.run
          emptyProjectTree = (.ok ⟨true, true⟩, after) ∧
        after.readText ⟨"Generated/MainWindow.xaml"⟩ =
          .ok (greeting "MainWindow" "Hello").page.render := by
  have hSpares : ∀ tree, (greeting "MainWindow" "Hello").SparesManifest tree :=
    spares_greeting "MainWindow.xaml" "MainWindow.xaml.cs" (by decide) (by decide) (by decide)
  obtain ⟨after, hRun⟩ := exists_generated_greeting
  obtain ⟨hSame, hPage, -⟩ :=
    (generate_in_parts (fun made _ => hSpares made)).1 _ after hRun
  exact ⟨fun made _ => hSpares made, _, after, hRun, rfl, hSame, hPage⟩

end ScriptWindows
