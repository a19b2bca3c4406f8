import ScriptWindows.Proofs.Files.Rewriting

/-!
# Where paths lead

Two paths name one file if they lead to one place. Folders that are made and files that are
written take nothing away from the ways through a tree, so a path that led somewhere leads there
still, and whoever writes at one place changes no file at any other.

Main results:

* `exists_names_join`: paths that are made of one folder and one stem differ in their last name.
* `Keeps.readBytes`: a file that was not written over is read as before.
* `keeps_createFolders`: making folders keeps every folder and every file.
* `createFolders_of_isFolder`: a folder that is there is not made again.
-/

namespace ScriptWindows

open Text

/-! ## The last name of a path -/

/-- A text without a separator is one piece. -/
theorem pieces_of_not_mem {separator : Char} {cs : List Char} (h : separator ∉ cs) :
    pieces separator cs = [cs] := by
  induction cs with
  | nil => rfl
  | cons c cs ih =>
    rw [List.mem_cons, not_or] at h
    rw [pieces, if_neg (Ne.symm h.1), ih h.2]

/-- What is added to the end of a text without a separator becomes part of its last piece. -/
theorem exists_pieces_append (separator : Char) (cs : List Char) :
    ∃ front last, ∀ added, separator ∉ added →
      pieces separator (cs ++ added) = front ++ [last ++ added] := by
  induction cs with
  | nil => exact ⟨[], [], fun added h => pieces_of_not_mem h⟩
  | cons c cs ih =>
    obtain ⟨front, last, hPieces⟩ := ih
    by_cases hSeparator : c = separator
    · refine ⟨[] :: front, last, fun added h => ?_⟩
      rw [List.cons_append, pieces, if_pos hSeparator, hPieces added h, List.cons_append]
    · -- the character goes to the first piece, which may be the last one as well
      cases front with
      | nil =>
        refine ⟨[], c :: last, fun added h => ?_⟩
        rw [List.cons_append, pieces, if_neg hSeparator, hPieces added h]
        rfl
      | cons first front =>
        refine ⟨(c :: first) :: front, last, fun added h => ?_⟩
        rw [List.cons_append, pieces, if_neg hSeparator, hPieces added h]
        rfl

namespace FileTree

/-- Whether a text can stand at the end of a name. -/
def IsEnding (text : String) : Prop := text ≠ "" ∧ '/' ∉ text.toList

/-- An ending with a part of a name before it is an ending. -/
theorem IsEnding.append {name ending : String} (h : IsEnding ending) (hName : '/' ∉ name.toList) :
    IsEnding (name ++ ending) := by
  refine ⟨?_, ?_⟩
  · intro hNone
    have hChars := congrArg String.toList hNone
    rw [String.toList_append] at hChars
    exact h.1 (String.toList_inj.1 (List.append_eq_nil_iff.1 hChars).2)
  · rw [String.toList_append, List.mem_append, not_or]
    exact ⟨hName, h.2⟩

/-- What is added to the end of a path becomes part of its last name. -/
theorem exists_names_append (text : String) :
    ∃ folders stem, ∀ added, IsEnding added →
      names ⟨text ++ added⟩ = folders ++ [stem ++ added] := by
  obtain ⟨front, last, hPieces⟩ := exists_pieces_append '/' text.toList
  refine ⟨(front.filter (· ≠ [])).map String.ofList, String.ofList last, fun added h => ?_⟩
  have hSome : last ++ added.toList ≠ [] := by
    intro hNone
    exact h.1 (String.toList_inj.1 (List.append_eq_nil_iff.1 hNone).2)
  have hLast : String.ofList (last ++ added.toList) = String.ofList last ++ added := by
    rw [String.ofList_append, String.ofList_toList]
  rw [names, String.toList_append, hPieces added.toList h.2, List.filter_append, List.map_append]
  simp [hSome, hLast]

/-- Paths below one folder that begin with one stem are one text with different ends. -/
theorem exists_join_append (base : Path) (stem : String) :
    ∃ text, ∀ added, IsEnding added → base.join ⟨stem ++ added⟩ = ⟨text ++ added⟩ := by
  -- where the path begins does not depend on its end
  have hAbsolute : ∀ added, IsEnding added →
      Path.isAbsolute ⟨stem ++ added⟩ = Path.isAbsolute ⟨stem⟩ := by
    intro added h
    unfold Path.isAbsolute
    simp only [String.toList_append]
    cases hStem : stem.toList with
    | nil =>
      cases hAdded : added.toList with
      | nil => rfl
      | cons c cs =>
        have hFirst : c ≠ '/' := by
          rintro rfl
          exact h.2 (hAdded ▸ List.mem_cons_self)
        simp [hFirst]
    | cons c cs => rfl
  by_cases hStem : Path.isAbsolute ⟨stem⟩ = true
  · refine ⟨stem, fun added h => ?_⟩
    rw [Path.join, hAbsolute added h, if_pos hStem]
  · by_cases hBase : (base.text.isEmpty || base.text.toList.getLast? == some '/') = true
    · refine ⟨base.text ++ stem, fun added h => ?_⟩
      rw [Path.join, hAbsolute added h, if_neg hStem, if_pos hBase, String.append_assoc]
    · refine ⟨base.text ++ "/" ++ stem, fun added h => ?_⟩
      rw [Path.join, hAbsolute added h, if_neg hStem, if_neg hBase]
      simp only [String.append_assoc]

/-- **Paths of one folder and one stem differ in their last name.** -/
theorem exists_names_join (base : Path) (stem : String) :
    ∃ folders start, ∀ added, IsEnding added →
      names (base.join ⟨stem ++ added⟩) = folders ++ [start ++ added] := by
  obtain ⟨text, hJoin⟩ := exists_join_append base stem
  obtain ⟨folders, start, hNames⟩ := exists_names_append text
  refine ⟨folders, start, fun added h => ?_⟩
  rw [hJoin added h, hNames added h]

/-! ## Places -/

/-- What is wrong with a path before anything on its way is looked at. -/
def fault? (path : Path) : Option FileError :=
  if path.text.toList.any (·.toNat = 0) then some .zeroByte
  else if maxPathBytes < path.text.utf8ByteSize then some .nameTooLong
  else if path.text = "" then some .notFound
  else none

/-- What the last name of a path leads to, in the folder that was reached. -/
def targetIn (path : Path) (last : String) (parent : Location) : Target :=
  if last = "." then .folder parent
  else if last = ".." then .folder parent.dropLast
  else .entry parent last (path.text.toList.getLast? == some '/')

/-- A path leads through the folders on its way to what its last name says. -/
theorem resolve_eq (tree : FileTree) (path : Path) :
    tree.resolve path =
      match fault? path, (names path).getLast? with
      | some e, _ => .error e
      | none, none => .ok (.folder (if path.isAbsolute then [] else tree.working))
      | none, some last =>
        (tree.walk (if path.isAbsolute then [] else tree.working) (names path).dropLast).map
          (targetIn path last) := by
  unfold resolve fault?
  split
  · rfl
  · split
    · rfl
    · split
      · rfl
      · cases (names path).getLast? with
        | none => rfl
        | some last =>
          simp only
          cases tree.walk _ (names path).dropLast with
          | error e => rfl
          | ok parent =>
            show (if last = "." then _ else _) = Except.ok (targetIn path last parent)
            unfold targetIn
            split
            · rfl
            · split <;> rfl

/-- A path leads to a place in a folder, where something lives or could be put. -/
def LeadsTo (tree : FileTree) (path : Path) (place : Location) : Prop :=
  ∃ parent name slash, tree.resolve path = .ok (.entry parent name slash) ∧
    place = parent ++ [name]

variable {tree middle other : FileTree} {path : Path} {place : Location}

/-- A path leads to one place. -/
theorem LeadsTo.unique {place' : Location} (h : tree.LeadsTo path place)
    (h' : tree.LeadsTo path place') : place = place' := by
  obtain ⟨parent, name, slash, hTarget, rfl⟩ := h
  obtain ⟨parent', name', slash', hTarget', rfl⟩ := h'
  rw [hTarget] at hTarget'
  obtain ⟨rfl, rfl, -⟩ := Target.entry.inj (Except.ok.inj hTarget')
  rfl

theorem exists_of_map_ok {ε α β : Type} {f : α → β} {x : Except ε α} {b : β}
    (h : x.map f = .ok b) : ∃ a, x = .ok a ∧ f a = b := by
  cases x with
  | error e => contradiction
  | ok a => exact ⟨a, rfl, Except.ok.inj h⟩

/-- The place a path leads to has the last name of the path. -/
theorem LeadsTo.getLast? {folders : List String} {name : String} (h : tree.LeadsTo path place)
    (hNames : names path = folders ++ [name]) : place.getLast? = some name := by
  obtain ⟨parent, last, slash, hTarget, rfl⟩ := h
  rw [resolve_eq, hNames, List.getLast?_concat] at hTarget
  split at hTarget
  · contradiction
  · contradiction
  · rename_i hLast
    obtain rfl := Option.some.inj hLast
    -- of all targets only an entry has a name
    obtain ⟨reached, -, hEntry⟩ := exists_of_map_ok hTarget
    unfold targetIn at hEntry
    split at hEntry
    · contradiction
    · split at hEntry
      · contradiction
      · obtain ⟨-, rfl, -⟩ := Target.entry.inj hEntry
        exact List.getLast?_concat

/-- Paths with different last names lead to different places. -/
theorem LeadsTo.ne_of_names {path' : Path} {place' : Location} {folders folders' : List String}
    {name name' : String} (h : tree.LeadsTo path place) (h' : other.LeadsTo path' place')
    (hNames : names path = folders ++ [name]) (hNames' : names path' = folders' ++ [name'])
    (hNe : name ≠ name') : place ≠ place' := by
  rintro rfl
  have hLast := h.getLast? hNames
  rw [h'.getLast? hNames'] at hLast
  exact hNe (Option.some.inj hLast).symm

/-! ## What is kept -/

/-- A tree with all folders of another, and with the same files but for those at some places. -/
structure Keeps (written : List Location) (tree other : FileTree) : Prop where
  working : other.working = tree.working
  folders : ∀ place, tree.lookup place = some .folder → other.lookup place = some .folder
  files : ∀ place bytes, place ∉ written →
    (other.lookup place = some (.file bytes) ↔ tree.lookup place = some (.file bytes))

variable {written later : List Location}

/-- A tree keeps its own files. -/
theorem Keeps.refl (tree : FileTree) : Keeps [] tree tree :=
  ⟨rfl, fun _ => id, fun _ _ _ => Iff.rfl⟩

/-- What is kept twice is kept, but for what was written at either time. -/
theorem Keeps.trans (h : Keeps written tree middle) (h' : Keeps later middle other) :
    Keeps (written ++ later) tree other where
  working := h'.working.trans h.working
  folders place hFolder := h'.folders place (h.folders place hFolder)
  files place bytes hApart := by
    rw [List.mem_append, not_or] at hApart
    rw [h'.files place bytes hApart.2, h.files place bytes hApart.1]

/-- A step into a folder goes on in a tree that keeps the folders. -/
theorem Keeps.stepInto (h : Keeps written tree other) {current : Location} {name : String}
    (hStep : tree.stepInto current name = .ok place) : other.stepInto current name = .ok place := by
  unfold FileTree.stepInto at hStep ⊢
  split
  · rename_i hHere
    rwa [if_pos hHere] at hStep
  · rename_i hHere
    rw [if_neg hHere] at hStep
    split
    · rename_i hUp
      rwa [if_pos hUp] at hStep
    · rename_i hUp
      rw [if_neg hUp] at hStep
      split
      · rename_i hLong
        rw [if_pos hLong] at hStep
        contradiction
      · rename_i hLong
        rw [if_neg hLong] at hStep
        -- only a folder lets anyone through, and folders stay
        split at hStep
        · contradiction
        · contradiction
        · rename_i hFolder
          rw [h.folders _ hFolder]
          exact hStep

/-- A walk ends where it did in a tree that keeps the folders. -/
theorem Keeps.walk (h : Keeps written tree other) {current : Location} {names : List String}
    (hWalk : tree.walk current names = .ok place) : other.walk current names = .ok place := by
  induction names generalizing current with
  | nil => exact hWalk
  | cons name rest ih =>
    rw [FileTree.walk] at hWalk ⊢
    cases hStep : tree.stepInto current name with
    | error e => simp [hStep, bind, Except.bind] at hWalk
    | ok next =>
      rw [hStep] at hWalk
      rw [h.stepInto hStep]
      exact ih hWalk

/-- A path that leads somewhere leads there still. -/
theorem Keeps.resolve (h : Keeps written tree other) {target : Target}
    (hTarget : tree.resolve path = .ok target) : other.resolve path = .ok target := by
  rw [resolve_eq] at hTarget ⊢
  rw [h.working]
  split at hTarget
  · contradiction
  · exact hTarget
  · -- the way to the last name is walked through the same folders
    obtain ⟨parent, hWalk, rfl⟩ := exists_of_map_ok hTarget
    rw [h.walk hWalk]
    rfl

/-- A path leads where it led before. -/
theorem Keeps.leadsTo (h : Keeps written tree other) (hLeads : tree.LeadsTo path place) :
    other.LeadsTo path place := by
  obtain ⟨parent, name, slash, hTarget, rfl⟩ := hLeads
  exact ⟨parent, name, slash, h.resolve hTarget, rfl⟩

/-- A file that a path leads to is read. -/
theorem readBytes_of_entry {parent : Location} {name : String} {bytes : ByteArray}
    (hTarget : tree.resolve path = .ok (.entry parent name false))
    (hFits : ¬ maxNameBytes < name.utf8ByteSize)
    (hFile : tree.lookup (parent ++ [name]) = some (.file bytes)) :
    tree.readBytes path = .ok bytes := by
  have hThere : tree.entryAt parent name = .ok (some (.file bytes)) := by
    rw [entryAt, if_neg hFits, hFile]
  simp [FileTree.readBytes, hTarget, hThere, bind, Except.bind]

/-- A relative path leads to the name at its end, in the folder that the names before it lead to. -/
theorem resolve_of_names {name : String} {parent : Location} (folders : List String)
    (hText : ¬ path.text.toList.any (·.toNat = 0) ∧ ¬ maxPathBytes < path.text.utf8ByteSize ∧
      path.text ≠ "" ∧ path.isAbsolute = false)
    (hNames : names path = folders ++ [name]) (hName : name ≠ "." ∧ name ≠ "..")
    (hWalk : tree.walk tree.working folders = .ok parent) :
    tree.resolve path = .ok (.entry parent name (path.text.toList.getLast? == some '/')) := by
  -- nothing is wrong with the text itself, so the names decide
  obtain ⟨hZero, hFits, hSome, hRelative⟩ := hText
  simp only [resolve, if_neg hZero, if_neg hFits, if_neg hSome, hRelative, hNames]
  simp [hWalk, hName, bind, Except.bind]

/-- A name leads to the file of that name where relative paths begin. -/
theorem readText_of_name {name text : String}
    (hText : ¬ name.toList.any (·.toNat = 0) ∧ ¬ maxPathBytes < name.utf8ByteSize ∧
      name ≠ "" ∧ Path.isAbsolute ⟨name⟩ = false)
    (hNames : names ⟨name⟩ = [name] ∧ (name.toList.getLast? == some '/') = false)
    (hName : name ≠ "." ∧ name ≠ "..") (hFits : ¬ maxNameBytes < name.utf8ByteSize)
    (hFile : tree.lookup (tree.working ++ [name]) = some (.file text.toUTF8)) :
    tree.readText ⟨name⟩ = .ok text := by
  have hTarget : tree.resolve ⟨name⟩ = .ok (.entry tree.working name false) := by
    rw [← hNames.2]
    exact resolve_of_names [] hText hNames.1 hName rfl
  exact readText_of_readBytes (readBytes_of_entry hTarget hFits hFile)

/-- **A file that was not written over is read as before.** -/
theorem Keeps.readBytes (h : Keeps written tree other) {bytes : ByteArray}
    (hApart : ∀ place ∈ written, ¬ tree.LeadsTo path place)
    (hRead : tree.readBytes path = .ok bytes) : other.readBytes path = .ok bytes := by
  obtain ⟨parent, name, hTarget, hEntry⟩ := exists_entry_of_readBytes hRead
  obtain ⟨hFits, hLookup⟩ := lookup_of_entryAt hEntry
  have hPlace : parent ++ [name] ∉ written := by
    intro hWritten
    exact hApart _ hWritten ⟨parent, name, false, hTarget, rfl⟩
  exact readBytes_of_entry (h.resolve hTarget) hFits ((h.files _ bytes hPlace).2 hLookup)

/-- A text that was not written over is read as before. -/
theorem Keeps.readText (h : Keeps written tree other) {text : String}
    (hApart : ∀ place ∈ written, ¬ tree.LeadsTo path place)
    (hRead : tree.readText path = .ok text) : other.readText path = .ok text :=
  readText_of_readBytes (h.readBytes hApart (readBytes_of_readText hRead))

/-! ## Writing a file -/

/-- Two trees with the same folders, and with the same files but for those at some places. -/
structure SameBut (written : List Location) (tree other : FileTree) : Prop where
  working : other.working = tree.working
  folders : ∀ place, other.lookup place = some .folder ↔ tree.lookup place = some .folder
  files : ∀ place bytes, place ∉ written →
    (other.lookup place = some (.file bytes) ↔ tree.lookup place = some (.file bytes))

/-- A tree that is the same but for some files keeps the others. -/
theorem SameBut.keeps (h : SameBut written tree other) : Keeps written tree other :=
  ⟨h.working, fun place => (h.folders place).2, h.files⟩

/-- Two trees are the same but for some files whichever of them comes first. -/
theorem SameBut.symm (h : SameBut written tree other) : SameBut written other tree :=
  ⟨h.working.symm, fun place => (h.folders place).symm,
    fun place bytes hApart => (h.files place bytes hApart).symm⟩

/-- Files may differ where they do in one of two steps. -/
theorem SameBut.trans (h : SameBut written tree middle) (h' : SameBut later middle other) :
    SameBut (written ++ later) tree other where
  working := h'.working.trans h.working
  folders place := (h'.folders place).trans (h.folders place)
  files := (h.keeps.trans h'.keeps).files

/-- A path leads to the same place in both. -/
theorem SameBut.leadsTo_iff (h : SameBut written tree other) :
    other.LeadsTo path place ↔ tree.LeadsTo path place :=
  ⟨h.symm.keeps.leadsTo, h.keeps.leadsTo⟩

/-- A file that is put into a tree is the only one to change. -/
theorem sameBut_put (hRoot : place ≠ []) (hFolder : tree.lookup place ≠ some .folder)
    (bytes : ByteArray) : SameBut [place] tree (tree.put place (.file bytes)) where
  working := rfl
  folders other := by
    by_cases hSame : other = place
    · subst hSame
      rw [lookup_put_self _ hRoot]
      simp [hFolder]
    · rw [lookup_put_of_ne _ hSame]
  files other content hApart := by
    rw [List.mem_singleton] at hApart
    rw [lookup_put_of_ne _ hApart]

/-- A path at which a file can be written: it leads to a name in a folder, and no folder has that
name. -/
structure Takes (tree : FileTree) (path : Path) (parent : Location) (name : String) : Prop where
  target : tree.resolve path = .ok (.entry parent name false)
  fits : ¬ maxNameBytes < name.utf8ByteSize
  noFolder : tree.lookup (parent ++ [name]) ≠ some .folder

section
variable {parent : Location} {name : String}

/-- A path that takes a file leads to it. -/
theorem Takes.leadsTo (h : tree.Takes path parent name) : tree.LeadsTo path (parent ++ [name]) :=
  ⟨parent, name, false, h.target, rfl⟩

/-- A path takes a file in every tree with the same folders. -/
theorem SameBut.takes (h : SameBut written tree other) (hTakes : tree.Takes path parent name) :
    other.Takes path parent name where
  target := h.keeps.resolve hTakes.target
  fits := hTakes.fits
  noFolder := fun hFolder => hTakes.noFolder ((h.folders _).1 hFolder)

/-- What is put at a path that takes a file is read there, and nowhere else. -/
theorem Takes.put (h : tree.Takes path parent name) (bytes : ByteArray) :
    SameBut [parent ++ [name]] tree (tree.put (parent ++ [name]) (.file bytes)) ∧
      (tree.put (parent ++ [name]) (.file bytes)).readBytes path = .ok bytes := by
  have hRoot : parent ++ [name] ≠ [] := by simp
  have hSame := sameBut_put hRoot h.noFolder bytes
  exact ⟨hSame, readBytes_of_entry (hSame.keeps.resolve h.target) h.fits
    (lookup_put_self _ hRoot)⟩

end

/-- A file is written exactly where a path takes one. -/
theorem writeBytes_ok_iff {next : FileTree} {bytes : ByteArray} :
    tree.writeBytes path bytes = .ok next ↔
      ∃ parent name, tree.Takes path parent name ∧
        next = tree.put (parent ++ [name]) (.file bytes) := by
  constructor
  · intro h
    -- every way in which writing fails is ruled out, one after the other
    unfold writeBytes at h
    cases hTarget : tree.resolve path with
    | error e => simp [hTarget, bind, Except.bind] at h
    | ok target =>
      cases target with
      | folder place => simp [hTarget, bind, Except.bind] at h
      | entry parent name slash =>
        simp only [hTarget, bind, Except.bind] at h
        cases slash with
        | true => simp at h
        | false =>
          simp only [Bool.false_eq_true, if_false] at h
          cases hEntry : tree.entryAt parent name with
          | error e => simp [hEntry] at h
          | ok found =>
            obtain ⟨hFits, hLookup⟩ := lookup_of_entryAt hEntry
            simp only [hEntry] at h
            split at h
            · contradiction
            · rename_i hNotFolder
              refine ⟨parent, name, ⟨hTarget, hFits, ?_⟩, (Except.ok.inj h).symm⟩
              rw [hLookup]
              exact fun hFolder => hNotFolder (by rw [hFolder])
  · rintro ⟨parent, name, h, rfl⟩
    have hEntry : tree.entryAt parent name = .ok (tree.lookup (parent ++ [name])) := by
      rw [entryAt, if_neg h.fits]
    simp only [writeBytes, h.target, hEntry, bind, Except.bind, Bool.false_eq_true, if_false]
    split
    · rename_i hFound
      exact absurd hFound h.noFolder
    · rfl

/-- A text is written exactly if its bytes are. -/
theorem writeText_ok_iff {next : FileTree} {text : String} :
    (Files.writeText path text : StateM FileTree _).run tree = (.ok (), next) ↔
      tree.writeBytes path text.toUTF8 = .ok next := by
  cases hWrite : tree.writeBytes path text.toUTF8 with
  | error e =>
    simp only [Files.writeText, StateT.run, hWrite]
    exact iff_of_false (fun h => by cases h) (fun h => by cases h)
  | ok written =>
    simp only [Files.writeText, StateT.run, hWrite]
    constructor
    · intro h
      obtain ⟨-, rfl⟩ := Prod.mk.inj h
      rfl
    · intro h
      obtain rfl := Except.ok.inj h
      rfl

/-- A text is written wherever a path takes a file. -/
theorem Takes.writeText {parent : Location} {name : String} (h : tree.Takes path parent name)
    (text : String) :
    ∃ next, (Files.writeText path text : StateM FileTree _).run tree = (.ok (), next) :=
  ⟨_, writeText_ok_iff.2 (writeBytes_ok_iff.2 ⟨parent, name, h, rfl⟩)⟩

/-- **A text that was written** is read back, and no other file was changed. -/
theorem sameBut_writeText {next : FileTree} {text : String}
    (h : (Files.writeText path text : StateM FileTree _).run tree = (.ok (), next)) :
    ∃ place, tree.LeadsTo path place ∧ SameBut [place] tree next ∧
      next.readText path = .ok text := by
  obtain ⟨parent, name, hTakes, rfl⟩ := writeBytes_ok_iff.1 (writeText_ok_iff.1 h)
  obtain ⟨hSame, hRead⟩ := hTakes.put text.toUTF8
  exact ⟨_, hTakes.leadsTo, hSame, readText_of_readBytes hRead⟩

/-! ## Making folders -/

/-- A folder that is put where nothing was keeps all files. -/
theorem keeps_put_folder (hRoot : place ≠ []) (hNone : tree.lookup place = none) :
    Keeps [] tree (tree.put place .folder) where
  working := rfl
  folders other hOther := by
    by_cases hSame : other = place
    · subst hSame
      rw [hNone] at hOther
      contradiction
    · rwa [lookup_put_of_ne _ hSame]
  files other content _ := by
    by_cases hSame : other = place
    · subst hSame
      rw [lookup_put_self _ hRoot, hNone]
      simp
    · rw [lookup_put_of_ne _ hSame]

/-- A path that leads to a folder is that of a folder. -/
theorem isFolder_of_entry {parent : Location} {name : String} {slash : Bool}
    (hTarget : tree.resolve path = .ok (.entry parent name slash))
    (hFits : ¬ maxNameBytes < name.utf8ByteSize)
    (hFolder : tree.lookup (parent ++ [name]) = some .folder) : tree.isFolder path = true := by
  simp [isFolder, hTarget, entryAt, hFits, hFolder]

/-- A folder is made where nothing was, and it is there afterwards. -/
theorem keeps_createFolder {made : FileTree} (h : tree.createFolder path = .ok made) :
    Keeps [] tree made ∧ made.isFolder path = true := by
  unfold createFolder at h
  cases hTarget : tree.resolve path with
  | error e => simp [hTarget, bind, Except.bind] at h
  | ok target =>
    cases target with
    | folder place => simp [hTarget, bind, Except.bind] at h
    | entry parent name slash =>
      simp only [hTarget, bind, Except.bind] at h
      cases hEntry : tree.entryAt parent name with
      | error e => simp [hEntry] at h
      | ok found =>
        cases found with
        | some entry => simp [hEntry] at h
        | none =>
          simp only [hEntry] at h
          obtain rfl := Except.ok.inj h
          obtain ⟨hFits, hLookup⟩ := lookup_of_entryAt hEntry
          have hRoot : parent ++ [name] ≠ [] := by simp
          have hKeeps := keeps_put_folder hRoot hLookup
          exact ⟨hKeeps, isFolder_of_entry (hKeeps.resolve hTarget) hFits
            (lookup_put_self _ hRoot)⟩

/-- **Making folders keeps every folder and every file**, also if it fails on the way. -/
theorem keeps_createFolders (tree : FileTree) (path : Path) :
    Keeps [] tree (tree.createFolders path).2 := by
  -- a missing folder above is made first, by the same rule
  fun_induction createFolders tree path with
  | case1 => exact .refl _
  | case2 _ _ made hMade => exact (keeps_createFolder hMade).1
  | case3 => exact .refl _
  | case4 _ _ _ _ _ _ _ hAbove ih =>
    rw [hAbove] at ih
    exact ih
  | case5 _ _ _ _ _ _ hAbove _ hMade ih =>
    rw [hAbove] at ih
    exact ih.trans (keeps_createFolder hMade).1
  | case6 _ _ _ _ _ _ hAbove _ _ ih =>
    rw [hAbove] at ih
    exact ih
  | case7 => exact .refl _

/-- **A folder that is there is not made again.** -/
theorem createFolders_of_isFolder (h : tree.isFolder path = true) :
    tree.createFolders path = (.ok (), tree) := by
  have hExists : tree.createFolder path = .error .alreadyExists := by
    unfold isFolder at h
    unfold createFolder
    cases hTarget : tree.resolve path with
    | error e => simp [hTarget] at h
    | ok target =>
      cases target with
      | folder place => rfl
      | entry parent name slash =>
        simp only [hTarget] at h
        cases hEntry : tree.entryAt parent name with
        | error e => simp [hEntry] at h
        | ok found =>
          cases found with
          | none => simp [hEntry] at h
          | some entry => simp [hEntry, bind, Except.bind]
  unfold createFolders
  split
  · rfl
  · simp [hExists]

/-- Where folders were made there is a folder afterwards. -/
theorem isFolder_of_createFolders {made : FileTree}
    (h : tree.createFolders path = (.ok (), made)) :
    path.text = "" ∨ made.isFolder path = true := by
  unfold createFolders at h
  split at h
  · rename_i hNone
    exact .inl hNone
  · right
    -- a folder was made, or it was there
    split at h
    · rename_i hMade
      obtain rfl := (Prod.mk.inj h).2
      exact (keeps_createFolder hMade).2
    · split at h
      · simp at h
      · split at h
        · simp at h
        · split at h
          · rename_i hMade
            obtain rfl := (Prod.mk.inj h).2
            exact (keeps_createFolder hMade).2
          · obtain ⟨hOk, rfl⟩ := Prod.mk.inj h
            split at hOk
            · assumption
            · contradiction
    · obtain ⟨hOk, rfl⟩ := Prod.mk.inj h
      split at hOk
      · assumption
      · contradiction

/-- A folder stays one. -/
theorem Keeps.isFolder (h : Keeps written tree other) (hFolder : tree.isFolder path = true) :
    other.isFolder path = true := by
  unfold FileTree.isFolder at hFolder ⊢
  cases hTarget : tree.resolve path with
  | error e => simp [hTarget] at hFolder
  | ok target =>
    rw [h.resolve hTarget]
    cases target with
    | folder place => rfl
    | entry parent name slash =>
      simp only [hTarget] at hFolder ⊢
      split at hFolder
      · rename_i hEntry
        obtain ⟨hFits, hLookup⟩ := lookup_of_entryAt hEntry
        rw [entryAt, if_neg hFits, h.folders _ hLookup]
      · contradiction

/-- Folders that were made once are there, whatever was written since. -/
theorem Keeps.createFolders {first made : FileTree}
    (hMade : first.createFolders path = (.ok (), made)) (h : Keeps written made other) :
    other.createFolders path = (.ok (), other) := by
  rcases isFolder_of_createFolders hMade with hNone | hFolder
  · rw [FileTree.createFolders, if_pos hNone]
  · exact createFolders_of_isFolder (h.isFolder hFolder)

end FileTree

end ScriptWindows
