import ScriptWindows.Files.Tree

/-!
# Writing a file that is there

A file that can be read can be written. Afterwards it holds exactly the new text, every path still
leads where it led before, and writing what the file held already is as good as not writing.

Main results:

* `run_bind_of_ok`: a program over a tree goes on from where its first part ended.
* `run_bind_error`: a program that fails does so in its first part, or behind it.
* `run_bind_ok_iff`: a program comes to a value part by part.
* `writeText_of_readText`: a file that is there takes any text, and reads back as that text.
-/

namespace ScriptWindows

/-! ## Programs over a tree -/

section
variable {ε σ α β : Type} {s s' : σ}

/-- A program goes on from the value its first part came to. -/
theorem run_bind_of_ok {x : ExceptT ε (StateM σ) α} {f : α → ExceptT ε (StateM σ) β} {a : α}
    (h : x.run.run s = (.ok a, s')) : (x >>= f).run.run s = (f a).run.run s' := by
  rw [ExceptT.run_bind, StateT.run_bind, h]
  rfl

/-- A program goes on from what the system answered. -/
theorem run_lift_bind {x : StateM σ α} {f : α → ExceptT ε (StateM σ) β} {a : α}
    (h : x.run s = (a, s')) :
    ((liftM x : ExceptT ε (StateM σ) α) >>= f).run.run s = (f a).run.run s' := by
  refine run_bind_of_ok ?_
  show (Except.ok (x.run s).1, (x.run s).2) = _
  rw [h]

/-- A program whose first part fails goes no further. -/
theorem run_bind_of_error {x : ExceptT ε (StateM σ) α} {f : α → ExceptT ε (StateM σ) β} {e : ε}
    (h : x.run.run s = (.error e, s')) : (x >>= f).run.run s = (.error e, s') := by
  rw [ExceptT.run_bind, StateT.run_bind, h]
  rfl

/-- A program that fails does so in its first part, or in what follows where that part ended. -/
theorem run_bind_error {x : ExceptT ε (StateM σ) α} {f : α → ExceptT ε (StateM σ) β} {e : ε}
    (h : (x >>= f).run.run s = (.error e, s')) :
    x.run.run s = (.error e, s') ∨
      ∃ a middle, x.run.run s = (.ok a, middle) ∧ (f a).run.run middle = (.error e, s') := by
  cases hFirst : x.run.run s with
  | mk result middle =>
    cases result with
    | error cause =>
      -- the second part is not reached
      have hStopped : (x >>= f).run.run s = (.error cause, middle) := run_bind_of_error hFirst
      obtain ⟨hCause, hState⟩ := Prod.mk.inj (hStopped.symm.trans h)
      obtain rfl := Except.error.inj hCause
      exact .inl (congrArg _ hState)
    | ok a =>
      rw [run_bind_of_ok hFirst] at h
      exact .inr ⟨a, middle, rfl, h⟩

/-- A program comes to a value where its first part does, and what follows does from there. -/
theorem run_bind_ok_iff {x : ExceptT ε (StateM σ) α} {f : α → ExceptT ε (StateM σ) β} {b : β} :
    (x >>= f).run.run s = (.ok b, s') ↔
      ∃ a middle, x.run.run s = (.ok a, middle) ∧ (f a).run.run middle = (.ok b, s') := by
  constructor
  · intro h
    cases hFirst : x.run.run s with
    | mk result middle =>
      cases result with
      | error cause =>
        rw [run_bind_of_error hFirst] at h
        cases h
      | ok a =>
        rw [run_bind_of_ok hFirst] at h
        exact ⟨a, middle, rfl, h⟩
  · rintro ⟨a, middle, hFirst, hRest⟩
    rw [run_bind_of_ok hFirst, hRest]

/-- A call of the system that a program makes does not end it: what follows decides. -/
theorem run_lift_bind_error {x : StateM σ α} {f : α → ExceptT ε (StateM σ) β} {e : ε}
    (h : ((liftM x : ExceptT ε (StateM σ) α) >>= f).run.run s = (.error e, s')) :
    ∃ a middle, x.run s = (a, middle) ∧ (f a).run.run middle = (.error e, s') := by
  have hRun : x.run s = ((x.run s).1, (x.run s).2) := rfl
  rw [run_lift_bind hRun] at h
  exact ⟨_, _, hRun, h⟩

/-- Wrapping the errors of a program does not change what it does. -/
theorem run_adapt {x : ExceptT ε (StateM σ) α} {ε' : Type} (f : ε → ε') :
    (x.adapt f).run.run s = ((x.run.run s).1.mapError f, (x.run.run s).2) := rfl

/-- A wrapped error has a cause. -/
theorem run_adapt_error {x : ExceptT ε (StateM σ) α} {ε' : Type} {f : ε → ε'} {e : ε'}
    (h : (x.adapt f).run.run s = (.error e, s')) :
    ∃ cause, x.run.run s = (.error cause, s') ∧ e = f cause := by
  rw [run_adapt] at h
  cases hRun : x.run.run s with
  | mk result after =>
    rw [hRun] at h
    obtain ⟨hError, rfl⟩ := Prod.mk.inj h
    cases result with
    | error cause => exact ⟨cause, rfl, (Except.error.inj hError).symm⟩
    | ok a => contradiction

/-- A value is not wrapped. -/
theorem run_adapt_ok {x : ExceptT ε (StateM σ) α} {ε' : Type} {f : ε → ε'} {a : α}
    (h : (x.adapt f).run.run s = (.ok a, s')) : x.run.run s = (.ok a, s') := by
  rw [run_adapt] at h
  cases hRun : x.run.run s with
  | mk result after =>
    rw [hRun] at h
    obtain ⟨hOk, rfl⟩ := Prod.mk.inj h
    cases result with
    | error cause => contradiction
    | ok b =>
      obtain rfl := Except.ok.inj hOk
      rfl

end

namespace FileTree

/-! ## Bytes of texts -/

/-- The bytes of a text that was read are those of the text. -/
theorem readBytes_of_readText {tree : FileTree} {path : Path} {text : String}
    (h : tree.readText path = .ok text) : tree.readBytes path = .ok text.toUTF8 := by
  unfold readText at h
  cases hBytes : tree.readBytes path with
  | error e => simp [hBytes, bind, Except.bind] at h
  | ok bytes =>
    simp only [hBytes, bind, Except.bind] at h
    split at h
    · rename_i read hRead
      obtain rfl := Except.ok.inj h
      -- bytes that decode are the bytes of what they decode to
      unfold String.fromUTF8? at hRead
      split at hRead
      · obtain rfl := Option.some.inj hRead
        rfl
      · contradiction
    · contradiction

/-- A file that holds the bytes of a text is read as that text. -/
theorem readText_of_readBytes {tree : FileTree} {path : Path} {text : String}
    (h : tree.readBytes path = .ok text.toUTF8) : tree.readText path = .ok text := by
  have hValid : String.fromUTF8? text.toUTF8 = some text := by
    rw [String.fromUTF8?, String.toUTF8_eq_toByteArray, dif_pos text.isValidUTF8]
    rfl
  simp only [readText, h, bind, Except.bind, hValid]

/-! ## Trees of one shape -/

/-- Two trees with folders and files at the same places. -/
structure SameShape (tree other : FileTree) : Prop where
  working : tree.working = other.working
  folders : ∀ place, tree.lookup place = some .folder ↔ other.lookup place = some .folder
  missing : ∀ place, tree.lookup place = none ↔ other.lookup place = none

/-- A step into a folder is the same in trees of one shape. -/
theorem SameShape.stepInto {tree other : FileTree} (h : SameShape tree other) (current : Location)
    (name : String) : tree.stepInto current name = other.stepInto current name := by
  have hFolder := h.folders (current ++ [name])
  have hMissing := h.missing (current ++ [name])
  -- a step asks for nothing but whether there is a folder, or nothing at all
  unfold FileTree.stepInto
  split
  · rfl
  · split
    · rfl
    · split
      · rfl
      · cases hTree : tree.lookup (current ++ [name]) with
        | none => simp [hMissing.1 hTree]
        | some entry =>
          cases hOther : other.lookup (current ++ [name]) with
          | none => simp [hTree] at hMissing; simp [hMissing] at hOther
          | some other =>
            cases entry <;> cases other <;> simp_all

/-- So is a walk. -/
theorem SameShape.walk {tree other : FileTree} (h : SameShape tree other) (current : Location)
    (names : List String) : tree.walk current names = other.walk current names := by
  -- one name after another: each step leads to the same place in both trees
  induction names generalizing current with
  | nil => rfl
  | cons name rest ih =>
    rw [FileTree.walk, FileTree.walk, h.stepInto]
    cases other.stepInto current name with
    | error e => rfl
    | ok place => exact ih place

/-- In trees of one shape a path leads to one place. -/
theorem SameShape.resolve {tree other : FileTree} (h : SameShape tree other) (path : Path) :
    tree.resolve path = other.resolve path := by
  unfold FileTree.resolve
  simp only [h.working, h.walk]

/-- Writing over a file keeps the shape of a tree. -/
theorem sameShape_put {tree : FileTree} {place : Location} {old : ByteArray}
    (h : tree.lookup place = some (.file old)) (bytes : ByteArray) :
    SameShape (tree.put place (.file bytes)) tree := by
  -- the root is a folder, so the file is not there
  have hRoot : place ≠ [] := by
    rintro rfl
    simp [lookup] at h
  refine ⟨rfl, ?_, ?_⟩
  · intro other
    by_cases hSame : other = place
    · subst hSame
      rw [lookup_put_self _ hRoot, h]
      simp
    · rw [lookup_put_of_ne _ hSame]
  · intro other
    by_cases hSame : other = place
    · subst hSame
      rw [lookup_put_self _ hRoot, h]
      simp
    · rw [lookup_put_of_ne _ hSame]

/-- Nothing changes when what is there is put there. -/
theorem putEntry_of_lookup {place : Location} {entry : Entry} {entries : List (Location × Entry)}
    (h : entries.lookup place = some entry) : putEntry place entry entries = entries := by
  induction entries with
  | nil => contradiction
  | cons head rest ih =>
    obtain ⟨other, old⟩ := head
    by_cases hSame : other = place
    · subst hSame
      have hEntry : old = entry := by simpa using h
      simp [putEntry, hEntry]
    · have hNe : (place == other) = false := by simpa using Ne.symm hSame
      rw [List.lookup_cons, hNe] at h
      rw [putEntry, if_neg hSame, ih h]

/-- Putting what is there already changes nothing. -/
theorem put_of_lookup {tree : FileTree} {place : Location} {entry : Entry} (hRoot : place ≠ [])
    (h : tree.lookup place = some entry) : tree.put place entry = tree := by
  rw [lookup, if_neg hRoot] at h
  rw [put, putEntry_of_lookup h]

/-! ## Files -/

/-- A file that can be read is an entry of a folder. -/
theorem exists_entry_of_readBytes {tree : FileTree} {path : Path} {bytes : ByteArray}
    (h : tree.readBytes path = .ok bytes) :
    ∃ parent name, tree.resolve path = .ok (.entry parent name false) ∧
      tree.entryAt parent name = .ok (some (.file bytes)) := by
  -- every way in which reading fails is ruled out, one after the other
  unfold readBytes at h
  cases hTarget : tree.resolve path with
  | error e => simp [hTarget, bind, Except.bind] at h
  | ok target =>
    cases target with
    | folder place => simp [hTarget, bind, Except.bind] at h
    | entry parent name slash =>
      cases hEntry : tree.entryAt parent name with
      | error e => simp [hTarget, hEntry, bind, Except.bind] at h
      | ok found =>
        simp only [hTarget, hEntry, bind, Except.bind] at h
        split at h
        · contradiction
        · contradiction
        · split at h
          · contradiction
          · rename_i hSlash
            obtain rfl := Except.ok.inj h
            obtain rfl : slash = false := by simpa using hSlash
            exact ⟨parent, name, rfl, hEntry⟩

/-- What is found at a name in a folder is what lives there. -/
theorem lookup_of_entryAt {tree : FileTree} {parent : Location} {name : String}
    {found : Option Entry} (h : tree.entryAt parent name = .ok found) :
    ¬ maxNameBytes < name.utf8ByteSize ∧ tree.lookup (parent ++ [name]) = found := by
  unfold entryAt at h
  split at h
  · contradiction
  · rename_i hFits
    exact ⟨hFits, Except.ok.inj h⟩

/-- A file that is there takes any bytes. -/
theorem writeBytes_of_readBytes {tree : FileTree} {path : Path} {old : ByteArray}
    (h : tree.readBytes path = .ok old) (bytes : ByteArray) :
    ∃ next, tree.writeBytes path bytes = .ok next ∧ next.readBytes path = .ok bytes ∧
      (bytes = old → next = tree) := by
  obtain ⟨parent, name, hTarget, hEntry⟩ := exists_entry_of_readBytes h
  obtain ⟨hFits, hLookup⟩ := lookup_of_entryAt hEntry
  -- the entry stands below the root, and the path still leads to it afterwards
  have hRoot : parent ++ [name] ≠ [] := by simp
  refine ⟨tree.put (parent ++ [name]) (.file bytes), ?_, ?_, ?_⟩
  · simp [writeBytes, hTarget, hEntry, bind, Except.bind]
  · have hThere : (tree.put (parent ++ [name]) (.file bytes)).entryAt parent name =
        .ok (some (.file bytes)) := by
      rw [entryAt, if_neg hFits, lookup_put_self _ hRoot]
    simp [readBytes, (sameShape_put hLookup bytes).resolve, hTarget, hThere, bind, Except.bind]
  · rintro rfl
    exact put_of_lookup hRoot hLookup

/-- **A file that is there takes any text**, and reads back as that text. Writing the text it held
leaves the tree as it was. -/
theorem writeText_of_readText {tree : FileTree} {path : Path} {old : String}
    (h : tree.readText path = .ok old) (text : String) :
    ∃ next, (Files.writeText path text : StateM FileTree _).run tree = (.ok (), next) ∧
      next.readText path = .ok text ∧ (text = old → next = tree) := by
  obtain ⟨next, hWrite, hRead, hSame⟩ :=
    writeBytes_of_readBytes (readBytes_of_readText h) text.toUTF8
  refine ⟨next, ?_, readText_of_readBytes hRead, fun hText => hSame (by rw [hText])⟩
  simp only [Files.writeText, StateT.run, hWrite]

end FileTree

end ScriptWindows
