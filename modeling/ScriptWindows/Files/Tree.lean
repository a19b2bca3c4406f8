import ScriptWindows.Files.Basic

/-!
# A file tree in memory

Files and folders by their location, the list of names from the root, together with the folder
in which relative paths begin. A path is walked name by name: every place it passes through has
to be a folder, `..` goes up, and the root is above itself. The tree has room for everything, so a
file that can be opened can be written to its end: nothing is said here of a write that empties a
file and then breaks off.

Main results:

* `lookup_put_self`, `lookup_put_of_ne`: putting an entry is seen at its location and nowhere
  else.
* `readText_tree`: reading leaves the tree as it is.
* `writeText_error_tree`: a file that cannot be opened for writing leaves the tree as it is.
-/

namespace ScriptWindows

/-- The names that lead from the root to a place. -/
abbrev Location := List String

/-- What lives at a location. -/
inductive Entry
  | file (bytes : ByteArray)
  | folder

instance : DecidableEq Entry
  | .file bytes, .file other =>
    match ByteArray.instDecidableEq bytes other with
    | isTrue h => isTrue (congrArg Entry.file h)
    | isFalse h => isFalse fun same => h (Entry.file.inj same)
  | .file _, .folder => isFalse nofun
  | .folder, .file _ => isFalse nofun
  | .folder, .folder => isTrue rfl

/-- A tree of files and the folder in which relative paths begin. -/
structure FileTree where
  entries : List (Location × Entry) := []
  working : Location := []

namespace FileTree

/-- What lives at a location. The root is always a folder. -/
def lookup (tree : FileTree) (place : Location) : Option Entry :=
  if place = [] then some .folder else tree.entries.lookup place

/-- Replace what lives at a location, or add it at the end. -/
def putEntry (place : Location) (entry : Entry) : List (Location × Entry) → List (Location × Entry)
  | [] => [(place, entry)]
  | (other, old) :: rest =>
    if other = place then (place, entry) :: rest else (other, old) :: putEntry place entry rest

def put (tree : FileTree) (place : Location) (entry : Entry) : FileTree :=
  { tree with entries := putEntry place entry tree.entries }

/-! ## Walking a path -/

/-- The longest name a folder can hold, in bytes. -/
def maxNameBytes : Nat := 255

/-- The longest path that can be walked, in bytes. -/
def maxPathBytes : Nat := 4095

/-- Where a path leads: to a folder it names by `.`, `..` or the root itself, or to a name in a
folder that need not exist yet, with or without a slash behind it. -/
inductive Target
  | folder (place : Location)
  | entry (parent : Location) (name : String) (slash : Bool)
deriving DecidableEq, Repr

/-- One step into a folder. -/
def stepInto (tree : FileTree) (current : Location) (name : String) :
    Except FileError Location :=
  if name = "." then .ok current
  else if name = ".." then .ok current.dropLast
  else if maxNameBytes < name.utf8ByteSize then .error .nameTooLong
  else match tree.lookup (current ++ [name]) with
    | none => .error .notFound
    | some (.file _) => .error .notFolder
    | some .folder => .ok (current ++ [name])

/-- Walk through folders. -/
def walk (tree : FileTree) (current : Location) : List String → Except FileError Location
  | [] => .ok current
  | name :: rest => do walk tree (← stepInto tree current name) rest

/-- The names of a path, from its first to its last. -/
def names (path : Path) : List String :=
  ((Text.pieces '/' path.text.toList).filter (· ≠ [])).map String.ofList

/-- Where a path leads. -/
def resolve (tree : FileTree) (path : Path) : Except FileError Target :=
  -- the path itself is judged before anything on its way
  if path.text.toList.any (·.toNat = 0) then .error .zeroByte
  else if maxPathBytes < path.text.utf8ByteSize then .error .nameTooLong
  else if path.text = "" then .error .notFound
  else
    let origin := if path.isAbsolute then [] else tree.working
    match (names path).getLast? with
    | none => .ok (.folder origin)
    | some last => do
      let parent ← tree.walk origin (names path).dropLast
      if last = "." then .ok (.folder parent)
      else if last = ".." then .ok (.folder parent.dropLast)
      else .ok (.entry parent last (path.text.toList.getLast? == some '/'))

/-- What lives at a name in a folder. -/
def entryAt (tree : FileTree) (parent : Location) (name : String) :
    Except FileError (Option Entry) :=
  if maxNameBytes < name.utf8ByteSize then .error .nameTooLong
  else .ok (tree.lookup (parent ++ [name]))

/-! ## Operations -/

/-- The bytes of a file. -/
def readBytes (tree : FileTree) (path : Path) : Except FileError ByteArray := do
  match ← tree.resolve path with
  | .folder _ => .error .isFolder
  | .entry parent name slash =>
    match ← tree.entryAt parent name with
    | none => .error .notFound
    | some .folder => .error .isFolder
    | some (.file bytes) => if slash then .error .notFolder else .ok bytes

/-- The text of a file. -/
def readText (tree : FileTree) (path : Path) : Except FileError String := do
  match String.fromUTF8? (← tree.readBytes path) with
  | some text => .ok text
  | none => .error .notText

/-- The tree in which a file holds these bytes. What can fail is opening the file, and that comes
before its old bytes are dropped. -/
def writeBytes (tree : FileTree) (path : Path) (bytes : ByteArray) : Except FileError FileTree := do
  match ← tree.resolve path with
  | .folder _ => .error .isFolder
  | .entry parent name slash =>
    if slash then .error .isFolder
    else match ← tree.entryAt parent name with
      | some .folder => .error .isFolder
      | _ => .ok (tree.put (parent ++ [name]) (.file bytes))

/-- The tree with one more folder. -/
def createFolder (tree : FileTree) (path : Path) : Except FileError FileTree := do
  match ← tree.resolve path with
  | .folder _ => .error .alreadyExists
  | .entry parent name _ =>
    match ← tree.entryAt parent name with
    | some _ => .error .alreadyExists
    | none => .ok (tree.put (parent ++ [name]) .folder)

/-- Whether a path leads to a folder. -/
def isFolder (tree : FileTree) (path : Path) : Bool :=
  match tree.resolve path with
  | .error _ => false
  | .ok (.folder _) => true
  | .ok (.entry parent name _) =>
    match tree.entryAt parent name with
    | .ok (some .folder) => true
    | _ => false

/-- Make a folder and what is missing above it. What was made before a failure stays. -/
def createFolders (tree : FileTree) (path : Path) : Except FileError Unit × FileTree :=
  if path.text = "" then (.ok (), tree)
  else match tree.createFolder path with
    | .ok made => (.ok (), made)
    | .error .notFound =>
      -- something above is missing: make that first, then try again
      match _up : path.parent with
      | none => (.error (.other "failed to create whole tree"), tree)
      | some parent =>
        match tree.createFolders parent with
        | (.error e, above) => (.error e, above)
        | (.ok (), above) =>
          match above.createFolder path with
          | .ok made => (.ok (), made)
          | .error e => (if above.isFolder path then .ok () else .error e, above)
    | .error e => (if tree.isFolder path then .ok () else .error e, tree)
termination_by path.text.toList.length
decreasing_by exact Path.length_parent_lt _up

/-- A tree is read and written as a whole: there is room for every text. -/
instance : Files (StateM FileTree) where
  readText path := fun tree => (tree.readText path, tree)
  writeText path text := fun tree =>
    match tree.writeBytes path text.toUTF8 with
    | .ok written => (.ok (), written)
    | .error e => (.error e, tree)
  createFolders path := fun tree => tree.createFolders path

/-! ## Laws -/

/-- An entry is found behind its location in the list of entries. -/
theorem lookup_putEntry_self (place : Location) (entry : Entry)
    (entries : List (Location × Entry)) :
    (putEntry place entry entries).lookup place = some entry := by
  induction entries with
  | nil => simp [putEntry]
  | cons head rest ih =>
    obtain ⟨other, old⟩ := head
    by_cases h : other = place
    · simp [putEntry, h]
    · have : (place == other) = false := by simpa using Ne.symm h
      simp [putEntry, h, List.lookup_cons, this, ih]

/-- No other location of the list is touched. -/
theorem lookup_putEntry_of_ne {place other : Location} (entry : Entry)
    (entries : List (Location × Entry)) (h : other ≠ place) :
    (putEntry place entry entries).lookup other = entries.lookup other := by
  induction entries with
  | nil =>
    have : (other == place) = false := by simpa using h
    simp [putEntry, List.lookup_cons, this]
  | cons head rest ih =>
    obtain ⟨first, old⟩ := head
    by_cases same : first = place
    · have : (other == place) = false := by simpa using h
      simp [putEntry, same, List.lookup_cons, this]
    · simp [putEntry, same, List.lookup_cons, ih]

/-- An entry is found where it was put. -/
theorem lookup_put_self {tree : FileTree} {place : Location} (entry : Entry) (h : place ≠ []) :
    (tree.put place entry).lookup place = some entry := by
  simp [lookup, put, h, lookup_putEntry_self]

/-- Putting an entry changes no other location. -/
theorem lookup_put_of_ne {tree : FileTree} {place other : Location} (entry : Entry)
    (h : other ≠ place) : (tree.put place entry).lookup other = tree.lookup other := by
  simp [lookup, put, lookup_putEntry_of_ne entry tree.entries h]

/-- Reading leaves the tree as it is. -/
theorem readText_tree (tree : FileTree) (path : Path) :
    ((Files.readText path : StateM FileTree _).run tree).2 = tree := rfl

/-- A file that cannot be opened for writing leaves the tree as it is. -/
theorem writeText_error_tree {tree after : FileTree} {path : Path} {text : String}
    {e : FileError}
    (h : (Files.writeText path text : StateM FileTree _).run tree = (.error e, after)) :
    after = tree := by
  change (match tree.writeBytes path text.toUTF8 with
    | .ok written => (Except.ok (), written)
    | .error e => (.error e, tree)) = (.error e, after) at h
  split at h
  · simp at h
  · simpa using (congrArg Prod.snd h).symm

end FileTree

end ScriptWindows
